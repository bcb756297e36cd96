import Tabula.Number.Decimal

/-!
# Calendar dates

A date of the proleptic Gregorian calendar with a year from -9999 to 9999, where the year 0
exists. The written form is `YYYY-MM-DD`, with a minus sign before a negative year. Reading also
takes a plus sign and the spelling `-0000`; apart from that each date has one spelling.
-/

namespace Tabula

/-- Whether the year has a 29th of February. -/
def isLeapYear (year : Int) : Bool :=
  year % 4 == 0 && (year % 100 != 0 || year % 400 == 0)

/-- The number of days of a month, and zero for a number that is no month. -/
def daysInMonth (year : Int) (month : Nat) : Nat :=
  match month with
  | 1 | 3 | 5 | 7 | 8 | 10 | 12 => 31
  | 4 | 6 | 9 | 11 => 30
  | 2 => if isLeapYear year then 29 else 28
  | _ => 0

/-- Year, month and day name a day of the calendar. -/
def IsCalendarDay (year : Int) (month day : Nat) : Prop :=
  -9999 ≤ year ∧ year ≤ 9999 ∧ 1 ≤ day ∧ day ≤ daysInMonth year month

instance (year : Int) (month day : Nat) : Decidable (IsCalendarDay year month day) :=
  inferInstanceAs (Decidable (_ ∧ _))

/-- A day of the calendar. -/
structure Date where
  year : Int
  month : Nat
  day : Nat
  isCalendarDay : IsCalendarDay year month day
deriving DecidableEq, Repr

namespace Date

/-- The date with the given year, month and day, if there is one. -/
def ofYearMonthDay? (year : Int) (month day : Nat) : Option Date :=
  if h : IsCalendarDay year month day then some ⟨year, month, day, h⟩ else none

/-- The order of two dates in time. -/
def compare (a b : Date) : Ordering :=
  (Ord.compare a.year b.year).then ((Ord.compare a.month b.month).then (Ord.compare a.day b.day))

/-- A number written with leading zeros up to the given width. -/
def padded (width n : Nat) : List Char :=
  let text := Decimal.digitText n
  List.replicate (width - text.length) '0' ++ text

/-- The written form. -/
def toChars (d : Date) : List Char :=
  let year := padded 4 d.year.natAbs
  let signed := if d.year < 0 then '-' :: year else year
  signed ++ '-' :: padded 2 d.month ++ '-' :: padded 2 d.day

/-- The written form as a string. -/
def text (d : Date) : String := String.ofList d.toChars

/-- The value of a decimal digit. -/
def digit? (c : Char) : Option Nat :=
  if '0' ≤ c ∧ c ≤ '9' then some (c.toNat - '0'.toNat) else none

/-- Reads exactly `width` digits and gives their value with the rest of the text. -/
def readDigits? : (width : Nat) → (value : Nat) → List Char → Option (Nat × List Char)
  | 0, value, rest => some (value, rest)
  | _ + 1, _, [] => none
  | width + 1, value, c :: rest =>
    (digit? c).bind fun digit => readDigits? width (10 * value + digit) rest

/-- Takes an optional sign off a text and says whether it was a minus sign. -/
def readSign : List Char → Bool × List Char
  | '-' :: rest => (true, rest)
  | '+' :: rest => (false, rest)
  | rest => (false, rest)

/-- Takes a dash off a text. -/
def readDash? : List Char → Option (List Char)
  | '-' :: rest => some rest
  | _ => none

/-- Reads a date from the whole of a text. -/
def ofChars? (chars : List Char) : Option Date := do
  let (negative, afterSign) := readSign chars
  let (year, afterYear) ← readDigits? 4 0 afterSign
  let (month, afterMonth) ← readDigits? 2 0 (← readDash? afterYear)
  let (day, rest) ← readDigits? 2 0 (← readDash? afterMonth)
  if rest.isEmpty then ofYearMonthDay? (if negative then -(year : Int) else year) month day
  else none

/-- Reads a date from the whole of a string. -/
def ofText? (text : String) : Option Date := ofChars? text.toList

end Date

end Tabula
