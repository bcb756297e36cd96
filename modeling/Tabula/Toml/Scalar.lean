import Tabula.Calendar.Date
import Tabula.Toml.Text

/-!
# Scalars of TOML

Truth values, numbers, dates and times: the values that are written as words. Digits may be
grouped by single underscores.
-/

namespace Tabula.Toml

/-- Whether a digit belongs to the base. -/
abbrev DigitClass := Char → Bool

/-- Digits with single underscores between some of them, at least one digit. -/
def isGrouped (isDigit : DigitClass) : List Char → Bool
  | [] => false
  | [c] => isDigit c
  | c :: '_' :: rest => isDigit c && isGrouped isDigit rest
  | c :: rest => isDigit c && isGrouped isDigit rest

/-- The digits without the underscores. -/
def ungroup (chars : List Char) : List Char := chars.filter (· != '_')

/-- Whether the digits are a whole number in decimal: without a leading zero. -/
def isWhole (chars : List Char) : Bool :=
  isGrouped Numeral.isDigit chars && (chars == ['0'] || chars.head? != some '0')

/-- An integer as a tree, if it is a signed word. -/
def integer? (value : Int) : Option Json :=
  (signedWord? value).map .ofInt64

/-- An integer in another base than ten, after the letters that announce the base. -/
def inBase? (base : Nat) (chars : List Char) : Option Json :=
  let isDigit : DigitClass := fun c => (Json.Token.hexDigit? c).any (· < base)
  if isGrouped isDigit chars then do
    let digits ← (ungroup chars).mapM Json.Token.hexDigit?
    integer? (digits.foldl (fun value digit => base * value + digit) 0 : Nat)
  else none

/-- The digits after a point and the part that follows them, or no digits if there is no point. -/
def splitFraction? : List Char → Option (List Char × List Char)
  | '.' :: rest =>
    let digits := rest.takeWhile fun c => Numeral.isDigit c || c == '_'
    if isGrouped Numeral.isDigit digits then
      some (ungroup digits, rest.drop digits.length)
    else none
  | rest => some ([], rest)

/-- An exponent from the whole of a text. -/
def exponent? : List Char → Option Int
  | [] => some 0
  | c :: rest =>
    let (_, digits) := Numeral.splitSign rest
    if isGrouped Numeral.isDigit digits then Numeral.exponent? (c :: ungroup rest) else none

/-- A number in decimal with an optional sign. Without point and exponent it is an integer. A
positive number beyond double precision is refused, a negative one is the infinity. -/
def decimal? (chars : List Char) : Option Json := do
  let (negative, unsigned) := Numeral.splitSign chars
  let whole := unsigned.takeWhile fun c => Numeral.isDigit c || c == '_'
  let tail := unsigned.drop whole.length
  guard (isWhole whole)
  if tail.isEmpty then
    let value := Numeral.digitsValue (ungroup whole)
    integer? (if negative then -(value : Int) else value)
  else
    let (fraction, exponentPart) ← splitFraction? tail
    let exponent ← exponent? exponentPart
    let number := (Numeral.decimal (ungroup whole) fraction exponent).toDouble negative
    if number.isInfinite && !negative then none else some (.float number)

/-- The spellings of the infinities and of the value that is not a number. -/
def special? (chars : List Char) : Option Json :=
  let (negative, unsigned) := Numeral.splitSign chars
  if unsigned == "inf".toList then some (.float (.infinity negative))
  else if unsigned == "nan".toList then some (.float .nan)
  else none

/-! ### Dates and times -/

/-- Whether the text is a date, without a sign before the year. -/
def isDate (chars : List Char) : Bool :=
  chars.head?.any Numeral.isDigit && (Date.ofChars? chars).isSome

/-- The number that two digits denote, if it is at most `greatest`. -/
def twoDigits? (greatest : Nat) (a b : Char) : Option Nat :=
  let value := Numeral.digitsValue [a, b]
  if Numeral.isDigit a && Numeral.isDigit b && value ≤ greatest then some value else none

/-- Reads a time of day: hours, minutes, seconds and perhaps a fraction of a second. The second
60 is admitted. -/
def time? : List Char → Option (List Char)
  | a :: b :: ':' :: c :: d :: ':' :: e :: f :: rest => do
    let _ ← twoDigits? 23 a b
    let _ ← twoDigits? 59 c d
    let _ ← twoDigits? 60 e f
    match rest with
    | '.' :: fraction =>
      if fraction.head?.any Numeral.isDigit then some (fraction.dropWhile Numeral.isDigit)
      else none
    | rest => some rest
  | _ => none

/-- Whether the text is an offset from universal time, or empty. -/
def isOffset : List Char → Bool
  | [] => true
  | [c] => c == 'Z' || c == 'z'
  | [sign, a, b, ':', c, d] =>
    (sign == '+' || sign == '-') && (twoDigits? 23 a b).isSome && (twoDigits? 59 c d).isSome
  | _ => false

/-- Whether the text is a time of day with an optional offset. -/
def isTimeWithOffset (chars : List Char) : Bool := (time? chars).any isOffset

/-- Whether the text is a date, a time of day, or both with a letter between them. -/
def isDateTime (chars : List Char) : Bool :=
  let date := chars.take 10
  match chars.drop 10 with
  | [] => isDate date || time? chars == some []
  | c :: rest =>
    ((c == 'T' || c == 't') && isDate date && isTimeWithOffset rest) || time? chars == some []

/-- A date or time as a tree. It is no scalar: it stands as a record with a field of its own. -/
def dateTime (chars : List Char) : Json := .record [("$datetime", .text (String.ofList chars))]

/-! ### Words -/

/-- The characters of words. -/
def isWordChar (c : Char) : Bool :=
  c.isAlphanum || c == '_' || c == '+' || c == '-' || c == '.' || c == ':'

/-- The value of a whole word. -/
def ofWord? (word : List Char) : Option Json :=
  match word with
  | '0' :: 'x' :: digits => inBase? 16 digits
  | '0' :: 'o' :: digits => inBase? 8 digits
  | '0' :: 'b' :: digits => inBase? 2 digits
  | word =>
    if word = "true".toList then some (.bool true)
    else if word = "false".toList then some (.bool false)
    else if isDateTime word then some (dateTime word)
    else (decimal? word).or (special? word)

/-- Reads a word and its value. A date and a time may be separated by a space. -/
def scalar? (chars : List Char) : Option (Json × List Char) :=
  let word := chars.takeWhile isWordChar
  let rest := chars.drop word.length
  match rest with
  | ' ' :: after =>
    let time := after.takeWhile isWordChar
    if isDate word && isTimeWithOffset time then
      some (dateTime (word ++ ' ' :: time), after.drop time.length)
    else (ofWord? word).map (·, rest)
  | rest => (ofWord? word).map (·, rest)

end Tabula.Toml
