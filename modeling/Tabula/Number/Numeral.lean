import Tabula.Number.Decimal

/-!
# Reading numerals

The parts of a decimal numeral as it is written (digits, a fraction after a point, an exponent)
and the double-precision number that a whole text denotes.
-/

namespace Tabula

namespace Numeral

/-- A decimal digit. -/
def isDigit (c : Char) : Bool := '0' ≤ c && c ≤ '9'

/-- The number that a run of digits denotes. -/
def digitsValue (digits : List Char) : Nat :=
  digits.foldl (fun value c => 10 * value + (c.toNat - '0'.toNat)) 0

/-- Takes a fraction off a text: its digits, and what follows. Without a point there is none. -/
def splitFraction? : List Char → Option (List Char × List Char)
  | '.' :: rest =>
    let digits := rest.takeWhile isDigit
    if digits.isEmpty then none else some (digits, rest.dropWhile isDigit)
  | rest => some ([], rest)

/-- Takes an optional sign off a text and says whether it was a minus sign. -/
def splitSign : List Char → Bool × List Char
  | '-' :: rest => (true, rest)
  | '+' :: rest => (false, rest)
  | rest => (false, rest)

/-- Reads an exponent from the whole of a text; the empty text has the exponent zero. -/
def exponent? : List Char → Option Int
  | [] => some 0
  | c :: rest =>
    let (negative, digits) := splitSign rest
    if (c == 'e' || c == 'E') && !digits.isEmpty && digits.all isDigit then
      some (if negative then -(digitsValue digits : Int) else digitsValue digits)
    else none

/-- The decimal with the given digits before and after the point and the given exponent. -/
def decimal (whole fraction : List Char) (exponent : Int) : Decimal :=
  ⟨digitsValue (whole ++ fraction), exponent - fraction.length⟩

end Numeral

/-- The number nearest to a decimal numeral, which may have a sign, a fraction and an exponent;
also the spellings of the infinities and of the value that is not a number. -/
def Double.ofText? (text : String) : Option Double :=
  let (negative, unsigned) := Numeral.splitSign text.toList
  if unsigned = "inf".toList then some (.infinity negative)
  else if unsigned = "NaN".toList then some .nan
  else do
    let whole := unsigned.takeWhile Numeral.isDigit
    guard (!whole.isEmpty)
    let (fraction, tail) ← Numeral.splitFraction? (unsigned.dropWhile Numeral.isDigit)
    let exponent ← Numeral.exponent? tail
    return (Numeral.decimal whole fraction exponent).toDouble negative

end Tabula
