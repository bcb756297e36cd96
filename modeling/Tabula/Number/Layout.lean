import Tabula.Number.Decimal

/-!
# Written numbers

Two layouts of the shortest decimal of a double-precision number. The plain layout never uses an
exponent. The exchange layout, used in JSON, always shows a decimal point or an exponent, so
that a written number is read back as a floating-point number.
-/

namespace Tabula

/-- An integer in decimal digits. -/
def integerChars (n : Int) : List Char :=
  let digits := Decimal.digitText n.natAbs
  if n < 0 then '-' :: digits else digits

/-- A run of zeros. -/
def zeros (n : Nat) : List Char := List.replicate n '0'

namespace Decimal

/-- Positional digits with as many places as the decimal needs and no trailing point. -/
def positional (d : Decimal) : List Char :=
  let text := digitText d.digits
  if 0 ≤ d.exponent then text ++ zeros d.exponent.toNat
  else
    let places := (-d.exponent).toNat
    let padded := zeros (places + 1 - text.length) ++ text
    padded.take (padded.length - places) ++ '.' :: padded.drop (padded.length - places)

/-- Scientific notation: one digit before the point, and a point only if digits follow. -/
def scientific (d : Decimal) : List Char :=
  let mantissa := match digitText d.digits with
    | [] => []
    | [digit] => [digit]
    | digit :: rest => digit :: '.' :: rest
  let exponent := d.leadingExponent
  mantissa ++ 'e' :: (if exponent < 0 then '-' else '+') :: digitText exponent.natAbs

end Decimal

namespace Double

/-- Puts the sign of `x` before a text. -/
def signed (x : Double) (text : List Char) : String :=
  String.ofList (if x.isNegative then '-' :: text else text)

/-- The plain layout: shortest digits without an exponent, integral values without a point. Of
two equally near decimals the larger is taken. -/
def plainText (x : Double) : String :=
  if x.isNaN then "NaN"
  else if x.isInfinite then x.signed "inf".toList
  else x.signed (x.shortest .away).positional

/-- The exchange layout of a finite number: positional with at least one decimal when the leading
digit stands between `10 ^ -5` and `10 ^ 15`, scientific with a signed exponent otherwise. Of
two equally near decimals the one with the even last digit is taken. Values that are not finite
have no such layout. -/
def exchangeText? (x : Double) : Option String :=
  if x.isFinite then
    let d := x.shortest .toEven
    let leading := d.leadingExponent
    let text :=
      if -5 ≤ leading ∧ leading < 16 then
        if 0 ≤ d.exponent then d.positional ++ ".0".toList else d.positional
      else d.scientific
    some (x.signed text)
  else none

end Double

end Tabula
