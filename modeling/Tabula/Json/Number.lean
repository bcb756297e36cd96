import Tabula.Json.Basic
import Tabula.Number.Arithmetic
import Tabula.Number.Numeral

/-!
# Numbers in JSON

How a numeral in a JSON text is read. An integer of the words is exact. Every other numeral
becomes a double-precision number in three steps that each may round: as many of its digits count
as together fit an unsigned word, this word becomes the nearest number, and that is scaled by the
power of ten that is left. The result lies close to the numeral, but it is not always the nearest
number, so that a written number may be read back as one of its neighbours.
-/

namespace Tabula.Json.Number

/-- Whether the digits before the point are well formed: at least one, and no leading zero. -/
def isWhole : List Char → Bool
  | [] => false
  | ['0'] => true
  | '0' :: _ => false
  | _ => true

/-- The greatest number that the digits which count may denote. -/
def maxSignificand : Nat := 18446744073709551615

/-- Appends digits to a significand up to the first one that would lead beyond the words. Gives the
significand and how many digits are left over. -/
def appendDigits (significand : Nat) : List Char → Nat × Nat
  | [] => (significand, 0)
  | c :: rest =>
    let longer := 10 * significand + (c.toNat - '0'.toNat)
    if longer ≤ maxSignificand then appendDigits longer rest else (significand, rest.length + 1)

/-- The decimal of the digits that count. Digits left over before the point still hold their
places; digits left over after the point are dropped. -/
def significant (whole fraction : List Char) (exponent : Int) : Decimal :=
  let (significand, places) := appendDigits 0 whole
  let (significand, dropped) := appendDigits significand fraction
  ⟨significand, exponent + places + dropped - fraction.length⟩

/-- The double-precision number that is read for a decimal. -/
def toDouble (negative : Bool) (d : Decimal) : Double :=
  let significand := Double.ofRatio negative d.digits 1
  if 0 ≤ d.exponent then significand.scaleUp d.exponent.toNat
  else significand.scaleDown (-d.exponent).toNat

/-- The integer that a numeral of digits alone denotes, if it is an integer of the words. A
negative zero is none. -/
def integer? (negative : Bool) (whole : List Char) : Option Json :=
  let value := Numeral.digitsValue whole
  let signed : Int := if negative then -(value : Int) else value
  if h : IsWireInt signed ∧ ¬(negative = true ∧ value = 0) then some (.int signed h.1) else none

/-- A number as a tree; one that is too large for double precision denotes nothing. -/
def ofDouble (value : Double) : Json := if value.isFinite then .float value else .flawed

/-- Reads a number from the whole of a text. -/
def ofChars? (chars : List Char) : Option Json := do
  let (negative, unsigned) : Bool × List Char := match chars with
    | '-' :: rest => (true, rest)
    | rest => (false, rest)
  let whole := unsigned.takeWhile Numeral.isDigit
  let tail := unsigned.dropWhile Numeral.isDigit
  guard (isWhole whole)
  let (fraction, exponentPart) ← Numeral.splitFraction? tail
  let exponent ← Numeral.exponent? exponentPart
  let float := ofDouble (toDouble negative (significant whole fraction exponent))
  return if tail.isEmpty then (integer? negative whole).getD float else float

end Tabula.Json.Number
