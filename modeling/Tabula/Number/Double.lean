/-!
# Double-precision numbers

A binary floating-point number of 64 bits: one sign bit, eleven exponent bits, fifty-two
fraction bits. Every finite number is a whole multiple of the least positive one, `2 ^ -1074`,
so sizes are natural numbers counted in that unit and all rules here are exact: the order, the
rounding of a quotient to the nearest number, and the conversion of an integer.
-/

namespace Tabula

/-- A power of two. -/
abbrev twoTo (exponent : Nat) : Nat := Nat.pow 2 exponent

/-- A power of ten. -/
abbrev tenTo (exponent : Nat) : Nat := Nat.pow 10 exponent

/-- A double-precision number, given by its bit pattern. -/
structure Double where
  bits : UInt64
deriving DecidableEq, Repr, Inhabited

namespace Double

/-- The bits below the sign: the exponent field followed by the fraction field. -/
def magnitudeBits (x : Double) : Nat := x.bits.toNat % twoTo 63

/-- Whether the sign bit is set. Zero has a sign too. -/
def isNegative (x : Double) : Bool := decide (twoTo 63 ≤ x.bits.toNat)

/-- The exponent field. -/
def exponentField (x : Double) : Nat := x.magnitudeBits / twoTo 52

/-- The fraction field. -/
def fractionField (x : Double) : Nat := x.magnitudeBits % twoTo 52

/-- The bit pattern is not a number: all exponent bits are set and the fraction is not zero. -/
def isNaN (x : Double) : Bool := decide (2047 * twoTo 52 < x.magnitudeBits)

/-- The bit pattern stands for an infinity of either sign. -/
def isInfinite (x : Double) : Bool := decide (x.magnitudeBits = 2047 * twoTo 52)

/-- The number is neither an infinity nor not a number. -/
def isFinite (x : Double) : Bool := decide (x.magnitudeBits < 2047 * twoTo 52)

/-- The number is zero, of either sign. -/
def isZero (x : Double) : Bool := x.magnitudeBits == 0

/-- The binary exponent of the last place, counted from `2 ^ -1074`. -/
def scale (x : Double) : Nat := x.exponentField - 1

/-- The significand: the fraction with the leading bit that normal numbers leave out. -/
def significand (x : Double) : Nat :=
  if x.exponentField = 0 then x.fractionField else twoTo 52 + x.fractionField

/-- The absolute value in units of `2 ^ -1074`. For an infinity this is a bound above every
finite size. -/
def size (x : Double) : Nat := x.significand * twoTo x.scale

/-- The place of a number in the order: its signed size, so that both zeros agree. -/
def rank (x : Double) : Int := if x.isNegative then -(x.size : Int) else x.size

/-- The order of two numbers, or `none` if one of them is not a number. -/
def compare? (x y : Double) : Option Ordering :=
  if x.isNaN || y.isNaN then none else some (compare x.rank y.rank)

/-- The bit pattern used for a result that is not a number. -/
def nan : Double := ⟨0x7ff8000000000000⟩

/-- The number with the given sign and the given bits below it. -/
def ofMagnitudeBits (negative : Bool) (bits : Nat) : Double :=
  ⟨UInt64.ofNat (if negative then twoTo 63 + bits else bits)⟩

/-- The infinity of the given sign. -/
def infinity (negative : Bool) : Double := ofMagnitudeBits negative (2047 * twoTo 52)

/-- The quotient rounded to the nearest natural number, a half going to the even neighbour. -/
def roundHalfEven (num den : Nat) : Nat :=
  let quotient := num / den
  let twice := 2 * (num % den)
  if twice < den then quotient
  else if den < twice then quotient + 1
  else quotient + quotient % 2

/-- The number nearest to the quotient `num / den`, a tie going to the even significand.
Quotients beyond the largest finite number round to infinity.

The quotient is cut to fifty-three significant bits; carrying into the next power of two needs
no care, because the fields of the bit pattern carry in the same way. -/
def ofRatio (negative : Bool) (num den : Nat) : Double :=
  let units := num * twoTo 1074
  let scale := (units / den).log2 - 52
  let bits := scale * twoTo 52 + roundHalfEven units (den * twoTo scale)
  ofMagnitudeBits negative (min bits (2047 * twoTo 52))

/-- The number nearest to an integer. -/
def ofInt (n : Int) : Double := ofRatio (decide (n < 0)) n.natAbs 1

end Double

end Tabula
