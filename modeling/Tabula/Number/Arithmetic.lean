import Tabula.Number.Double

/-!
# Arithmetic of double-precision numbers

The product and the quotient of two finite numbers, each rounded to the nearest number, and
scaling by a power of ten. A power of ten is itself a rounded number here, so that scaling rounds
twice and may miss the nearest number.
-/

namespace Tabula.Double

/-- The product of two finite numbers, rounded to the nearest. The sizes count in units of
`2 ^ -1074`, so their product counts in units of `2 ^ -2148`. -/
def mul (x y : Double) : Double :=
  ofRatio (x.isNegative != y.isNegative) (x.size * y.size) (twoTo 2148)

/-- The quotient of two finite numbers, rounded to the nearest, for a divisor other than zero. -/
def div (x y : Double) : Double :=
  ofRatio (x.isNegative != y.isNegative) x.size y.size

/-- The greatest exponent of a finite power of ten. -/
def maxPlaces : Nat := 308

/-- The number nearest to a power of ten. -/
def powerOfTen (exponent : Nat) : Double := ofRatio false (tenTo exponent) 1

/-- Moves the decimal point of a finite number to the right. More than `maxPlaces` places lead to
an infinity, unless the number is zero. -/
def scaleUp (x : Double) (places : Nat) : Double :=
  if x.isZero then x
  else if maxPlaces < places then infinity x.isNegative
  else x.mul (powerOfTen places)

/-- Moves the decimal point of a finite number to the left, by at most `maxPlaces` places at a
time. -/
def scaleDown (x : Double) (places : Nat) : Double :=
  if x.isZero then x
  else if maxPlaces < places then scaleDown (x.div (powerOfTen maxPlaces)) (places - maxPlaces)
  else x.div (powerOfTen places)
termination_by places
decreasing_by
  have : 0 < maxPlaces := by decide
  omega

end Tabula.Double
