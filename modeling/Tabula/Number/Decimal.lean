import Tabula.Number.Double

/-!
# Decimal numerals

A decimal numeral is a natural number of digits and a power of ten. `Decimal.toDouble` reads one
as the nearest double-precision number. `Double.shortest` goes back: it gives the numeral with
the fewest digits that reads back as the same number, and of those the one nearest to it.
-/

namespace Tabula

/-- The decimal `digits * 10 ^ exponent`, without its sign. -/
structure Decimal where
  digits : Nat
  exponent : Int
deriving DecidableEq, Repr

namespace Decimal

/-- The decimal digits of a natural number, as text. -/
def digitText (n : Nat) : List Char := Nat.toDigits 10 n

/-- The power of ten of the leading digit. -/
def leadingExponent (d : Decimal) : Int := d.exponent + ((digitText d.digits).length : Int) - 1

/-- The number nearest to a decimal with the given sign.

Decimals far outside the range of the numbers are decided by their leading digit alone, so that
no huge power of ten is ever formed. -/
def toDouble (negative : Bool) (d : Decimal) : Double :=
  if d.digits = 0 then .ofMagnitudeBits negative 0
  else if 400 < d.leadingExponent then .infinity negative
  else if d.leadingExponent < -400 then .ofMagnitudeBits negative 0
  else if 0 ≤ d.exponent then .ofRatio negative (d.digits * tenTo d.exponent.toNat) 1
  else .ofRatio negative d.digits (tenTo (-d.exponent).toNat)

/-- Moves trailing zeros of the digits into the exponent. -/
def strip (d : Decimal) : Decimal :=
  if h : d.digits ≠ 0 ∧ d.digits % 10 = 0 then strip ⟨d.digits / 10, d.exponent + 1⟩ else d
termination_by d.digits
decreasing_by omega

end Decimal

/-- Which of two equally near decimals is taken. -/
inductive Tie where
  | toEven
  | away
deriving DecidableEq, Repr

namespace Double

/-- Twice the lower end of the interval of reals that round to this size. Below a power of two
the neighbouring numbers lie twice as close. -/
def lowerEnd (x : Double) : Nat :=
  if x.fractionField = 0 ∧ 1 < x.exponentField then 2 * x.size - twoTo (x.scale - 1)
  else 2 * x.size - twoTo x.scale

/-- Twice the upper end of the interval of reals that round to this size. -/
def upperEnd (x : Double) : Nat := 2 * x.size + twoTo x.scale

/-- Whether a decimal rounds to the size of `x`. The ends of the interval belong to it when the
significand is even. -/
def readsBack (x : Double) (d : Decimal) : Bool :=
  let num := d.digits * tenTo d.exponent.toNat * twoTo 1075
  let den := tenTo (-d.exponent).toNat
  if x.significand % 2 = 0 then x.lowerEnd * den ≤ num && num ≤ x.upperEnd * den
  else x.lowerEnd * den < num && num < x.upperEnd * den

/-- The size of `x` divided by the power of ten of a decimal grid, as numerator and
denominator. -/
def onGrid (x : Double) (exponent : Int) : Nat × Nat :=
  (x.size * tenTo (-exponent).toNat, twoTo 1074 * tenTo exponent.toNat)

/-- The least power of ten above the size of `x`, for a positive size. -/
def decimalScale (x : Double) : Int :=
  ((Decimal.digitText (x.size * tenTo 400 / twoTo 1074)).length : Int) - 400

/-- The best decimal on one grid: of the two grid points around the value those that read back,
and of two the nearer. -/
def nearestOnGrid? (tie : Tie) (x : Double) (exponent : Int) : Option Decimal :=
  let (num, den) := x.onGrid exponent
  let low := num / den
  let below : Decimal := ⟨low, exponent⟩
  let above : Decimal := ⟨low + 1, exponent⟩
  let twice := 2 * (num % den)
  let upward := den < twice || (twice == den && (tie == .away || low % 2 == 1))
  match x.readsBack below, x.readsBack above with
  | true, true => some (if upward then above else below)
  | true, false => some below
  | false, true => some above
  | false, false => none

/-- The exact value of `x` as a decimal: the size is a multiple of `2 ^ -1074`, and
`2 ^ -1074 = 5 ^ 1074 * 10 ^ -1074`. -/
def exactDecimal (x : Double) : Decimal := ⟨x.size * Nat.pow 5 1074, -1074⟩

/-- The decimal with the fewest digits that reads back as the finite number `x`, up to its sign.
Grids are tried from one digit to seventeen, which always suffice. -/
def shortest (tie : Tie) (x : Double) : Decimal :=
  if x.isZero then ⟨0, 0⟩
  else
    let scale := x.decimalScale
    let found := (List.range 17).findSome? fun n => x.nearestOnGrid? tie (scale - (n + 1 : Nat))
    (found.getD x.exactDecimal).strip

end Double

end Tabula
