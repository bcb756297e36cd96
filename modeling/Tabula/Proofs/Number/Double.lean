import Mathlib.Data.Nat.Log
import Tabula.Number.Double

/-!
# Finite numbers

A finite number equals itself. The number nearest to an integer of the signed words is finite: such
an integer lies far below the greatest finite number, so that rounding cannot carry it to infinity.
-/

namespace Tabula.Double

/-- A finite number equals itself. -/
theorem compare?_self {x : Double} (h : x.isFinite = true) : x.compare? x = some .eq := by
  have hnumber : x.isNaN = false :=
    decide_eq_false (Nat.not_lt_of_gt (of_decide_eq_true h))
  rw [compare?, hnumber, Bool.or_self, if_neg Bool.false_ne_true, Std.ReflOrd.compare_self]

/-- The bit pattern for a sign and bits below it. -/
theorem toNat_bits_ofMagnitudeBits (negative : Bool) {bits : Nat} (h : bits < twoTo 63) :
    (ofMagnitudeBits negative bits).bits.toNat = if negative then twoTo 63 + bits else bits := by
  have hsize : twoTo 63 + twoTo 63 = UInt64.size := by decide
  refine UInt64.toNat_ofNat_of_lt' ?_
  split <;> omega

/-- A number has the bits that it was put together from. -/
theorem magnitudeBits_ofMagnitudeBits (negative : Bool) {bits : Nat} (h : bits < twoTo 63) :
    (ofMagnitudeBits negative bits).magnitudeBits = bits := by
  rw [magnitudeBits, toNat_bits_ofMagnitudeBits negative h]
  cases negative with
  | false => exact Nat.mod_eq_of_lt h
  | true => rw [if_pos rfl, Nat.add_mod_left, Nat.mod_eq_of_lt h]

/-- Bits below those of an infinity stand for a finite number. -/
theorem isFinite_ofMagnitudeBits (negative : Bool) {bits : Nat} (h : bits < 2047 * twoTo 52) :
    (ofMagnitudeBits negative bits).isFinite = true := by
  rw [isFinite, magnitudeBits_ofMagnitudeBits negative (Nat.lt_trans h (by decide))]
  exact decide_eq_true h

/-- Rounding a quotient goes up by one at most. -/
theorem roundHalfEven_le (num den : Nat) : roundHalfEven num den ≤ num / den + 1 := by
  have hparity := Nat.mod_lt (num / den) (by decide : 0 < 2)
  simp only [roundHalfEven]
  split
  · omega
  · split <;> omega

/-- Cutting a number to fifty-three significant bits leaves fewer than fifty-three powers of two. -/
theorem div_twoTo_scale_lt (units : Nat) : units / twoTo (units.log2 - 52) < twoTo 53 := by
  refine Nat.div_lt_of_lt_mul ?_
  calc units < 2 ^ (units.log2 + 1) := Nat.lt_log2_self
    _ ≤ 2 ^ (units.log2 - 52 + 53) := Nat.pow_le_pow_right (by decide) (by omega)
    _ = twoTo (units.log2 - 52) * twoTo 53 := Nat.pow_add ..

/-- A product with a power of two has as many more binary places. -/
theorem log2_mul_twoTo_lt {n places : Nat} (h : n < twoTo places) (hplaces : 0 < places)
    (exponent : Nat) : (n * twoTo exponent).log2 < places + exponent := by
  rcases Nat.eq_zero_or_pos n with rfl | hn
  · rw [Nat.zero_mul, Nat.log2_zero]
    exact Nat.add_pos_left hplaces exponent
  · have hlt : n * 2 ^ exponent < 2 ^ (places + exponent) := by
      rw [Nat.pow_add]
      exact Nat.mul_lt_mul_of_pos_right h (Nat.two_pow_pos exponent)
    exact (Nat.log2_lt (Nat.mul_pos hn (Nat.two_pow_pos exponent)).ne').mpr hlt

/-- The number nearest to an integer of the signed words is finite. -/
theorem isFinite_ofInt {n : Int} (h : n.natAbs ≤ twoTo 63) : (ofInt n).isFinite = true := by
  rw [ofInt, ofRatio]
  refine isFinite_ofMagnitudeBits _ (Nat.lt_of_le_of_lt (Nat.min_le_left _ _) ?_)
  rw [Nat.div_one, Nat.one_mul]
  have hscale := log2_mul_twoTo_lt (Nat.lt_of_le_of_lt h (by decide : twoTo 63 < twoTo 64))
    (by decide) 1074
  generalize n.natAbs * twoTo 1074 = units at hscale ⊢
  have hcut := div_twoTo_scale_lt units
  have hround := roundHalfEven_le units (twoTo (units.log2 - 52))
  have hcarry : (units.log2 - 52) * twoTo 52 ≤ 1085 * twoTo 52 :=
    Nat.mul_le_mul_right _ (by omega)
  have hdouble : twoTo 53 = 2 * twoTo 52 := by decide
  have hpositive : 0 < twoTo 52 := by decide
  omega

end Tabula.Double
