import Mathlib.Algebra.Order.Ring.Int
import Mathlib.Order.Monotone.Basic
import Tabula.Proofs.Number.Double

/-!
# Rounding integers

The size of a number grows with its bits below the sign. Rounding a size gives bits that grow with
it, and gives back the bits of a number whose size it is. So rounding integers keeps their order and
never takes an integer past a number: what lies on one side of a number is rounded to the same side
or to the number itself.
-/

namespace Tabula

/-- Powers of two are positive. -/
theorem twoTo_pos (exponent : Nat) : 0 < twoTo exponent := Nat.two_pow_pos exponent

/-- A power of two divides the higher ones. -/
theorem twoTo_dvd {m n : Nat} (h : m ≤ n) : twoTo m ∣ twoTo n := Nat.pow_dvd_pow 2 h

namespace Double

/-! ### Sizes and bits -/

/-- The size of the numbers with the given bits below the sign. -/
def sizeOfBits (bits : Nat) : Nat :=
  (if bits / twoTo 52 = 0 then bits % twoTo 52 else twoTo 52 + bits % twoTo 52) *
    twoTo (bits / twoTo 52 - 1)

/-- The bits below the sign of the number nearest to a size, infinity apart. -/
def bitsOfSize (units : Nat) : Nat :=
  (units.log2 - 52) * twoTo 52 + roundHalfEven units (twoTo (units.log2 - 52))

/-- The size of a number is that of its bits below the sign. -/
theorem size_eq (x : Double) : x.size = sizeOfBits x.magnitudeBits := rfl

/-- With an exponent field of zero, the size is the fraction field. -/
theorem sizeOfBits_subnormal {fraction : Nat} (h : fraction < twoTo 52) :
    sizeOfBits fraction = fraction := by
  simp [sizeOfBits, Nat.div_eq_of_lt h, Nat.mod_eq_of_lt h]

/-- With another exponent field, a leading bit is added and the exponent scales the size. -/
theorem sizeOfBits_normal {fraction : Nat} (h : fraction < twoTo 52) (scale : Nat) :
    sizeOfBits ((scale + 1) * twoTo 52 + fraction) = (twoTo 52 + fraction) * twoTo scale := by
  have hdiv : ((scale + 1) * twoTo 52 + fraction) / twoTo 52 = scale + 1 := by
    rw [Nat.mul_comm, Nat.mul_add_div (by decide), Nat.div_eq_of_lt h, Nat.add_zero]
  have hmod : ((scale + 1) * twoTo 52 + fraction) % twoTo 52 = fraction := by
    rw [Nat.mul_add_mod', Nat.mod_eq_of_lt h]
  rw [sizeOfBits, hdiv, hmod, if_neg (Nat.succ_ne_zero scale), Nat.add_sub_cancel]

/-- Bits below the sign are a fraction field, alone or after an exponent field. -/
theorem bits_cases (bits : Nat) :
    ∃ fraction < twoTo 52, bits = fraction ∨ ∃ scale, bits = (scale + 1) * twoTo 52 + fraction := by
  refine ⟨bits % twoTo 52, Nat.mod_lt _ (by decide), ?_⟩
  have hsplit := Nat.div_add_mod' bits (twoTo 52)
  cases hexponent : bits / twoTo 52 with
  | zero =>
    rw [hexponent, Nat.zero_mul, Nat.zero_add] at hsplit
    exact Or.inl hsplit.symm
  | succ scale =>
    rw [hexponent] at hsplit
    exact Or.inr ⟨scale, hsplit.symm⟩

/-- The size grows with the bits. -/
theorem strictMono_sizeOfBits : StrictMono sizeOfBits := by
  refine strictMono_nat_of_lt_succ fun bits => ?_
  obtain ⟨fraction, hfraction, hbits | ⟨scale, hbits⟩⟩ := bits_cases bits
  · rw [hbits, sizeOfBits_subnormal hfraction]
    rcases Nat.lt_or_eq_of_le (Nat.succ_le_of_lt hfraction) with
      hnext | (hcarry : fraction + 1 = twoTo 52)
    · rw [sizeOfBits_subnormal hnext]
      exact Nat.lt_succ_self fraction
    · have hsize : sizeOfBits (twoTo 52) = twoTo 52 := by decide
      rw [hcarry, hsize]
      exact hfraction
  · rw [hbits, sizeOfBits_normal hfraction]
    rcases Nat.lt_or_eq_of_le (Nat.succ_le_of_lt hfraction) with
      hnext | (hcarry : fraction + 1 = twoTo 52)
    · rw [Nat.add_assoc, sizeOfBits_normal hnext]
      exact Nat.mul_lt_mul_of_pos_right (by omega) (twoTo_pos scale)
    · have hnext : (scale + 1) * twoTo 52 + fraction + 1 = (scale + 1 + 1) * twoTo 52 := by
        rw [Nat.add_assoc, hcarry, ← Nat.succ_mul]
      have hsize := @sizeOfBits_normal 0 (by decide) (scale + 1)
      rw [Nat.add_zero ((scale + 1 + 1) * twoTo 52), Nat.add_zero (twoTo 52)] at hsize
      have hdouble : twoTo (scale + 1) = 2 * twoTo scale := Nat.pow_succ'
      rw [hnext, hsize, hdouble, ← Nat.mul_assoc]
      exact Nat.mul_lt_mul_of_pos_right (by omega) (twoTo_pos scale)

/-! ### Rounding sizes -/

/-- Rounding a quotient does not go below it. -/
theorem le_roundHalfEven (num den : Nat) : num / den ≤ roundHalfEven num den := by
  simp only [roundHalfEven]
  split
  · exact Nat.le_refl _
  · split <;> exact Nat.le_add_right _ _

/-- Rounding keeps the order of quotients by one number. -/
theorem roundHalfEven_mono {a b : Nat} (h : a ≤ b) (den : Nat) :
    roundHalfEven a den ≤ roundHalfEven b den := by
  rcases Nat.lt_or_eq_of_le (Nat.div_le_div_right h : a / den ≤ b / den) with hlt | heq
  · calc roundHalfEven a den ≤ a / den + 1 := roundHalfEven_le a den
      _ ≤ b / den := hlt
      _ ≤ roundHalfEven b den := le_roundHalfEven b den
  · -- the two differ in the remainder only
    have hmod : a % den ≤ b % den := by
      have ha := Nat.div_add_mod a den
      have hb := Nat.div_add_mod b den
      rw [heq] at ha
      omega
    simp only [roundHalfEven, heq]
    grind

/-- A whole quotient is not changed by rounding. -/
theorem roundHalfEven_mul (quotient : Nat) {den : Nat} (hden : 0 < den) :
    roundHalfEven (quotient * den) den = quotient := by
  simp only [roundHalfEven, Nat.mul_mod_left, Nat.mul_div_cancel _ hden]
  rw [if_pos (by omega)]

/-- Cutting a number of more binary places to fifty-three leaves the leading one. -/
theorem twoTo_le_div_scale {units : Nat} (h : 52 ≤ units.log2) :
    twoTo 52 ≤ units / twoTo (units.log2 - 52) := by
  refine (Nat.le_div_iff_mul_le (twoTo_pos _)).mpr ?_
  calc twoTo 52 * twoTo (units.log2 - 52) = 2 ^ (52 + (units.log2 - 52)) := (Nat.pow_add ..).symm
    _ = 2 ^ units.log2 := by rw [Nat.add_sub_cancel' h]
    _ ≤ units := Nat.log2_self_le (by rintro rfl; simp at h)

/-- Rounding keeps the order of sizes. -/
theorem monotone_bitsOfSize : Monotone bitsOfSize := by
  intro a b hab
  have hlog : a.log2 ≤ b.log2 := by
    rw [Nat.log2_eq_log_two, Nat.log2_eq_log_two]
    exact Nat.log_mono_right hab
  rcases Nat.lt_or_eq_of_le (Nat.sub_le_sub_right hlog 52) with hlt | heq
  · -- rounding carries into the next power of two at most, where `b` begins
    have ha : roundHalfEven a (twoTo (a.log2 - 52)) ≤ 2 * twoTo 52 :=
      Nat.le_trans (roundHalfEven_le _ _) (div_twoTo_scale_lt a)
    have hb : twoTo 52 ≤ roundHalfEven b (twoTo (b.log2 - 52)) :=
      Nat.le_trans (twoTo_le_div_scale (by omega)) (le_roundHalfEven _ _)
    have hscale : (a.log2 - 52 + 1) * twoTo 52 ≤ (b.log2 - 52) * twoTo 52 :=
      Nat.mul_le_mul_right _ hlt
    rw [Nat.succ_mul] at hscale
    unfold bitsOfSize
    omega
  · rw [bitsOfSize, bitsOfSize, heq]
    exact Nat.add_le_add_left (roundHalfEven_mono hab _) _

/-- A size of a number is rounded to its bits. -/
theorem bitsOfSize_sizeOfBits (bits : Nat) : bitsOfSize (sizeOfBits bits) = bits := by
  obtain ⟨fraction, hfraction, hbits | ⟨scale, hbits⟩⟩ := bits_cases bits
  · have hlog : fraction.log2 - 52 = 0 := by
      have hlt : fraction.log2 < 52 := by
        simpa using log2_mul_twoTo_lt hfraction (by decide) 0
      omega
    rw [hbits, sizeOfBits_subnormal hfraction, bitsOfSize, hlog, Nat.zero_mul, Nat.zero_add]
    simpa using roundHalfEven_mul fraction Nat.one_pos
  · have hlog : ((twoTo 52 + fraction) * twoTo scale).log2 = 52 + scale := by
      rw [Nat.log2_eq_log_two]
      refine Nat.log_eq_of_pow_le_of_lt_pow ?_ ?_
      · rw [Nat.pow_add]
        exact Nat.mul_le_mul_right _ (Nat.le_add_right _ _)
      · have hdouble : 2 ^ (52 + 1) = 2 * twoTo 52 := by decide
        rw [Nat.add_right_comm, Nat.pow_add, hdouble]
        exact Nat.mul_lt_mul_of_pos_right (by omega) (twoTo_pos scale)
    have hround : roundHalfEven ((twoTo 52 + fraction) * twoTo scale) (twoTo scale) =
        twoTo 52 + fraction :=
      roundHalfEven_mul _ (twoTo_pos scale)
    rw [hbits, sizeOfBits_normal hfraction, bitsOfSize, hlog, Nat.add_sub_cancel_left, hround,
      Nat.succ_mul, Nat.add_assoc]

/-- A size with no more than fifty-three places before its zeros is not changed by rounding. -/
theorem sizeOfBits_bitsOfSize {units : Nat} (h : twoTo (units.log2 - 52) ∣ units) :
    sizeOfBits (bitsOfSize units) = units := by
  obtain ⟨quotient, hunits⟩ := h
  have hdiv : units / twoTo (units.log2 - 52) = quotient :=
    Nat.div_eq_of_eq_mul_right (twoTo_pos _) hunits
  have hround : roundHalfEven units (twoTo (units.log2 - 52)) = quotient := by
    have hmul := roundHalfEven_mul quotient (twoTo_pos (units.log2 - 52))
    rwa [Nat.mul_comm, ← hunits] at hmul
  rw [bitsOfSize, hround]
  rcases Nat.lt_or_ge units.log2 52 with hsmall | hlarge
  · have hscale : units.log2 - 52 = 0 := by omega
    have hlt : units < twoTo 52 :=
      Nat.lt_log2_self.trans_le (Nat.pow_le_pow_right (by decide) hsmall)
    have hquotient : quotient = units := by
      rw [← hdiv, hscale]
      exact Nat.div_one units
    rw [hscale, Nat.zero_mul, Nat.zero_add, hquotient, sizeOfBits_subnormal hlt]
  · have hleading : twoTo 52 ≤ quotient := hdiv ▸ twoTo_le_div_scale hlarge
    have hfraction : quotient - twoTo 52 < twoTo 52 := by
      have hlt : quotient < twoTo 53 := hdiv ▸ div_twoTo_scale_lt units
      have hdouble : twoTo 53 = 2 * twoTo 52 := by decide
      omega
    have hbits : (units.log2 - 52) * twoTo 52 + quotient =
        (units.log2 - 52 + 1) * twoTo 52 + (quotient - twoTo 52) := by
      rw [Nat.succ_mul]
      omega
    rw [hbits, sizeOfBits_normal hfraction, Nat.add_sub_cancel' hleading, Nat.mul_comm, ← hunits]

/-! ### Rounding with a sign -/

/-- The size of the number nearest to a size; for a size beyond all numbers that of infinity. -/
def roundedSize (units : Nat) : Nat := sizeOfBits (min (bitsOfSize units) (2047 * twoTo 52))

/-- The rank of the number nearest to a signed size. -/
def roundedRank (units : Int) : Int :=
  if units < 0 then -(roundedSize units.natAbs : Int) else roundedSize units.natAbs

/-- A larger size is not rounded to a smaller number. -/
theorem monotone_roundedSize : Monotone roundedSize := fun _ _ h =>
  strictMono_sizeOfBits.monotone (min_le_min_right _ (monotone_bitsOfSize h))

/-- A larger signed size is not rounded to a smaller number. -/
theorem roundedRank_mono {a b : Int} (h : a ≤ b) : roundedRank a ≤ roundedRank b := by
  unfold roundedRank
  split
  · split
    · have hsize : roundedSize b.natAbs ≤ roundedSize a.natAbs := monotone_roundedSize (by omega)
      omega
    · omega
  · have hsize : roundedSize a.natAbs ≤ roundedSize b.natAbs := monotone_roundedSize (by omega)
    rw [if_neg (by omega)]
    omega

/-- The size of a number is its own rounding. -/
theorem roundedSize_size {x : Double} (h : x.isNaN = false) : roundedSize x.size = x.size := by
  have hbits : x.magnitudeBits ≤ 2047 * twoTo 52 := Nat.le_of_not_lt (of_decide_eq_false h)
  rw [roundedSize, size_eq, bitsOfSize_sizeOfBits, Nat.min_eq_left hbits]

/-- A signed size is not changed by rounding if its size is not. -/
theorem roundedRank_of_natAbs {units : Int} (h : roundedSize units.natAbs = units.natAbs) :
    roundedRank units = units := by
  rw [roundedRank, h]
  split <;> omega

/-- The rank of a number is its own rounding. -/
theorem roundedRank_rank {x : Double} (h : x.isNaN = false) : roundedRank x.rank = x.rank := by
  have habs : x.rank.natAbs = x.size := by
    unfold rank
    split <;> simp
  exact roundedRank_of_natAbs (by rw [habs, roundedSize_size h])

/-! ### Rounding integers -/

/-- The sign of a number is the one that it was put together from. -/
theorem isNegative_ofMagnitudeBits (negative : Bool) {bits : Nat} (h : bits < twoTo 63) :
    (ofMagnitudeBits negative bits).isNegative = negative := by
  rw [isNegative, toNat_bits_ofMagnitudeBits negative h]
  cases negative with
  | false => exact decide_eq_false (Nat.not_le_of_lt h)
  | true => exact decide_eq_true (Nat.le_add_right _ _)

/-- The bits of the number nearest to an integer are those of its size, or of infinity. -/
theorem bits_ofInt (n : Int) :
    (ofInt n).magnitudeBits = min (bitsOfSize (n * twoTo 1074).natAbs) (2047 * twoTo 52) ∧
      (ofInt n).isNegative = decide (n < 0) := by
  have hround : ofInt n = ofMagnitudeBits (decide (n < 0))
      (min (bitsOfSize (n * twoTo 1074).natAbs) (2047 * twoTo 52)) := by
    rw [ofInt, ofRatio, Nat.div_one, Nat.one_mul, bitsOfSize, Int.natAbs_mul, Int.natAbs_natCast]
  have hbits : min (bitsOfSize (n * twoTo 1074).natAbs) (2047 * twoTo 52) < twoTo 63 :=
    Nat.lt_of_le_of_lt (Nat.min_le_right _ _) (by decide)
  rw [hround]
  exact ⟨magnitudeBits_ofMagnitudeBits _ hbits, isNegative_ofMagnitudeBits _ hbits⟩

/-- An integer is rounded to a number. -/
theorem isNaN_ofInt (n : Int) : (ofInt n).isNaN = false := by
  rw [isNaN, (bits_ofInt n).1]
  exact decide_eq_false (Nat.not_lt_of_le (Nat.min_le_right _ _))

/-- The rank of the number nearest to an integer is that of the integer, rounded. -/
theorem rank_ofInt (n : Int) : (ofInt n).rank = roundedRank (n * twoTo 1074) := by
  have hsign : n * twoTo 1074 < 0 ↔ n < 0 :=
    lt_iff_lt_of_le_iff_le
      (mul_nonneg_iff_of_pos_right (Int.natCast_pos.mpr (twoTo_pos 1074)))
  obtain ⟨hbits, hnegative⟩ := bits_ofInt n
  simp only [rank, size_eq, hbits, hnegative, roundedRank, roundedSize, decide_eq_true_eq, hsign]

/-- An integer of fifty-three places is a number, and so its own rounding. -/
theorem rank_ofInt_of_lt {n : Int} (h : n.natAbs < twoTo 53) :
    (ofInt n).rank = n * twoTo 1074 := by
  have habs : (n * twoTo 1074).natAbs = n.natAbs * twoTo 1074 := by
    rw [Int.natAbs_mul, Int.natAbs_natCast]
  have hexact : sizeOfBits (bitsOfSize (n * twoTo 1074).natAbs) = (n * twoTo 1074).natAbs := by
    rw [habs]
    have hlog := log2_mul_twoTo_lt h (by decide) 1074
    exact sizeOfBits_bitsOfSize (Nat.dvd_mul_left_of_dvd (twoTo_dvd (by omega)) n.natAbs)
  have hfinite : bitsOfSize (n * twoTo 1074).natAbs ≤ 2047 * twoTo 52 := by
    have hbits := of_decide_eq_true (@isFinite_ofInt n (Nat.le_trans h.le (by decide)))
    rw [(bits_ofInt n).1] at hbits
    omega
  rw [rank_ofInt, roundedRank_of_natAbs]
  rw [roundedSize, Nat.min_eq_left hfinite, hexact]

end Double

end Tabula
