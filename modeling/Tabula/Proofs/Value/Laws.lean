import Tabula.Proofs.Number.Rounding
import Tabula.Proofs.Value.Sorting

/-!
# The laws of the order of values

Two integers compare exactly, while an integer is rounded when it is compared with a floating-point
number. Rounding never takes it past that number. So an integer is equal to the number that it is
rounded to and compares with all others as it is, and the order is transitive as long as no number
is compared with two different integers that are both rounded to it: it is equal to both of them.
-/

namespace Tabula

open Std (TransCmp)

/-- Two numbers compare by their ranks. -/
theorem Double.compare?_eq_rank {x y : Double} (hx : x.isNaN = false) (hy : y.isNaN = false) :
    x.compare? y = some (compare x.rank y.rank) := by
  rw [compare?, hx, hy, Bool.or_self, if_neg Bool.false_ne_true]

namespace Value

variable {a b c : Value}

/-! ### Integers and floating-point numbers -/

/-- The exact place of an integer among the ranks of floating-point numbers. -/
def exactRank (n : Int64) : Int := n.toInt * twoTo 1074

/-- An integer is rounded to a number. -/
theorem isNaN_widen (n : Int64) : (widen n).isNaN = false := Double.isNaN_ofInt n.toInt

/-- The rank of the number that an integer is rounded to. -/
theorem rank_widen (n : Int64) : (widen n).rank = Double.roundedRank (exactRank n) :=
  Double.rank_ofInt n.toInt

/-- An integer is equal to the number that it is rounded to, and compares with all others as it
is. -/
theorem compare?_int_float (n : Int64) {x : Double} (hx : x.isNaN = false) :
    (Value.int n).compare? (.float x) =
      some (if (widen n).rank = x.rank then .eq else compare (exactRank n) x.rank) := by
  have hround := rank_widen n
  have hfixed := Double.roundedRank_rank hx
  rw [compare?, Double.compare?_eq_rank (isNaN_widen n) hx, Option.some_inj]
  split
  · rename_i heq
    rw [heq, Std.ReflOrd.compare_self]
  · rename_i hne
    rcases Int.lt_trichotomy (exactRank n) x.rank with hlt | heq | hgt
    · have hle := hfixed ▸ hround ▸ Double.roundedRank_mono hlt.le
      rw [Int.compare_eq_lt.mpr hlt, Int.compare_eq_lt.mpr (lt_of_le_of_ne hle hne)]
    · exact absurd (by rw [hround, heq, hfixed]) hne
    · have hle := hfixed ▸ hround ▸ Double.roundedRank_mono hgt.le
      rw [Int.compare_eq_gt.mpr hgt, Int.compare_eq_gt.mpr (lt_of_le_of_ne hle (Ne.symm hne))]

/-- An integer of fifty-three places is a number. -/
theorem rank_widen_of_lt {n : Int64} (h : n.toInt.natAbs < twoTo 53) :
    (widen n).rank = exactRank n :=
  Double.rank_ofInt_of_lt h

/-- An integer that is not greater is not rounded to a greater number. -/
theorem rank_widen_le {m n : Int64} (h : m.toInt ≤ n.toInt) : (widen m).rank ≤ (widen n).rank := by
  have hexact : exactRank m ≤ exactRank n :=
    Int.mul_le_mul_of_nonneg_right h (Int.natCast_nonneg _)
  rw [rank_widen, rank_widen]
  exact Double.roundedRank_mono hexact

/-! ### Numbers -/

/-- Integers and the floating-point values that are numbers. -/
inductive IsNumber : Value → Prop
  | int (n : Int64) : IsNumber (.int n)
  | float {x : Double} (number : x.isNaN = false) : IsNumber (.float x)

/-- The rank of a number; that of an integer is rounded. -/
def rank : Value → Int
  | .int n => (widen n).rank
  | .float x => x.rank
  | _ => 0

/-- Two numbers compare by their ranks unless both are integers. -/
theorem IsNumber.compare?_cases (ha : a.IsNumber) (hb : b.IsNumber) :
    a.compare? b = some (compare a.rank b.rank) ∨ ∃ m n, a = .int m ∧ b = .int n := by
  cases ha with
  | int m =>
    cases hb with
    | int n => exact Or.inr ⟨m, n, rfl, rfl⟩
    | float hy => exact Or.inl (Double.compare?_eq_rank (isNaN_widen m) hy)
  | float hx =>
    cases hb with
    | int n => exact Or.inl (Double.compare?_eq_rank hx (isNaN_widen n))
    | float hy => exact Or.inl (Double.compare?_eq_rank hx hy)

/-- Whether a value is less than another one. -/
def Less (a b : Value) : Prop := a.compare? b = some .lt

/-- Whether a value is less than another one or equal to it. -/
def AtMost (a b : Value) : Prop := a.Less b ∨ a.same b = true

instance (a b : Value) : Decidable (a.Less b) := inferInstanceAs (Decidable (_ = _))

instance (a b : Value) : Decidable (a.AtMost b) := inferInstanceAs (Decidable (_ ∨ _))

/-- A number that is not greater has no greater rank. -/
theorem IsNumber.rank_le (ha : a.IsNumber) (hb : b.IsNumber) (h : a.AtMost b) :
    a.rank ≤ b.rank := by
  rw [AtMost, Less, same, beq_iff_eq] at h
  rcases ha.compare?_cases hb with hranks | ⟨m, n, rfl, rfl⟩
  · rw [hranks] at h
    simp only [Option.some_inj, Int.compare_eq_lt, Int.compare_eq_eq] at h
    omega
  · simp only [compare?, Option.some_inj, Int.compare_eq_lt, Int.compare_eq_eq] at h
    exact rank_widen_le (by omega)

/-- A number of a smaller rank is less. -/
theorem IsNumber.less_of_rank_lt (ha : a.IsNumber) (hb : b.IsNumber) (h : a.rank < b.rank) :
    a.Less b := by
  rcases ha.compare?_cases hb with hranks | ⟨m, n, rfl, rfl⟩
  · rw [Less, hranks, Int.compare_eq_lt.mpr h]
  · have hlt : m.toInt < n.toInt := Int.not_le.mp fun hle => Int.not_le.mpr h (rank_widen_le hle)
    rw [Less, compare?, Int.compare_eq_lt.mpr hlt]

/-- Of two numbers of one rank one is less only if both are integers. -/
theorem IsNumber.integers_of_less (ha : a.IsNumber) (hb : b.IsNumber) (h : a.Less b)
    (hrank : a.rank = b.rank) : ∃ m n, a = .int m ∧ b = .int n := by
  refine (ha.compare?_cases hb).resolve_left fun hranks => ?_
  rw [Less, hranks, hrank, Std.ReflOrd.compare_self] at h
  cases h

/-- Two numbers of one rank are equal or both are integers. -/
theorem IsNumber.same_or_integers (ha : a.IsNumber) (hb : b.IsNumber) (hrank : a.rank = b.rank) :
    a.same b = true ∨ ∃ m n, a = .int m ∧ b = .int n := by
  refine (ha.compare?_cases hb).imp_left fun hranks => ?_
  rw [same, hranks, hrank, Std.ReflOrd.compare_self]
  rfl

/-- Equal numbers have one rank. -/
theorem IsNumber.rank_eq (ha : a.IsNumber) (hb : b.IsNumber) (h : a.same b = true) :
    a.rank = b.rank :=
  Int.le_antisymm (ha.rank_le hb (Or.inr h)) (hb.rank_le ha (Or.inr (same_comm a b ▸ h)))

/-- An integer that is less than another one is a different one. -/
theorem ne_of_less_int {m n : Int64} (h : (Value.int m).Less (.int n)) : m ≠ n := by
  rintro rfl
  simp [Less, compare?] at h

/-- An integer is equal to the number that it is rounded to. -/
theorem same_float_of_rank (n : Int64) {x : Double} (hx : x.isNaN = false)
    (h : (widen n).rank = x.rank) : (Value.int n).same (.float x) = true := by
  rw [same, compare?_int_float n hx, if_pos h]
  rfl

/-! ### Transitivity -/

/-- The laws that lead from the first of three values by the second to the third. -/
structure Transitive (a b c : Value) : Prop where
  same : a.same b = true → b.same c = true → a.same c = true
  less_atMost : a.Less b → b.AtMost c → a.Less c
  atMost_less : a.AtMost b → b.Less c → a.Less c

/-- Of three values, one is a floating-point number, and the others are different integers that are
equal to it. -/
def MergesIntegers (values : List Value) : Prop :=
  ∃ m n x, m ≠ n ∧ (Value.int m).same (.float x) = true ∧ (Value.int n).same (.float x) = true ∧
    values.Perm [.int m, .int n, .float x]

/-- Integers obey the laws. -/
theorem transitive_int (k m n : Int64) : Transitive (.int k) (.int m) (.int n) := by
  constructor <;>
    simp only [Less, AtMost, Value.same, compare?, beq_iff_eq, Option.some_inj,
      Int.compare_eq_lt, Int.compare_eq_eq] <;> omega

/-- Numbers obey the laws unless they merge integers. -/
theorem IsNumber.transitive (ha : a.IsNumber) (hb : b.IsNumber) (hc : c.IsNumber)
    (h : ¬ MergesIntegers [a, b, c]) : Transitive a b c where
  same hab hbc := by
    have hrank := (ha.rank_eq hb hab).trans (hb.rank_eq hc hbc)
    rcases ha.same_or_integers hc hrank with hsame | ⟨m, n, rfl, rfl⟩
    · exact hsame
    · cases hb with
      | int k => exact (transitive_int m k n).same hab hbc
      | float hx =>
        -- the number is equal to both integers, so they are the same
        by_contra hne
        refine h ⟨m, n, _, ?_, hab, same_comm _ _ ▸ hbc, .cons _ (.swap ..)⟩
        rintro rfl
        exact hne (by simp [Value.same, compare?])
  less_atMost hab hbc := by
    have hle := ha.rank_le hb (Or.inl hab)
    have hle' := hb.rank_le hc hbc
    rcases Int.lt_or_eq_of_le (Int.le_trans hle hle') with hlt | heq
    · exact ha.less_of_rank_lt hc hlt
    · obtain ⟨m, n, rfl, rfl⟩ := ha.integers_of_less hb hab (by omega)
      cases hc with
      | int k => exact (transitive_int m n k).less_atMost hab hbc
      | float hx =>
        have hn : (widen n).rank = _ := Int.le_antisymm hle' (heq ▸ hle)
        exact absurd ⟨m, n, _, ne_of_less_int hab, same_float_of_rank m hx heq,
          same_float_of_rank n hx hn, .refl _⟩ h
  atMost_less hab hbc := by
    have hle := ha.rank_le hb hab
    have hle' := hb.rank_le hc (Or.inl hbc)
    rcases Int.lt_or_eq_of_le (Int.le_trans hle hle') with hlt | heq
    · exact ha.less_of_rank_lt hc hlt
    · obtain ⟨m, n, rfl, rfl⟩ := hb.integers_of_less hc hbc (by omega)
      cases ha with
      | int k => exact (transitive_int k m n).atMost_less hab hbc
      | float hx =>
        have hm : (widen m).rank = _ := Int.le_antisymm (heq ▸ hle') hle
        exact absurd ⟨m, n, _, ne_of_less_int hbc, same_float_of_rank m hx hm,
          same_float_of_rank n hx heq.symm, (List.Perm.swap ..).trans (.cons _ (.swap ..))⟩ h

/-- Values of one type obey the laws. -/
theorem transitive_of_hasType {type : ScalarType} (ha : a.hasType type = true)
    (hb : b.hasType type = true) (hc : c.hasType type = true) (hna : a.isNaN = false)
    (hnb : b.isNaN = false) (hnc : c.isNaN = false) : Transitive a b c := by
  have hab := compare?_eq_orderIn ha hb hna hnb
  have hbc := compare?_eq_orderIn hb hc hnb hnc
  have hac := compare?_eq_orderIn ha hc hna hnc
  constructor <;>
    simp only [Less, AtMost, Value.same, hab, hbc, hac, beq_iff_eq, Option.some_inj]
  · exact TransCmp.eq_trans
  · rintro hlt (hlt' | heq)
    · exact TransCmp.lt_trans hlt hlt'
    · exact TransCmp.lt_of_lt_of_eq hlt heq
  · rintro (hlt | heq) hlt'
    · exact TransCmp.lt_trans hlt hlt'
    · exact TransCmp.lt_of_eq_of_lt heq hlt'

/-- The laws have to be shown only where the first value compares with the second and the second
with the third. -/
theorem transitive_of_comparable
    (h : ∀ order order', a.compare? b = some order → b.compare? c = some order' →
      Transitive a b c) : Transitive a b c := by
  cases hab : a.compare? b with
  | none => constructor <;> simp [Less, AtMost, Value.same, hab]
  | some order =>
    cases hbc : b.compare? c with
    | none => constructor <;> simp [Less, AtMost, Value.same, hbc]
    | some order' => exact h order order' hab hbc

/-- What compares with a number is one. -/
theorem IsNumber.of_compare? (ha : a.IsNumber) (hb : b.isNaN = false) {order : Ordering}
    (h : a.compare? b = some order) : b.IsNumber := by
  cases b with
  | int n => exact .int n
  | float x => exact .float hb
  | _ => cases ha <;> cases h

/-- A value that is no number compares only with values of its type. -/
theorem type?_eq_of_compare? (ha : a.isNaN = false) (hnumber : ¬ a.IsNumber) {order : Ordering}
    (h : a.compare? b = some order) : b.type? = a.type? := by
  cases a with
  | int n => exact absurd (.int n) hnumber
  | float x => exact absurd (.float ha) hnumber
  | _ => cases b <;> first | rfl | cases h

/-- Only null has no type. -/
theorem type?_eq_none_iff : a.type? = none ↔ a = .null := by
  cases a <;> simp [type?]

/-- Three values that do not merge integers obey the laws. -/
theorem transitive_of_not_merges (ha : a.isNaN = false) (hb : b.isNaN = false)
    (hc : c.isNaN = false) (h : ¬ MergesIntegers [a, b, c]) : Transitive a b c := by
  refine transitive_of_comparable fun order order' hab hbc => ?_
  by_cases hnumber : a.IsNumber
  · have hnumber' := hnumber.of_compare? hb hab
    exact hnumber.transitive hnumber' (hnumber'.of_compare? hc hbc) h
  · have hnumber' : ¬ b.IsNumber := fun hb' =>
      hnumber (hb'.of_compare? ha (by rw [← swap_compare?, hab]; rfl))
    have htype := type?_eq_of_compare? ha hnumber hab
    have htype' := (type?_eq_of_compare? hb hnumber' hbc).trans htype
    cases hnone : a.type? with
    | none =>
      rw [hnone] at htype htype'
      rw [type?_eq_none_iff.mp hnone, type?_eq_none_iff.mp htype, type?_eq_none_iff.mp htype']
      constructor <;> simp [Less, AtMost, Value.same, compare?]
    | some type =>
      rw [hnone] at htype htype'
      exact transitive_of_hasType (beq_iff_eq.mpr hnone) (beq_iff_eq.mpr htype)
        (beq_iff_eq.mpr htype') ha hb hc

/-- Three values obey the laws in whatever order they are taken exactly if they do not merge
integers: a number may not be equal to two different ones. -/
theorem order_lawful (ha : a.isNaN = false) (hb : b.isNaN = false) (hc : c.isNaN = false) :
    b.compare? a = (a.compare? b).map Ordering.swap ∧
    ((∀ x y z, [x, y, z].Perm [a, b, c] → Transitive x y z) ↔ ¬ MergesIntegers [a, b, c]) ∧
    ∀ (n : Int64) (x : Double), x.isNaN = false →
      (Value.int n).compare? (.float x) =
          some (if (widen n).rank = x.rank then .eq else compare (exactRank n) x.rank) ∧
        (n.toInt.natAbs < twoTo 53 → (widen n).rank = exactRank n) := by
  refine ⟨(swap_compare? a b).symm, ⟨?_, ?_⟩, fun n x hx =>
    ⟨compare?_int_float n hx, rank_widen_of_lt⟩⟩
  · rintro hlaws ⟨m, n, x, hne, hm, hn, hperm⟩
    have hsame := (hlaws (.int m) (.float x) (.int n)
      ((List.Perm.cons _ (.swap ..)).trans hperm.symm)).same hm (same_comm _ _ ▸ hn)
    exact hne (Int64.toInt_inj.mp (by simpa [Value.same, compare?] using hsame))
  · intro hmerges x y z hperm
    have hnumbers : ∀ value ∈ [x, y, z], value.isNaN = false := fun value hvalue => by
      have hmem := hperm.mem_iff.mp hvalue
      simp only [List.mem_cons, List.not_mem_nil, or_false] at hmem
      rcases hmem with rfl | rfl | rfl <;> assumption
    refine transitive_of_not_merges (hnumbers x (by simp)) (hnumbers y (by simp))
      (hnumbers z (by simp)) ?_
    rintro ⟨m, n, w, hne, hm, hn, hmerged⟩
    exact hmerges ⟨m, n, w, hne, hm, hn, hperm.symm.trans hmerged⟩

/-- Beyond fifty-three places, a number between two integers may differ from both. -/
theorem order_lawful_neighbours :
    (Value.int 9007199254740993).isNaN = false ∧
    (Value.float ⟨0x4340000000000001⟩).isNaN = false ∧
    (Value.int 9007199254740995).isNaN = false ∧
    Transitive (.int 9007199254740993) (.float ⟨0x4340000000000001⟩) (.int 9007199254740995) := by
  have hnumber : (Value.float ⟨0x4340000000000001⟩).isNaN = false := by decide
  refine ⟨rfl, hnumber, rfl,
    (order_lawful rfl hnumber rfl).2.1.mpr ?_ _ _ _ (.refl _)⟩
  rintro ⟨m, n, x, -, hm, -, hperm⟩
  have hx : Value.float x ∈ _ := hperm.mem_iff.mpr (by simp)
  have hint : Value.int m ∈ _ := hperm.mem_iff.mpr (by simp)
  simp only [List.mem_cons, Value.float.injEq, Value.int.injEq, reduceCtorEq, List.not_mem_nil,
    or_false, false_or] at hx hint
  subst hx
  rcases hint with rfl | rfl <;> revert hm <;> decide +kernel

/-- At fifty-four places, two neighbouring integers are rounded to one number: it is equal to both,
though one of them is less than the other and not that number. -/
theorem order_merges_neighbours :
    (Value.float ⟨0x4340000000000000⟩).isNaN = false ∧
    ¬ Transitive (.int 9007199254740992) (.float ⟨0x4340000000000000⟩) (.int 9007199254740993) ∧
    ¬ Transitive (.int 9007199254740992) (.int 9007199254740993) (.float ⟨0x4340000000000000⟩) ∧
    (Value.int 9007199254740993).compare? (.float ⟨0x4340000000000000⟩) = some .eq ∧
    (Double.mk 0x4340000000000000).rank < exactRank 9007199254740993 := by
  refine ⟨by decide, fun h => ?_, fun h => ?_, by decide +kernel, by decide +kernel⟩
  · have hsame := h.same (by decide +kernel) (by decide +kernel)
    exact absurd hsame (by decide)
  · have hless := h.less_atMost (by decide) (by decide +kernel)
    exact absurd hless (by decide +kernel)

end Value

end Tabula
