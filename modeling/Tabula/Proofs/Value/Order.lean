import Tabula.Store.Row

/-!
# The order of values

Comparing the other way round gives the opposite outcome, for values of all types and of two
different ones. So equality of values, of rows and of keys does not depend on the side on which
each of the two stands. Within one type it carries over from value to value.
-/

namespace Tabula

open Std (OrientedOrd)

/-- Two numbers compare the other way round with the opposite outcome. -/
theorem Double.swap_compare? (x y : Double) :
    (x.compare? y).map Ordering.swap = y.compare? x := by
  unfold Double.compare?
  rw [Bool.or_comm]
  split
  · rfl
  · rw [Option.map_some, ← OrientedOrd.eq_swap]

/-- Two numbers that are equal to the same number are equal to each other. -/
theorem Double.compare?_eq_of_eq {x y z : Double} (hx : x.compare? z = some .eq)
    (hy : y.compare? z = some .eq) : x.compare? y = some .eq := by
  unfold compare? at *
  split at hx
  · cases hx
  · split at hy
    · cases hy
    · rename_i hxz hyz
      simp only [Bool.or_eq_true, not_or, Bool.not_eq_true] at hxz hyz
      simp only [Option.some.injEq, Int.compare_eq_eq] at hx hy
      simp [hxz.1, hyz.1, hx, hy]

/-- Two dates compare the other way round with the opposite outcome. -/
theorem Date.swap_compare (a b : Date) : (a.compare b).swap = b.compare a := by
  simp only [Date.compare, Ordering.swap_then, ← OrientedOrd.eq_swap]

/-- Only the date itself compares as equal. -/
theorem Date.eq_of_compare_eq {a b : Date} (h : a.compare b = .eq) : a = b := by
  obtain ⟨year, month, day, _⟩ := a
  simp only [Date.compare, Ordering.then_eq_eq, Int.compare_eq_eq, Nat.compare_eq_eq] at h
  obtain ⟨rfl, rfl, rfl⟩ := h
  rfl

namespace Value

/-- Two values compare the other way round with the opposite outcome, or in neither way. -/
theorem swap_compare? (a b : Value) : (a.compare? b).map Ordering.swap = b.compare? a := by
  cases a <;> cases b <;>
    simp only [compare?, Option.map_none, Option.map_some, Ordering.swap_eq,
      Double.swap_compare?, Date.swap_compare, ← OrientedOrd.eq_swap]

/-- Equality of values is symmetric. -/
theorem same_comm (a b : Value) : a.same b = b.same a := by
  rw [same, same, ← swap_compare? a b]
  cases a.compare? b with
  | none => rfl
  | some order => cases order <;> rfl

/-- A smaller integer is not equal to a greater one. -/
theorem same_int_of_lt {a b : Int64} (h : a < b) : (Value.int a).same (.int b) = false := by
  have hlt : Ord.compare a.toInt b.toInt = .lt :=
    Int.compare_eq_lt.mpr (Int64.lt_iff_toInt_lt.mp h)
  simp [same, compare?, hlt]

/-- In a column of integers, only the integer itself is equal to it. -/
theorem eq_int_of_same {a : Int64} {value : Value}
    (htyped : value.isNull = true ∨ value.hasType .int = true)
    (h : (Value.int a).same value = true) : value = .int a := by
  cases value with
  | int b =>
    simp only [same, compare?, beq_iff_eq, Option.some.injEq, Int.compare_eq_eq] at h
    rw [Int64.toInt_inj.mp h]
  | null => cases h
  | _ => simp [isNull, hasType, type?] at htyped

/-- Of values of one type that is not that of floating-point numbers only those are equal that are
the same. -/
theorem eq_of_same {a b : Value} (htype : a.type? = b.type?) (hfloat : a.type? ≠ some .float)
    (h : a.same b = true) : a = b := by
  rw [same, beq_iff_eq] at h
  cases a with
  | null => cases b <;> cases htype; rfl
  | bool x =>
    cases b <;> cases htype
    rw [Std.compare_eq_iff_eq.mp (Option.some.inj h)]
  | int x =>
    cases b <;> cases htype
    rw [Int64.toInt_inj.mp (Std.compare_eq_iff_eq.mp (Option.some.inj h))]
  | float x => exact absurd rfl hfloat
  | text x =>
    cases b <;> cases htype
    rw [Std.compare_eq_iff_eq.mp (Option.some.inj h)]
  | date x =>
    cases b <;> cases htype
    rw [Date.eq_of_compare_eq (Option.some.inj h)]

/-- Of values of one type, those that are equal to the same value are equal to each other. -/
theorem same_of_same {a b value : Value} (ha : a.type? = value.type?)
    (hb : b.type? = value.type?) (hasame : a.same value = true) (hbsame : b.same value = true) :
    a.same b = true := by
  by_cases hfloat : value.type? = some .float
  · cases value <;> cases hfloat
    cases a <;> cases ha
    cases b <;> cases hb
    rw [same, beq_iff_eq] at *
    exact Double.compare?_eq_of_eq hasame hbsame
  · rw [eq_of_same ha (ha ▸ hfloat) hasame, same_comm]
    exact hbsame

end Value

/-- Equality of rows is symmetric. -/
theorem sameRow_comm (a b : Row) : sameRow a b = sameRow b a := by
  induction a generalizing b with
  | nil => cases b <;> rfl
  | cons value rest ih =>
    cases b with
    | nil => rfl
    | cons other rest' => rw [sameRow, sameRow, Value.same_comm, ih]

/-- Equality of keys is symmetric. -/
theorem RowKey.same_comm (a b : RowKey) : a.same b = b.same a := sameRow_comm a.values b.values

end Tabula
