import Tabula.Proofs.Value.Order
import Tabula.Proofs.Value.Types

/-!
# Sorting values of one type

Values of different types do not compare, and the sort takes such pairs for equal; so it is an order
only where all values have one type. There every two values compare, by what they consist of, unless
one of them is not a number. With null before all of them, the sort is reflexive, total and
transitive, and it is reversed when its two values are exchanged.
-/

namespace Tabula.Value

open Std (OrientedCmp ReflCmp TransCmp)

/-- Whether the value is a floating-point one that is not a number. -/
def isNaN : Value → Bool
  | .float value => value.isNaN
  | _ => false

/-! ### Values of one type -/

/-- The order of the values of a type, by what they consist of. -/
def orderIn : ScalarType → Value → Value → Ordering
  | .bool => compareOn fun | .bool value => value | _ => false
  | .int => compareOn fun | .int value => value.toInt | _ => 0
  | .float => compareOn fun | .float value => value.rank | _ => 0
  | .text => compareOn fun | .text value => value | _ => ""
  | .date =>
    compareLex (compareOn fun | .date value => value.year | _ => 0)
      (compareLex (compareOn fun | .date value => value.month | _ => 0)
        (compareOn fun | .date value => value.day | _ => 0))

instance (type : ScalarType) : TransCmp (orderIn type) :=
  match type with
  | .bool | .int | .float | .text => inferInstanceAs (TransCmp (compareOn _))
  | .date => inferInstanceAs (TransCmp (compareLex _ _))

variable {type : ScalarType} {a b c : Value}

/-- Two values of one type compare if both are numbers or the type is another one. -/
theorem compare?_eq_orderIn (ha : a.hasType type = true) (hb : b.hasType type = true)
    (hna : a.isNaN = false) (hnb : b.isNaN = false) :
    a.compare? b = some (orderIn type a b) := by
  rw [hasType, beq_iff_eq] at ha hb
  cases type <;> cases a <;> cases ha <;> cases b <;> cases hb <;> try rfl
  -- only floating-point numbers may fail to compare
  rw [isNaN] at hna hnb
  simp only [compare?, Double.compare?, hna, hnb, Bool.or_self, Bool.false_eq_true, if_false]
  rfl

/-! ### Null before all values -/

/-- Null or a value of the type, but a number if that is the type of floating-point numbers. -/
structure Sortable (type : ScalarType) (value : Value) : Prop where
  typed : value.isNull = true ∨ value.hasType type = true
  number : value.isNaN = false

/-- The order of null and the values of a type, with null first. -/
def nullFirst (type : ScalarType) : Value → Value → Ordering :=
  compareLex (compareOn fun value => !value.isNull) (orderIn type)

instance (type : ScalarType) : TransCmp (nullFirst type) :=
  inferInstanceAs (TransCmp (compareLex _ _))

/-- Null is less than all other values. -/
theorem sortOrder_null_left (hb : b.isNull = false) : sortOrder .null b = .lt := by
  cases b with
  | null => cases hb
  | _ => rfl

/-- All other values are greater than null. -/
theorem sortOrder_null_right (ha : a.isNull = false) : a.sortOrder .null = .gt := by
  cases a with
  | null => cases ha
  | _ => rfl

/-- Two values that are not null are sorted as they compare. -/
theorem sortOrder_of_not_null (ha : a.isNull = false) (hb : b.isNull = false) :
    a.sortOrder b = (a.compare? b).getD .eq := by
  cases a with
  | null => cases ha
  | _ =>
    cases b with
    | null => cases hb
    | _ => rfl

/-- A value to sort that is not null has the type. -/
theorem Sortable.hasType (h : a.Sortable type) (hnull : a.isNull = false) :
    a.hasType type = true := by
  rcases h.typed with htrue | htype
  · rw [hnull] at htrue
    cases htrue
  · exact htype

/-- Null and the values of a type are sorted in their order with null first. -/
theorem sortOrder_eq_nullFirst (ha : a.Sortable type) (hb : b.Sortable type) :
    a.sortOrder b = nullFirst type a b := by
  have hfirst : nullFirst type a b =
      (compare (!a.isNull) (!b.isNull)).then (orderIn type a b) := rfl
  cases hnull : a.isNull with
  | true =>
    obtain rfl := isNull_iff.mp hnull
    cases hnull' : b.isNull with
    | true =>
      obtain rfl := isNull_iff.mp hnull'
      exact (@ReflCmp.compare_self _ (nullFirst type) _ _).symm
    | false =>
      rw [hfirst, hnull', sortOrder_null_left hnull']
      rfl
  | false =>
    cases hnull' : b.isNull with
    | true =>
      obtain rfl := isNull_iff.mp hnull'
      rw [hfirst, hnull, sortOrder_null_right hnull]
      rfl
    | false =>
      rw [hfirst, hnull, hnull', sortOrder_of_not_null hnull hnull',
        compare?_eq_orderIn (ha.hasType hnull) (hb.hasType hnull') ha.number hb.number]
      rfl

/-- Of null and the values of a type, those are equal in the sort that are equal. -/
theorem sortOrder_eq_eq_iff (ha : a.Sortable type) (hb : b.Sortable type) :
    a.sortOrder b = .eq ↔ a.same b = true := by
  cases hnull : a.isNull with
  | true =>
    obtain rfl := isNull_iff.mp hnull
    cases b <;> simp [sortOrder, same, compare?]
  | false =>
    cases hnull' : b.isNull with
    | true =>
      obtain rfl := isNull_iff.mp hnull'
      rw [sortOrder_null_right hnull]
      cases a with
      | null => cases hnull
      | _ => simp [same, compare?]
    | false =>
      rw [sortOrder_of_not_null hnull hnull', same,
        compare?_eq_orderIn (ha.hasType hnull) (hb.hasType hnull') ha.number hb.number]
      simp

/-- The laws of an order, for three values: it is reflexive, total and transitive, exchanging two
values reverses it, and just those values are equal in it that are equal. -/
structure SortLaws (a b c : Value) : Prop where
  refl : a.sortOrder a = .eq
  total : (a.sortOrder b).isLE = true ∨ (b.sortOrder a).isLE = true
  trans : (a.sortOrder b).isLE = true → (b.sortOrder c).isLE = true → (a.sortOrder c).isLE = true
  swap : b.sortOrder a = (a.sortOrder b).swap
  same : a.sortOrder b = .eq ↔ a.same b = true

/-- Sorting null and the values of one type obeys the laws of an order. -/
theorem Sortable.sortLaws (ha : a.Sortable type) (hb : b.Sortable type) (hc : c.Sortable type) :
    SortLaws a b c := by
  have hswap : b.sortOrder a = (a.sortOrder b).swap := by
    rw [sortOrder_eq_nullFirst ha hb, sortOrder_eq_nullFirst hb ha]
    exact OrientedCmp.eq_swap
  refine ⟨?_, ?_, fun hab hbc => ?_, hswap, sortOrder_eq_eq_iff ha hb⟩
  · rw [sortOrder_eq_nullFirst ha ha]
    exact ReflCmp.compare_self
  · rw [hswap]
    cases a.sortOrder b <;> decide
  · rw [sortOrder_eq_nullFirst ha hb] at hab
    rw [sortOrder_eq_nullFirst hb hc] at hbc
    rw [sortOrder_eq_nullFirst ha hc]
    exact TransCmp.isLE_trans hab hbc

end Tabula.Value
