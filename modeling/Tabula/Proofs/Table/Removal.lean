import Mathlib.Data.List.Induction
import Tabula.Proofs.Table.Integrity

/-!
# Removing the rows of a test

Rows to remove are found again by their keys. Where all keys differ and equal themselves, the key
of a row leads back to the position of the row. So the keys of the rows that pass a test lead to
exactly the positions of these rows, and taking out the rows at these positions from the last to
the first leaves the other rows in their order.
-/

namespace Tabula

section Positions

variable {A : Type} {test : A → Bool} {items : List A}

/-- The positions of the items that pass a test, from the first to the last. -/
def positionsWhere (test : A → Bool) (items : List A) : List Nat :=
  (items.zipIdx.filter fun item => test item.1).map (·.2)

/-- An item at the end adds the last position, if it passes. -/
theorem positionsWhere_append_singleton (items : List A) (item : A) :
    positionsWhere test (items ++ [item]) =
      positionsWhere test items ++ if test item then [items.length] else [] := by
  cases hitem : test item <;> simp [positionsWhere, List.zipIdx_append, hitem]

/-- The positions increase. -/
theorem pairwise_positionsWhere (test : A → Bool) (items : List A) :
    (positionsWhere test items).Pairwise (· < ·) := by
  have hall : (items.zipIdx.map (·.2)).Pairwise (· < ·) := by
    rw [List.zipIdx_map_snd]
    exact List.pairwise_lt_range'
  exact hall.sublist (List.filter_sublist.map _)

/-- If every item leads back to its position, the items that pass lead to their positions. -/
theorem filterMap_filter_eq_positionsWhere {find : A → Option Nat}
    (h : ∀ i (hi : i < items.length), find items[i] = some i) :
    (items.filter test).filterMap find = positionsWhere test items := by
  have hfind : ∀ item ∈ items.zipIdx.filter fun item => test item.1,
      find item.1 = some item.2 := by
    intro item hitem
    obtain ⟨hlt, heq⟩ := List.mem_zipIdx' (List.mem_filter.mp hitem).1
    rw [heq]
    exact h item.2 hlt
  calc (items.filter test).filterMap find
      = ((items.zipIdx.map (·.1)).filter test).filterMap find := by rw [List.zipIdx_map_fst]
    _ = (items.zipIdx.filter fun item => test item.1).filterMap fun item => find item.1 := by
      rw [List.filter_map, List.filterMap_map]
      rfl
    _ = (items.zipIdx.filter fun item => test item.1).filterMap fun item => some item.2 :=
      List.filterMap_congr hfind
    _ = positionsWhere test items := by
      rw [List.filterMap_eq_map']
      rfl

/-- Taking out what stands at the positions, from the last to the first, leaves the items that do
not pass. -/
theorem foldl_eraseIdx_positionsWhere (test : A → Bool) (items tail : List A) :
    (positionsWhere test items).reverse.foldl List.eraseIdx (items ++ tail) =
      (items.filter fun item => !test item) ++ tail := by
  induction items using List.reverseRecOn generalizing tail with
  | nil => rfl
  | append_singleton items item ih =>
    rw [positionsWhere_append_singleton]
    cases hitem : test item with
    | false =>
      have hrest := ih (item :: tail)
      simpa [hitem] using hrest
    | true =>
      have herase : (items ++ item :: tail).eraseIdx items.length = items ++ tail := by
        rw [List.eraseIdx_append_of_length_le (Nat.le_refl _), Nat.sub_self, List.eraseIdx_cons_zero]
      simp [hitem, herase, ih tail]

end Positions

/-- Removing rows takes out what stands at the positions, one after the other. -/
theorem removeRows_fst (table : Table) (changes : List RowChange) (positions : List Nat) :
    (Transaction.removeRows table changes positions).1 =
      { table with rows := positions.foldl List.eraseIdx table.rows } := by
  induction positions generalizing table changes with
  | nil => rfl
  | cons position rest ih =>
    cases hrow : table.rows[position]? with
    | none =>
      have herase := List.eraseIdx_of_length_le (List.getElem?_eq_none_iff.mp hrow)
      simp only [Transaction.removeRows, Table.remove?, hrow, Option.map_none, ih,
        List.foldl_cons, herase]
    | some row =>
      simp only [Transaction.removeRows, Table.remove?, hrow, Option.map_some, ih,
        List.foldl_cons]

/-- A row whose values all equal themselves equals itself. -/
theorem sameRow_self {row : Row} (h : ∀ value ∈ row, value.same value = true) :
    sameRow row row = true := by
  induction row with
  | nil => rfl
  | cons value rest ih =>
    obtain ⟨hvalue, hrest⟩ := List.forall_mem_cons.mp h
    rw [sameRow, hvalue, ih hrest, Bool.and_self]

namespace Table

variable {table : Table}

/-- All values in the columns of the key equal themselves. -/
def KeysReflexive (table : Table) : Prop :=
  ∀ row ∈ table.rows, ∀ column ∈ table.schema.primaryKey,
    (row.at column).same (row.at column) = true

/-- Where keys equal themselves, a key that equals that of a row is the key of this row only. -/
theorem same_keyOf_iff (h : table.Sound) (hkey : table.schema.primaryKey ≠ [])
    (hself : table.KeysReflexive) {i j : Nat} (hi : i < table.rows.length)
    (hj : j < table.rows.length) :
    (table.schema.keyOf table.rows[i]).same (table.schema.keyOf table.rows[j]) = true ↔ i = j := by
  constructor
  · intro hsame
    by_contra hne
    rw [h.keys hkey i j hi hj hne] at hsame
    cases hsame
  · rintro rfl
    refine sameRow_self fun value hvalue => ?_
    obtain ⟨column, hcolumn, rfl⟩ := List.mem_map.mp hvalue
    exact hself table.rows[i] (List.getElem_mem hi) column hcolumn

/-- Where keys equal themselves and no others, the key of a row leads to its position. -/
theorem find?_keyOf (h : table.Sound) (hkey : table.schema.primaryKey ≠ [])
    (hself : table.KeysReflexive) (i : Nat) (hi : i < table.rows.length) :
    table.find? (table.schema.keyOf table.rows[i]) = some i := by
  rw [find?, if_neg (by simpa using hkey), List.findIdx?_eq_some_iff_getElem]
  refine ⟨hi, (same_keyOf_iff h hkey hself hi hi).mpr rfl, fun j hj hsame => ?_⟩
  have hlt := Nat.lt_trans hj hi
  exact Nat.ne_of_lt hj ((same_keyOf_iff h hkey hself hlt hi).mp hsame)

/-- The keys of the rows that pass a test lead to the positions of these rows. -/
theorem positionsOf_filter (h : table.Sound) (hkey : table.schema.primaryKey ≠ [])
    (hself : table.KeysReflexive) (test : Row → Bool) :
    table.positionsOf ((table.rows.filter test).map table.schema.keyOf) =
      (positionsWhere test table.rows).reverse := by
  have hpositions := @filterMap_filter_eq_positionsWhere _ test table.rows
    (fun row => table.find? (table.schema.keyOf row)) (find?_keyOf h hkey hself)
  have hsorted : (positionsWhere test table.rows).Pairwise fun a b => decide (a ≤ b) = true :=
    (pairwise_positionsWhere test table.rows).imp fun hlt => decide_eq_true (Nat.le_of_lt hlt)
  rw [positionsOf, List.filterMap_map]
  simp only [Function.comp_def, hpositions, List.mergeSort_of_pairwise hsorted]

/-- Removing the rows that pass a test by their keys leaves the others in their order. -/
theorem removeRows_filter (h : table.Sound) (hkey : table.schema.primaryKey ≠ [])
    (hself : table.KeysReflexive) (test : Row → Bool) (changes : List RowChange) :
    (Transaction.removeRows table changes
      (table.positionsOf ((table.rows.filter test).map table.schema.keyOf))).1 =
      { table with rows := table.rows.filter fun row => !test row } := by
  rw [positionsOf_filter h hkey hself, removeRows_fst]
  have herase := foldl_eraseIdx_positionsWhere test table.rows []
  rw [List.append_nil, List.append_nil] at herase
  rw [herase]

end Table

end Tabula
