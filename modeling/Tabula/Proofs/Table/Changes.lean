import Mathlib.Data.List.InsertIdx
import Tabula.Proofs.Outcome
import Tabula.Store.Transaction

/-!
# Changes of one table

What an insertion, an update and the removal of rows can do to a table, each said once. All of
them keep the schema. A refused insertion can move the counter and nothing else; the counter only
moves up as long as it does not overflow. Undoing the removals that `removeRows` notes gives back
the rows.
-/

namespace Tabula

namespace Table

variable {table after : Table} {values : List (ColumnRef × Value)}

/-! ### Insertion -/

/-- The new row that given values make, and the next number after it. -/
def drafted (table : Table) (supplied : List (Column × Value)) : Row × Int64 :=
  fillRow supplied table.nextId table.schema.columns

/-- An insertion fails at its values, fails at the row they make, or appends that row. -/
theorem insert_cases (table : Table) (values : List (ColumnRef × Value)) :
    (∃ error, table.schema.checkValues values = .error error ∧
      table.insert values = (.error error, table)) ∨
    ∃ supplied, table.schema.checkValues values = .ok supplied ∧
      ((∃ error, table.checkRow (table.drafted supplied).1 = .error error ∧
        table.insert values =
          (.error error, { table with nextId := (table.drafted supplied).2 })) ∨
      (table.checkRow (table.drafted supplied).1 = .ok () ∧
        table.insert values =
          (.ok table.rows.length,
            { table with
              rows := table.rows ++ [(table.drafted supplied).1]
              nextId := (table.drafted supplied).2 }))) := by
  cases hvalues : table.schema.checkValues values with
  | error error => exact Or.inl ⟨error, rfl, by simp only [insert, hvalues]⟩
  | ok supplied =>
    refine Or.inr ⟨supplied, rfl, ?_⟩
    cases hrow : table.checkRow (table.drafted supplied).1 with
    | error error =>
      refine Or.inl ⟨error, rfl, ?_⟩
      simp only [drafted] at hrow ⊢
      simp only [insert, hvalues, hrow]
    | ok _ =>
      refine Or.inr ⟨rfl, ?_⟩
      simp only [drafted] at hrow ⊢
      simp only [insert, hvalues, hrow]

/-- An insertion keeps the schema, whether or not it succeeds. -/
theorem insert_schema (table : Table) (values : List (ColumnRef × Value)) :
    (table.insert values).2.schema = table.schema := by
  rcases insert_cases table values with ⟨_, _, h⟩ | ⟨_, _, ⟨_, _, h⟩ | ⟨_, h⟩⟩ <;> rw [h]

/-- A refused insertion changes no row. -/
theorem insert_rows_of_error {error : StoreError} (h : table.insert values = (.error error, after)) :
    after.rows = table.rows := by
  rcases insert_cases table values with ⟨_, _, hcase⟩ | ⟨_, _, ⟨_, _, hcase⟩ | ⟨_, hcase⟩⟩ <;>
    rw [hcase] at h <;> cases h <;> rfl

/-- A successful insertion appends one row and gives its position. -/
theorem insert_rows_of_ok {position : Nat} (h : table.insert values = (.ok position, after)) :
    position = table.rows.length ∧ ∃ row, after.rows = table.rows ++ [row] := by
  rcases insert_cases table values with ⟨_, _, hcase⟩ | ⟨_, _, ⟨_, _, hcase⟩ | ⟨_, hcase⟩⟩ <;>
    rw [hcase] at h <;> cases h
  exact ⟨rfl, _, rfl⟩

/-! ### The counter -/

/-- The counter does not overflow on a new row: no numbered column of the row holds the greatest
word, which no number follows. -/
def CountsOn (table : Table) (values : List (ColumnRef × Value)) : Prop :=
  ∀ supplied, table.schema.checkValues values = .ok supplied →
    ∀ field ∈ table.schema.columns.zip (table.drafted supplied).1,
      field.1.isAutoIncrement = true → field.2 ≠ .int Int64.maxValue

/-- Whether a counter overflows on a row can be decided by drafting the row. -/
instance decidableCountsOn (table : Table) (values : List (ColumnRef × Value)) :
    Decidable (table.CountsOn values) :=
  inferInstanceAs (Decidable (∀ _, _ → _))

/-- A word below the greatest is less than the next one. -/
theorem lt_add_one_of_ne_maxValue {id : Int64} (h : id ≠ Int64.maxValue) : id < id + 1 := by
  have hle := Int64.toInt_le id
  have hne : id.toInt ≠ Int64.maxValue.toInt := fun heq => h (Int64.toInt_inj.mp heq)
  have hmax : Int64.maxValue.toInt = 2 ^ 63 - 1 := by decide
  have hmin := Int64.le_toInt id
  rw [Int64.lt_iff_toInt_lt, Int64.toInt_add, show (1 : Int64).toInt = 1 from by decide,
    Int.bmod_eq_of_le (by omega) (by omega)]
  omega

/-- The number to follow a given number is not below the counter. -/
theorem le_idAfter (nextId : Int64) (value : Value) : nextId ≤ idAfter nextId value := by
  cases value with
  | int id =>
    change nextId ≤ if nextId ≤ id + 1 then id + 1 else nextId
    split
    · assumption
    · exact Int64.le_refl nextId
  | _ => exact Int64.le_refl nextId

/-- The number to follow a given number is greater than that, if there is one. -/
theorem lt_idAfter (nextId : Int64) {id : Int64} (h : id ≠ Int64.maxValue) :
    id < idAfter nextId (.int id) := by
  have hid := lt_add_one_of_ne_maxValue h
  change id < if nextId ≤ id + 1 then id + 1 else nextId
  split
  · exact hid
  · rename_i hle
    exact Int64.lt_trans hid (Int64.not_le.mp hle)

/-- The counter does not move for a number below it. -/
theorem idAfter_of_lt {nextId id : Int64} (h : id < nextId) :
    idAfter nextId (.int id) = nextId := by
  have hlt := Int64.lt_iff_toInt_lt.mp h
  have hmax := Int64.toInt_le nextId
  have hbound : Int64.maxValue.toInt = 2 ^ 63 - 1 := by decide
  have hmin := Int64.le_toInt id
  have hle : id + 1 ≤ nextId := by
    rw [Int64.le_iff_toInt_le, Int64.toInt_add, show (1 : Int64).toInt = 1 from by decide,
      Int.bmod_eq_of_le (by omega) (by omega)]
    omega
  change (if nextId ≤ id + 1 then id + 1 else nextId) = nextId
  split
  · rename_i hge
    exact Int64.le_antisymm hle hge
  · rfl

/-- Filling a column never moves the counter down. -/
theorem le_fillColumn (supplied : List (Column × Value)) (nextId : Int64) (column : Column)
    (h : column.isAutoIncrement = true →
      (fillColumn supplied nextId column).1 ≠ .int Int64.maxValue) :
    nextId ≤ (fillColumn supplied nextId column).2 := by
  cases hsupplied : suppliedFor supplied column with
  | some value =>
    simp only [fillColumn, hsupplied]
    split
    · exact le_idAfter nextId value
    · exact Int64.le_refl nextId
  | none =>
    simp only [fillColumn, hsupplied] at h ⊢
    split
    · rename_i hauto
      have hne : nextId ≠ Int64.maxValue := fun heq => h hauto (by rw [if_pos hauto, heq])
      exact Int64.le_of_lt (lt_add_one_of_ne_maxValue hne)
    · exact Int64.le_refl nextId

/-- Filling a row never moves the counter down. -/
theorem le_fillRow (supplied : List (Column × Value)) (nextId : Int64) (columns : List Column)
    (h : ∀ field ∈ columns.zip (fillRow supplied nextId columns).1,
      field.1.isAutoIncrement = true → field.2 ≠ .int Int64.maxValue) :
    nextId ≤ (fillRow supplied nextId columns).2 := by
  induction columns generalizing nextId with
  | nil => exact Int64.le_refl nextId
  | cons column rest ih =>
    simp only [fillRow, List.zip_cons_cons, List.forall_mem_cons] at h ⊢
    exact Int64.le_trans (le_fillColumn supplied nextId column h.1) (ih _ h.2)

/-- An insertion never moves the counter down, whether or not it succeeds. -/
theorem le_insert (h : table.CountsOn values) : table.nextId ≤ (table.insert values).2.nextId := by
  rcases insert_cases table values with
    ⟨_, _, hcase⟩ | ⟨supplied, hsupplied, ⟨_, _, hcase⟩ | ⟨_, hcase⟩⟩ <;> rw [hcase]
  · exact Int64.le_refl table.nextId
  · exact le_fillRow supplied table.nextId table.schema.columns (h supplied hsupplied)
  · exact le_fillRow supplied table.nextId table.schema.columns (h supplied hsupplied)

/-! ### Update -/

/-- A successful update overwrites one row and keeps all else. -/
theorem update_eq_ok {position : Nat} {old : Row}
    (h : table.update position values = .ok (old, after)) :
    table.rows[position]? = some old ∧
      ∃ supplied, table.schema.checkValues values = .ok supplied ∧
        table.schema.checkNulls (overwrite old supplied) = .ok () ∧
        after = { table with rows := table.rows.set position (overwrite old supplied) } := by
  unfold update at h
  cases hrow : table.rows[position]? with
  | none => simp [hrow] at h
  | some row =>
    simp only [hrow] at h
    cases hsupplied : table.schema.checkValues values with
    | error error => simp [hsupplied, bind, Except.bind] at h
    | ok supplied =>
      cases hnulls : table.schema.checkNulls (overwrite row supplied) with
      | error error => simp [hsupplied, hnulls, bind, Except.bind] at h
      | ok _ =>
        simp only [hsupplied, hnulls, bind, Except.bind, pure, Except.pure, Except.ok.injEq,
          Prod.mk.injEq] at h
        obtain ⟨rfl, rfl⟩ := h
        exact ⟨rfl, supplied, rfl, hnulls, rfl⟩

/-- A successful update keeps the schema. -/
theorem update_schema {position : Nat} {old : Row}
    (h : table.update position values = .ok (old, after)) : after.schema = table.schema := by
  obtain ⟨-, -, -, -, rfl⟩ := update_eq_ok h
  rfl

/-! ### Removal -/

/-- The positions at which a table has rows with the given keys, from the last to the first. -/
def positionsOf (table : Table) (keys : List RowKey) : List Nat :=
  (keys.filterMap table.find?).mergeSort.reverse

/-- Removing rows keeps schema and counter and leaves a part of the rows, and the changes that it
adds to the list undo it. -/
theorem removeRows_eq (table : Table) (changes : List RowChange) (positions : List Nat) :
    ∃ rows added, Transaction.removeRows table changes positions =
        ({ table with rows := rows }, added ++ changes) ∧
      rows.Sublist table.rows ∧ added.foldl RowChange.undo rows = table.rows := by
  induction positions generalizing table changes with
  | nil => exact ⟨table.rows, [], rfl, List.Sublist.refl _, rfl⟩
  | cons position rest ih =>
    cases hrow : table.rows[position]? with
    | none =>
      simp only [Transaction.removeRows, remove?, hrow, Option.map_none]
      exact ih table changes
    | some row =>
      simp only [Transaction.removeRows, remove?, hrow, Option.map_some]
      obtain ⟨rows, added, heq, hsublist, hundo⟩ :=
        ih { table with rows := table.rows.eraseIdx position } (.removed position row :: changes)
      refine ⟨rows, added ++ [.removed position row], ?_, ?_, ?_⟩
      · rw [heq, List.append_assoc, List.singleton_append]
      · exact hsublist.trans (List.eraseIdx_sublist _ _)
      · obtain ⟨hposition, hget⟩ := List.getElem?_eq_some_iff.mp hrow
        rw [List.foldl_append, hundo, List.foldl_cons, List.foldl_nil, RowChange.undo, ← hget]
        exact List.insertIdx_eraseIdx_getElem hposition

end Table

end Tabula
