import Mathlib.Data.List.GetD
import Mathlib.Data.List.Induction
import Tabula.Proofs.Outcome
import Tabula.Proofs.Schema.Lawful
import Tabula.Proofs.Table.Changes

/-!
# The rows that statements make

A statement names columns and gives values. Checked values have the types of their columns. A new
row takes the given values and fills all other columns; an updated row has the given values and
keeps all others. In a lawful schema the value of a column stands at the position of the column.
-/

namespace Tabula

/-- The value of a column in a row. -/
def Row.at (row : Row) (column : Column) : Value := row.getD column.index .null

namespace TableSchema

variable {schema : TableSchema}

/-- Checking a value finds its column and makes sure of the type. -/
theorem checkValue_eq_ok_iff {target : ColumnRef} {value : Value} {change : Column × Value} :
    schema.checkValue target value = .ok change ↔
      schema.column? target.name = some change.1 ∧ change.2 = value ∧
        (value.isNull = true ∨ value.hasType change.1.type = true) := by
  unfold checkValue expectColumn
  cases hcolumn : schema.column? target.name with
  | none => simp [Except.mapError, bind, Except.bind]
  | some column =>
    obtain ⟨found, given⟩ := change
    simp only [Except.mapError, bind, Except.bind, Bool.or_eq_true, pure, Except.pure]
    split
    · rename_i htype
      simp only [Except.ok.injEq, Prod.mk.injEq, Option.some.injEq]
      exact ⟨fun h => ⟨h.1, h.2.symm, h.1 ▸ htype⟩, fun h => ⟨h.1, h.2.1.symm⟩⟩
    · rename_i htype
      simp only [throw, throwThe, MonadExceptOf.throw, reduceCtorEq, Option.some.injEq, false_iff]
      rintro ⟨rfl, -, h⟩
      exact htype h

/-- Checking values finds their columns, in their order, and makes sure of the types. -/
theorem checkValues_eq_ok_iff {values : List (ColumnRef × Value)}
    {supplied : List (Column × Value)} :
    schema.checkValues values = .ok supplied ↔
      List.Forall₂ (fun given change => schema.column? given.1.name = some change.1 ∧
        change.2 = given.2 ∧ (given.2.isNull = true ∨ given.2.hasType change.1.type = true))
        values supplied := by
  rw [checkValues, mapM_eq_ok_iff]
  simp only [checkValue_eq_ok_iff]

/-- A checked value has a column of the schema and is null or of the type of that. -/
theorem of_mem_checkValues {values : List (ColumnRef × Value)} {supplied : List (Column × Value)}
    (h : schema.checkValues values = .ok supplied) {change : Column × Value}
    (hchange : change ∈ supplied) :
    change.1 ∈ schema.columns ∧
      (change.2.isNull = true ∨ change.2.hasType change.1.type = true) ∧
      ∃ given ∈ values, schema.column? given.1.name = some change.1 ∧ given.2 = change.2 := by
  obtain ⟨i, hi, rfl⟩ := List.mem_iff_getElem.mp hchange
  have hall := checkValues_eq_ok_iff.mp h
  have hi' : i < values.length := hall.length_eq ▸ hi
  obtain ⟨hcolumn, hvalue, htype⟩ := hall.get hi' hi
  refine ⟨List.mem_of_find?_eq_some hcolumn, ?_, values[i], List.getElem_mem hi', hcolumn,
    hvalue.symm⟩
  simp only [List.get_eq_getElem] at hvalue htype
  rw [hvalue]
  exact htype

/-- Checking nulls succeeds if null stands only where it is allowed. -/
theorem checkNulls_eq_ok_iff {row : Row} :
    schema.checkNulls row = .ok () ↔
      ∀ column ∈ schema.columns, (row.at column).isNull = true → allowsNull column = true := by
  unfold checkNulls
  split
  · rename_i column hfind
    refine iff_of_false (by simp) fun h => ?_
    have hcolumn := List.find?_some hfind
    simp only [Bool.and_eq_true, Bool.not_eq_true'] at hcolumn
    have hallowed := h column (List.mem_of_find?_eq_some hfind) hcolumn.1
    rw [hcolumn.2] at hallowed
    exact absurd hallowed (by decide)
  · rename_i hfind
    refine iff_of_true rfl fun column hcolumn hnull => ?_
    have hpass := List.find?_eq_none.mp hfind column hcolumn
    simp only [Bool.and_eq_true, Bool.not_eq_true', not_and, Bool.not_eq_false] at hpass
    exact hpass hnull

end TableSchema

/-! ### Given values -/

/-- The value given to a column is one of the given values, for a column of that position. -/
theorem exists_of_suppliedFor {supplied : List (Column × Value)} {column : Column} {value : Value}
    (h : suppliedFor supplied column = some value) :
    ∃ change ∈ supplied, change.1.index = column.index ∧ change.2 = value := by
  obtain ⟨change, hfind, rfl⟩ := Option.map_eq_some_iff.mp h
  have hindex := List.find?_some hfind
  exact ⟨change, List.mem_reverse.mp (List.mem_of_find?_eq_some hfind), eq_of_beq hindex, rfl⟩

namespace Table

/-! ### New rows -/

/-- A new row has one value for each column. -/
theorem length_fillRow (supplied : List (Column × Value)) (nextId : Int64)
    (columns : List Column) : (fillRow supplied nextId columns).1.length = columns.length := by
  induction columns generalizing nextId with
  | nil => rfl
  | cons column rest ih => rw [fillRow, List.length_cons, List.length_cons, ih]

/-- What holds of every column however it is filled holds along a new row. -/
theorem forall₂_fillRow {P : Column → Value → Prop} {supplied : List (Column × Value)}
    {columns : List Column}
    (h : ∀ column ∈ columns, ∀ nextId, P column (fillColumn supplied nextId column).1)
    (nextId : Int64) : List.Forall₂ P columns (fillRow supplied nextId columns).1 := by
  induction columns generalizing nextId with
  | nil => exact List.Forall₂.nil
  | cons column rest ih =>
    exact List.Forall₂.cons (h column List.mem_cons_self nextId)
      (ih (fun other hother => h other (List.mem_cons_of_mem column hother)) _)

/-- What holds along a row holds of the value of each column. -/
theorem at_of_forall₂ {schema : TableSchema} (hlawful : schema.Lawful)
    {P : Column → Value → Prop} {row : Row} (h : List.Forall₂ P schema.columns row)
    {column : Column} (hcolumn : column ∈ schema.columns) : P column (row.at column) := by
  have hlt := hlawful.index_lt hcolumn
  have hlt' : column.index < row.length := h.length_eq ▸ hlt
  have hpair := h.get hlt hlt'
  have hget := hlawful.getElem?_index hcolumn
  rw [List.getElem?_eq_getElem hlt, Option.some.injEq] at hget
  simp only [List.get_eq_getElem, hget] at hpair
  rwa [Row.at, List.getD_eq_getElem row .null hlt']

/-- The number in a numbered column of a new row is below the counter after it. -/
theorem lt_fillRow (supplied : List (Column × Value)) (nextId : Int64) (columns : List Column)
    (hcounts : ∀ field ∈ columns.zip (fillRow supplied nextId columns).1,
      field.1.isAutoIncrement = true → field.2 ≠ .int Int64.maxValue) :
    ∀ field ∈ columns.zip (fillRow supplied nextId columns).1,
      field.1.isAutoIncrement = true → ∀ id, field.2 = .int id →
        id < (fillRow supplied nextId columns).2 := by
  induction columns generalizing nextId with
  | nil => simp [fillRow]
  | cons column rest ih =>
    simp only [fillRow, List.zip_cons_cons, List.forall_mem_cons] at hcounts ⊢
    refine ⟨fun hauto id hid => ?_, ih _ hcounts.2⟩
    have hmax : id ≠ Int64.maxValue := fun heq => hcounts.1 hauto (heq ▸ hid)
    have hnext : id < (fillColumn supplied nextId column).2 := by
      cases hsupplied : suppliedFor supplied column with
      | some value =>
        simp only [fillColumn, hsupplied, hauto, if_true] at hid ⊢
        rw [hid]
        exact lt_idAfter nextId hmax
      | none =>
        simp only [fillColumn, hsupplied, hauto, if_true, Value.int.injEq] at hid ⊢
        rw [hid]
        exact lt_add_one_of_ne_maxValue hmax
    have hrest := le_fillRow supplied (fillColumn supplied nextId column).2 rest hcounts.2
    exact Int64.lt_of_lt_of_le hnext hrest

/-! ### Updated rows -/

/-- Overwriting keeps the number of values. -/
theorem length_overwrite (row : Row) (supplied : List (Column × Value)) :
    (overwrite row supplied).length = row.length := by
  induction supplied generalizing row with
  | nil => rfl
  | cons change rest ih =>
    rw [overwrite, List.foldl_cons]
    exact (ih (row.set change.1.index change.2)).trans List.length_set

/-- Each value of an overwritten row is the old one or one that is given to its position. -/
theorem at_overwrite (row : Row) (supplied : List (Column × Value)) (column : Column) :
    (overwrite row supplied).at column = row.at column ∨
      ∃ change ∈ supplied, change.1.index = column.index ∧
        (overwrite row supplied).at column = change.2 := by
  induction supplied generalizing row with
  | nil => exact Or.inl rfl
  | cons change rest ih =>
    rw [overwrite, List.foldl_cons]
    rcases ih (row.set change.1.index change.2) with hold | ⟨later, hlater, hindex, hvalue⟩
    · by_cases hindex : change.1.index = column.index ∧ column.index < row.length
      · refine Or.inr ⟨change, List.mem_cons_self, hindex.1, hold.trans ?_⟩
        rw [Row.at, hindex.1, List.getD_eq_getElem _ _ (by simpa using hindex.2),
          List.getElem_set_self]
      · refine Or.inl (hold.trans ?_)
        simp only [Row.at, List.getD_eq_getElem?_getD, List.getElem?_set]
        split
        · rename_i heq
          have hlt : ¬ column.index < row.length := fun hlt => hindex ⟨heq, hlt⟩
          simp [heq, hlt]
        · rfl
    · exact Or.inr ⟨later, List.mem_cons_of_mem change hlater, hindex, hvalue⟩

/-- A column of an overwritten row has the value that is supplied to it, if there is one, and else
the old one. -/
theorem at_overwrite_eq {row : Row} (supplied : List (Column × Value)) {column : Column}
    (h : column.index < row.length) :
    (overwrite row supplied).at column = (suppliedFor supplied column).getD (row.at column) := by
  -- from the back, since of several values for one column the last counts
  induction supplied using List.reverseRecOn with
  | nil => rfl
  | append_singleton earlier change ih =>
    have hset : overwrite row (earlier ++ [change]) =
        (overwrite row earlier).set change.1.index change.2 := List.foldl_append
    rw [hset, suppliedFor, List.reverse_append, List.reverse_singleton, List.singleton_append,
      List.find?_cons, Row.at, List.getD_eq_getElem?_getD, List.getElem?_set]
    by_cases hindex : change.1.index = column.index
    · simp [hindex, h, length_overwrite]
    · rw [if_neg hindex, ← List.getD_eq_getElem?_getD, beq_false_of_ne hindex]
      exact ih

/-- A column to which nothing is given keeps its value. -/
theorem at_overwrite_of_forall_ne {row : Row} {supplied : List (Column × Value)} {column : Column}
    (h : ∀ change ∈ supplied, change.1.index ≠ column.index) :
    (overwrite row supplied).at column = row.at column := by
  rcases at_overwrite row supplied column with hold | ⟨change, hchange, hindex, -⟩
  · exact hold
  · exact absurd hindex (h change hchange)

end Table

end Tabula
