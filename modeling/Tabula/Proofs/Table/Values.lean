import Tabula.Proofs.Table.Rows

/-!
# What holds of all values in a table

A property of the values of columns holds of all values in a table if it holds of all that is ever
put into a row: of the values that statements give, of numbers and defaults, and of null. Insertions
and updates of such values keep it, and so does the removal of rows.
-/

namespace Tabula

variable {P : ColumnSpec → Value → Prop}

/-- Each value that is given to a column of the schema has the property. -/
def TableSchema.GivesOnly (schema : TableSchema) (P : ColumnSpec → Value → Prop)
    (values : List (ColumnRef × Value)) : Prop :=
  ∀ given ∈ values, ∀ column, schema.column? given.1.name = some column →
    P column.toColumnSpec given.2

/-- What a column is filled with when no value is given has the property: a number, the default or
null. -/
structure ColumnSpec.FillsOnly (spec : ColumnSpec) (P : ColumnSpec → Value → Prop) : Prop where
  number : ∀ number, P spec (.int number)
  default : ∀ value, spec.default = some value → P spec value
  null : P spec .null

/-- A table holds only values with the property: its schema is lawful, and what its columns are
filled with and the values of all rows have the property. -/
structure Table.HoldsOnly (table : Table) (P : ColumnSpec → Value → Prop) : Prop where
  lawful : table.schema.Lawful
  fills : ∀ column ∈ table.schema.columns, column.FillsOnly P
  rows : ∀ row ∈ table.rows, ∀ column ∈ table.schema.columns,
    P column.toColumnSpec (row.at column)

namespace Table

variable {table after : Table} {values : List (ColumnRef × Value)}
  {supplied : List (Column × Value)}

/-- A supplied value has the property for the column that it is supplied to. -/
theorem property_of_supplied (hlawful : table.schema.Lawful)
    (hvalues : table.schema.GivesOnly P values)
    (hsupplied : table.schema.checkValues values = .ok supplied) {change : Column × Value}
    (hchange : change ∈ supplied) {column : Column} (hcolumn : column ∈ table.schema.columns)
    (hindex : change.1.index = column.index) : P column.toColumnSpec change.2 := by
  obtain ⟨hmem, -, given, hgiven, hfound, hvalue⟩ :=
    TableSchema.of_mem_checkValues hsupplied hchange
  rw [← hlawful.eq_of_index hmem hcolumn hindex, ← hvalue]
  exact hvalues given hgiven change.1 hfound

/-- However a column is filled, the value has the property. -/
theorem HoldsOnly.fillColumn (h : table.HoldsOnly P) (hvalues : table.schema.GivesOnly P values)
    (hsupplied : table.schema.checkValues values = .ok supplied) {column : Column}
    (hcolumn : column ∈ table.schema.columns) (nextId : Int64) :
    P column.toColumnSpec (fillColumn supplied nextId column).1 := by
  obtain ⟨hnumber, hdefault, hnull⟩ := h.fills column hcolumn
  cases hgiven : suppliedFor supplied column with
  | some value =>
    obtain ⟨change, hchange, hindex, rfl⟩ := exists_of_suppliedFor hgiven
    simp only [Table.fillColumn, hgiven]
    exact property_of_supplied h.lawful hvalues hsupplied hchange hcolumn hindex
  | none =>
    simp only [Table.fillColumn, hgiven]
    split
    · exact hnumber nextId
    · cases hvalue : column.default with
      | none => exact hnull
      | some value => exact hdefault value hvalue

/-- Inserting values with the property keeps it, whether or not that succeeds. -/
theorem HoldsOnly.insert (h : table.HoldsOnly P) (hvalues : table.schema.GivesOnly P values) :
    (table.insert values).2.HoldsOnly P := by
  rcases insert_cases table values with
    ⟨_, _, hcase⟩ | ⟨supplied, hsupplied, ⟨_, _, hcase⟩ | ⟨_, hcase⟩⟩ <;> rw [hcase]
  · exact h
  · exact ⟨h.lawful, h.fills, h.rows⟩
  · refine ⟨h.lawful, h.fills, fun row hrow => ?_⟩
    rcases List.mem_append.mp hrow with hold | hnew
    · exact h.rows row hold
    · intro column hcolumn
      have hall : List.Forall₂ (fun column value => P (Column.toColumnSpec column) value)
          table.schema.columns (table.drafted supplied).1 :=
        forall₂_fillRow (fun other hother nextId =>
          h.fillColumn hvalues hsupplied hother nextId) table.nextId
      rw [List.mem_singleton.mp hnew]
      exact at_of_forall₂ h.lawful hall hcolumn

/-- Updating with values with the property keeps it. -/
theorem HoldsOnly.update (h : table.HoldsOnly P) (hvalues : table.schema.GivesOnly P values)
    {position : Nat} {old : Row} (hupdate : table.update position values = .ok (old, after)) :
    after.HoldsOnly P := by
  obtain ⟨hold, supplied, hsupplied, -, rfl⟩ := update_eq_ok hupdate
  refine ⟨h.lawful, h.fills, fun row hrow column hcolumn => ?_⟩
  rcases List.mem_or_eq_of_mem_set hrow with hmem | rfl
  · exact h.rows row hmem column hcolumn
  · rcases at_overwrite old supplied column with hsame | ⟨change, hchange, hindex, hvalue⟩
    · rw [hsame]
      exact h.rows old (List.mem_of_getElem? hold) column hcolumn
    · rw [hvalue]
      exact property_of_supplied h.lawful hvalues hsupplied hchange hcolumn hindex

/-- Taking rows out keeps the property. -/
theorem HoldsOnly.sublist (h : table.HoldsOnly P) {rows : List Row}
    (hrows : rows.Sublist table.rows) : HoldsOnly { table with rows := rows } P where
  lawful := h.lawful
  fills := h.fills
  rows row hrow := h.rows row (hrows.subset hrow)

end Table

end Tabula
