import Tabula.Proofs.Select.Plans

/-!
# Looking up columns

A joined row has an entry for each table of the query. When no two of the tables have the same
names, a look-up finds the entry of the table to which the column belongs. It finds a value there
if the reference is to a column of the table and the row has a value for each column.
-/

namespace Tabula

/-! ### The rows of one table -/

/-- A query reads the rows of the table that the engine has under the names of the schema. -/
theorem SelectPlan.rowsNow_of_table {engine : Engine} {schema : TableSchema} {table : Table}
    (h : engine.table schema.database schema.name = .ok table) :
    rowsNow engine schema = .ok table.rows :=
  bind_eq_ok_iff.mpr ⟨table, mapError_eq_ok_iff.mpr h, rfl⟩

/-- A row of a table by itself, seen by the columns of the table. -/
def TableSchema.view (schema : TableSchema) (row : Row) : RowView :=
  JoinedRow.value? [(SelectPlan.nameOf schema, row)]

/-- A row has in each column of its table what stands at the position of the column. -/
theorem TableSchema.view_of (schema : TableSchema) (row : Row) (column : Column) :
    schema.view row (.of schema column) = row[column.index]? := by
  simp [view, JoinedRow.value?, SelectPlan.nameOf, ColumnRef.of]

/-- Whether a filter selects a row of a table. Without a filter every row is selected. -/
def TableSchema.selects (schema : TableSchema) (filter : Option Predicate) (row : Row) : Bool :=
  filter.all (·.eval (schema.view row))

/-- A row that has a value for each column of its table has one where a reference points. -/
theorem ColumnRef.RefersTo.exists_value {ref : ColumnRef} {schema : TableSchema}
    (h : ref.RefersTo schema) {row : Row} (hrow : row.length = schema.columns.length) :
    ∃ value, row[ref.index]? = some value := by
  obtain ⟨column, hcolumn, -⟩ := h
  have hindex := (List.getElem?_eq_some_iff.mp hcolumn).1
  exact ⟨row[ref.index], List.getElem?_eq_getElem (hrow ▸ hindex)⟩

/-- A row of a table has at a reference what stands at its position. -/
theorem ColumnRef.RefersTo.view_eq {ref : ColumnRef} {schema : TableSchema}
    (h : ref.RefersTo schema) (row : Row) : schema.view row ref = row[ref.index]? := by
  obtain ⟨column, -, rfl⟩ := h
  exact schema.view_of row column

/-! ### Joined rows -/

namespace JoinedRow

variable {joined before after : JoinedRow} {column : ColumnRef} {value : Value}

/-- When the names of the entries differ, a value is found in the entry of the table. -/
theorem value?_eq_some_iff (h : (joined.map (·.1)).Nodup) :
    joined.value? column = some value ↔
      ∃ row, ((column.database, column.table), row) ∈ joined ∧
        row[column.index]? = some value := by
  induction joined with
  | nil => simp [value?]
  | cons entry rest ih =>
    obtain ⟨hnew, hrest⟩ := List.nodup_cons.mp h
    by_cases hname : entry.1 = (column.database, column.table)
    · have hvalue : value? (entry :: rest) column = entry.2[column.index]? := by
        simp [value?, hname]
      rw [hvalue]
      constructor
      · exact fun hfound => ⟨entry.2, by simp [← hname], hfound⟩
      · rintro ⟨row, hrow, hfound⟩
        rcases List.mem_cons.mp hrow with rfl | hrow
        · exact hfound
        · exact absurd (List.mem_map.mpr ⟨_, hrow, hname.symm⟩) hnew
    · have hvalue : value? (entry :: rest) column = value? rest column := by
        simp [value?, hname]
      rw [hvalue, ih hrest]
      refine exists_congr fun row => and_congr_left fun _ => ?_
      rw [List.mem_cons, or_iff_right fun heq => hname (by rw [← heq])]

/-- A column of an earlier table is found there. -/
theorem value?_append_left (h : (column.database, column.table) ∈ before.map (·.1)) :
    value? (before ++ after) column = before.value? column := by
  obtain ⟨entry, hentry, hname⟩ := List.mem_map.mp h
  have hfound : (before.find? (·.1 == (column.database, column.table))).isSome :=
    List.find?_isSome.mpr ⟨entry, hentry, by simp [hname]⟩
  rw [value?, value?, List.find?_append, Option.or_of_isSome hfound]

/-- A column of a table that is not among the earlier ones is found later. -/
theorem value?_append_right (h : (column.database, column.table) ∉ before.map (·.1)) :
    value? (before ++ after) column = after.value? column := by
  have hnone : before.find? (·.1 == (column.database, column.table)) = none :=
    List.find?_eq_none.mpr fun entry hentry hname =>
      h (eq_of_beq hname ▸ List.mem_map_of_mem hentry)
  rw [value?, value?, List.find?_append, hnone, Option.none_or]

end JoinedRow

end Tabula
