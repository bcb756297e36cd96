import Mathlib.Data.List.Basic
import Tabula.Proofs.Json.Fields
import Tabula.Proofs.Write.Compile

/-!
# The rows of inserted records

The new row of a record has the values that were kept for it. In the other columns it has the next
number, if the column is numbered, else the default of the column, else null. A record takes one
number if there is a numbered column, and none otherwise.
-/

namespace Tabula

namespace TableSchema

/-- The new row of a record, given its number and the values that were kept for it. -/
def rowOf (schema : TableSchema) (number : Int64) (values : List (ColumnRef × Value)) : Row :=
  schema.columns.map fun column =>
    (values.lookup (.of schema column)).getD
      (if column.isAutoIncrement then .int number else column.default.getD .null)

/-- The new rows of records that are numbered one after the other. -/
def rowsOf (schema : TableSchema) (number : Int64) (kept : List (List (ColumnRef × Value))) :
    List Row :=
  kept.mapIdx fun i values => schema.rowOf (number + Int64.ofNat i) values

/-- The number of the record after one with the given number. -/
def numberAfter (schema : TableSchema) (number : Int64) : Int64 :=
  if schema.columns.any (·.isAutoIncrement) then number + 1 else number

variable {schema : TableSchema} {values : List (ColumnRef × Value)}
  {supplied : List (Column × Value)}

/-- Without a numbered column the number of a record does not matter. -/
theorem rowOf_eq_of_any_eq_false (h : schema.columns.any (·.isAutoIncrement) = false)
    (number other : Int64) : schema.rowOf number values = schema.rowOf other values := by
  refine List.map_congr_left fun column hcolumn => ?_
  have hauto := List.any_eq_false.mp h column hcolumn
  rw [if_neg hauto, if_neg hauto]

/-- The first row has the given number, the others follow. -/
theorem rowsOf_cons (number : Int64) (kept : List (List (ColumnRef × Value))) :
    schema.rowsOf number (values :: kept) =
      schema.rowOf number values :: schema.rowsOf (schema.numberAfter number) kept := by
  rw [rowsOf, List.mapIdx_cons, show number + Int64.ofNat 0 = number from Int64.add_zero number]
  refine congrArg _ (congrArg (List.mapIdx · kept) (funext₂ fun i rest => ?_))
  cases hany : schema.columns.any (·.isAutoIncrement) with
  | false => exact rowOf_eq_of_any_eq_false hany _ _
  | true =>
    have hnumber : number + Int64.ofNat (i + 1) = number + 1 + Int64.ofNat i := by
      rw [Int64.add_assoc, Int64.add_comm 1, Int64.ofNat_add]
      rfl
    rw [numberAfter, if_pos hany, hnumber]

end TableSchema

/-! ### Kept values -/

/-- The kept values are for different columns. -/
theorem RecordRules.nodup_of_validate {schema : TableSchema} (hlawful : schema.Lawful)
    {number : Nat} {item : WriteItem} {values : List (ColumnRef × Value)}
    (h : (RecordRules.of schema).validate number item = .ok values) :
    (values.map (·.1)).Nodup := by
  refine (RecordRules.sublist_of_validate h).nodup ?_
  rw [RecordRules.map_column_of]
  refine List.Nodup.of_map ColumnRef.name ?_
  rw [List.map_map]
  exact hlawful.names.sublist (List.filter_sublist.map fun column : Column => column.name)

namespace TableSchema

variable {schema : TableSchema} {values : List (ColumnRef × Value)}
  {supplied : List (Column × Value)} {number : Nat} {item : WriteItem}

/-- Checking kept values leaves them to their columns. -/
theorem mem_checkValues_iff_of_validate (hlawful : schema.Lawful)
    (hvalid : (RecordRules.of schema).validate number item = .ok values)
    (hsupplied : schema.checkValues values = .ok supplied) {column : Column}
    (hcolumn : column ∈ schema.columns) {value : Value} :
    (column, value) ∈ supplied ↔ (ColumnRef.of schema column, value) ∈ values := by
  have hall := checkValues_eq_ok_iff.mp hsupplied
  constructor
  · intro hmem
    obtain ⟨-, -, given, hgiven, hfound, rfl⟩ := of_mem_checkValues hsupplied hmem
    obtain ⟨own, hown, -, href⟩ := RecordRules.exists_column_of_validate hvalid hgiven
    rw [href, ColumnRef.of, hlawful.column?_name hown, Option.some.injEq] at hfound
    rw [show column = own from hfound.symm, ← href]
    exact hgiven
  · intro hmem
    obtain ⟨i, hi, hget⟩ := List.mem_iff_getElem.mp hmem
    have hi' : i < supplied.length := hall.length_eq ▸ hi
    obtain ⟨hfound, hvalue, -⟩ := hall.get hi hi'
    simp only [List.get_eq_getElem, hget, ColumnRef.of, hlawful.column?_name hcolumn,
      Option.some.injEq] at hfound hvalue
    rw [hfound, ← hvalue]
    exact List.getElem_mem hi'

/-- The value supplied to a column is the one that was kept for it. -/
theorem suppliedFor_eq_lookup (hlawful : schema.Lawful)
    (hvalid : (RecordRules.of schema).validate number item = .ok values)
    (hsupplied : schema.checkValues values = .ok supplied) {column : Column}
    (hcolumn : column ∈ schema.columns) :
    suppliedFor supplied column = values.lookup (.of schema column) := by
  have hnodup := RecordRules.nodup_of_validate hlawful hvalid
  have hmem {value : Value} (h : suppliedFor supplied column = some value) :
      (ColumnRef.of schema column, value) ∈ values := by
    obtain ⟨change, hchange, hindex, rfl⟩ := exists_of_suppliedFor h
    obtain ⟨hown, -⟩ := of_mem_checkValues hsupplied hchange
    have heq := hlawful.eq_of_index hown hcolumn hindex
    subst heq
    exact (mem_checkValues_iff_of_validate hlawful hvalid hsupplied hcolumn).mp hchange
  cases hfound : suppliedFor supplied column with
  | some value => exact ((lookup_eq_some_iff_mem hnodup).mpr (hmem hfound)).symm
  | none =>
    cases hlookup : values.lookup (.of schema column) with
    | none => rfl
    | some value =>
      have hkept := (lookup_eq_some_iff_mem hnodup).mp hlookup
      have hchange :=
        (mem_checkValues_iff_of_validate hlawful hvalid hsupplied hcolumn).mpr hkept
      rw [suppliedFor, Option.map_eq_none_iff, List.find?_eq_none] at hfound
      exact absurd (beq_self_eq_true column.index)
        (hfound (column, value) (List.mem_reverse.mpr hchange))

end TableSchema

/-! ### New rows -/

namespace Table

variable {table : Table} {values : List (ColumnRef × Value)} {supplied : List (Column × Value)}

/-- A column that is not numbered is filled with what is supplied, or with its default. -/
theorem fillColumn_of_not_numbered (number : Int64) {column : Column}
    (h : column.isAutoIncrement = false) :
    fillColumn supplied number column =
      ((suppliedFor supplied column).getD (column.default.getD .null), number) := by
  unfold fillColumn
  cases suppliedFor supplied column <;> simp [h]

/-- Where no column is numbered, what is not supplied is filled with defaults and takes no
number. -/
theorem fillRow_of_forall_not_numbered (number : Int64) {columns : List Column}
    (h : ∀ column ∈ columns, column.isAutoIncrement = false) :
    fillRow supplied number columns =
      (columns.map fun column =>
        (suppliedFor supplied column).getD (column.default.getD .null), number) := by
  induction columns with
  | nil => rfl
  | cons column rest ih =>
    obtain ⟨hauto, hrest⟩ := List.forall_mem_cons.mp h
    simp only [fillRow, fillColumn_of_not_numbered number hauto, ih hrest, List.map_cons]

/-- Where at most one column is numbered, that column takes the next number unless a value is
supplied, and what else is not supplied is filled with defaults. -/
theorem fst_fillRow (number : Int64) {columns : List Column}
    (hone : (columns.filter (·.isAutoIncrement)).length ≤ 1) :
    (fillRow supplied number columns).1 = columns.map fun column =>
      (suppliedFor supplied column).getD
        (if column.isAutoIncrement then .int number else column.default.getD .null) := by
  induction columns with
  | nil => rfl
  | cons column rest ih =>
    cases hauto : column.isAutoIncrement with
    | false =>
      simp only [List.filter_cons, hauto, Bool.false_eq_true, if_false] at hone
      simp only [fillRow, fillColumn_of_not_numbered number hauto, ih hone, List.map_cons, hauto,
        Bool.false_eq_true, if_false]
    | true =>
      simp only [List.filter_cons, hauto, if_true, List.length_cons, Nat.succ_le_succ_iff,
        Nat.le_zero, List.length_eq_zero_iff, List.filter_eq_nil_iff] at hone
      have hnone : ∀ other ∈ rest, other.isAutoIncrement = false := by simpa using hone
      have hfirst : (fillColumn supplied number column).1 =
          (suppliedFor supplied column).getD (.int number) := by
        unfold fillColumn
        cases suppliedFor supplied column <;> simp [hauto]
      simp only [fillRow, hfirst, fillRow_of_forall_not_numbered _ hnone, List.map_cons, hauto,
        if_true]
      refine congrArg _ (List.map_congr_left fun other hother => ?_)
      rw [hnone other hother, if_neg Bool.false_ne_true]

/-- Where at most one column is numbered and nothing is supplied to it, a new row takes one number
if there is such a column. -/
theorem snd_fillRow (number : Int64) {columns : List Column}
    (hone : (columns.filter (·.isAutoIncrement)).length ≤ 1)
    (hfree : ∀ column ∈ columns, column.isAutoIncrement = true →
      suppliedFor supplied column = none) :
    (fillRow supplied number columns).2 =
      if columns.any (·.isAutoIncrement) then number + 1 else number := by
  induction columns with
  | nil => rfl
  | cons column rest ih =>
    obtain ⟨hcolumn, hrest⟩ := List.forall_mem_cons.mp hfree
    cases hauto : column.isAutoIncrement with
    | false =>
      simp only [List.filter_cons, hauto, Bool.false_eq_true, if_false] at hone
      simp only [fillRow, fillColumn_of_not_numbered number hauto, ih hone hrest, List.any_cons,
        hauto, Bool.false_or]
    | true =>
      simp only [List.filter_cons, hauto, if_true, List.length_cons, Nat.succ_le_succ_iff,
        Nat.le_zero, List.length_eq_zero_iff, List.filter_eq_nil_iff] at hone
      have hnone : ∀ other ∈ rest, other.isAutoIncrement = false := by simpa using hone
      have hfill : fillColumn supplied number column = (.int number, number + 1) := by
        simp only [fillColumn, hcolumn hauto, hauto, if_true]
      simp only [fillRow, hfill, fillRow_of_forall_not_numbered _ hnone, List.any_cons, hauto,
        Bool.true_or, if_true]

/-- Where at most one column is numbered, the next number after a row is the one after that
column. -/
theorem snd_fillRow_of_numbered {supplied : List (Column × Value)} (number : Int64)
    {columns : List Column} {column : Column}
    (hone : (columns.filter (·.isAutoIncrement)).length ≤ 1) (hcolumn : column ∈ columns)
    (hauto : column.isAutoIncrement = true) :
    (fillRow supplied number columns).2 = (fillColumn supplied number column).2 := by
  induction columns with
  | nil => cases hcolumn
  | cons first rest ih =>
    cases hfirst : first.isAutoIncrement with
    | false =>
      have hne : column ≠ first := by
        rintro rfl
        rw [hauto] at hfirst
        cases hfirst
      simp only [List.filter_cons, hfirst, Bool.false_eq_true, if_false] at hone
      simp only [fillRow, fillColumn_of_not_numbered number hfirst,
        ih hone (List.mem_of_ne_of_mem hne hcolumn)]
    | true =>
      simp only [List.filter_cons, hfirst, if_true, List.length_cons, Nat.succ_le_succ_iff,
        Nat.le_zero, List.length_eq_zero_iff, List.filter_eq_nil_iff] at hone
      have hnone : ∀ other ∈ rest, other.isAutoIncrement = false := by simpa using hone
      obtain rfl : column = first := by
        rcases List.mem_cons.mp hcolumn with hsame | hmem
        · exact hsame
        · rw [hnone column hmem] at hauto
          cases hauto
      simp only [fillRow, fillRow_of_forall_not_numbered _ hnone]

/-- Where at most one column is numbered and nothing is supplied to it, that column takes the next
number, and what else is not supplied is filled with defaults. -/
theorem fillRow_eq_map (number : Int64) {columns : List Column}
    (hone : (columns.filter (·.isAutoIncrement)).length ≤ 1)
    (hfree : ∀ column ∈ columns, column.isAutoIncrement = true →
      suppliedFor supplied column = none) :
    fillRow supplied number columns =
      (columns.map fun column => (suppliedFor supplied column).getD
          (if column.isAutoIncrement then .int number else column.default.getD .null),
        if columns.any (·.isAutoIncrement) then number + 1 else number) :=
  Prod.ext (fst_fillRow number hone) (snd_fillRow number hone hfree)

/-- The row that kept values make is the new row of their record, and takes a number if there is a
numbered column. -/
theorem drafted_of_validate (hlawful : table.schema.Lawful) {number : Nat} {item : WriteItem}
    (hvalid : (RecordRules.of table.schema).validate number item = .ok values)
    (hsupplied : table.schema.checkValues values = .ok supplied) :
    table.drafted supplied =
      (table.schema.rowOf table.nextId values, table.schema.numberAfter table.nextId) := by
  have hlookup {column : Column} (hcolumn : column ∈ table.schema.columns) :=
    TableSchema.suppliedFor_eq_lookup hlawful hvalid hsupplied hcolumn
  have hfree : ∀ column ∈ table.schema.columns, column.isAutoIncrement = true →
      suppliedFor supplied column = none := by
    intro column hcolumn hauto
    refine Option.eq_none_iff_forall_ne_some.mpr fun value hgiven => ?_
    obtain ⟨change, hchange, hindex, -⟩ := exists_of_suppliedFor hgiven
    obtain ⟨hown, -, given, hmem, hfound, -⟩ := TableSchema.of_mem_checkValues hsupplied hchange
    have hkey := RecordRules.offKey_of_validate hlawful hvalid given hmem change.1 hfound
    rw [hlawful.eq_of_index hown hcolumn hindex,
      ((hlawful.columns column hcolumn).numbered hauto).2] at hkey
    cases hkey
  rw [drafted, fillRow_eq_map table.nextId hlawful.length_numbered_le_one hfree]
  refine Prod.ext (List.map_congr_left fun column hcolumn => ?_) rfl
  simp only [hlookup hcolumn]

end Table

end Tabula
