import Tabula.Proofs.Write.Acceptance
import Tabula.Proofs.Write.Validity

/-!
# Rows to which records are written

A valid record is written to a row: each column outside the key takes what the record has for it,
and all other columns keep their values. Under a record id a single record is compiled, and the
store writes it to the row that it is sent to.
-/

namespace Tabula

/-- A row becomes another when a record is written to it: the columns outside the key have what is
written to them, and a column to which nothing is written has the value from before. -/
structure TableSchema.Rewrites (schema : TableSchema) (item : WriteItem) (old new : Row) :
    Prop where
  length : new.length = old.length
  written : ∀ column ∈ schema.columns, column.isPrimaryKey = false →
    ∀ value, column.written? item = some value → new.at column = value
  kept : ∀ column ∈ schema.columns,
    column.isPrimaryKey = true ∨ column.written? item = none → new.at column = old.at column

namespace TableSchema

variable {schema : TableSchema} {item : WriteItem} {old new : Row} {column : Column}

/-- The key of a row stays the same when a record is written to it. -/
theorem Rewrites.keyOf (h : schema.Rewrites item old new) : schema.keyOf new = schema.keyOf old := by
  refine congrArg RowKey.mk (List.map_congr_left fun column hcolumn => ?_)
  obtain ⟨hmem, hkey⟩ := List.mem_filter.mp hcolumn
  exact h.kept column hmem (Or.inl hkey)

/-- What is written of a valid record is found under the columns outside the key. -/
theorem lookup_writtenOf (hlawful : schema.Lawful) (hvalid : item.Valid schema)
    (hcolumn : column ∈ schema.columns) (hkey : column.isPrimaryKey = false) :
    (schema.writtenOf item).lookup (.of schema column) = column.written? item := by
  have hvalidate := RecordRules.validate_writtenOf hvalid 0
  refine Option.ext fun value => ?_
  rw [lookup_eq_some_iff_mem (RecordRules.nodup_of_validate hlawful hvalidate), writtenOf,
    List.mem_filterMap]
  constructor
  · rintro ⟨own, hown, hwritten⟩
    obtain ⟨given, hgiven, hpair⟩ := Option.map_eq_some_iff.mp hwritten
    obtain ⟨href, rfl⟩ := Prod.mk.inj hpair
    have hname : own.name = column.name := congrArg ColumnRef.name href
    rwa [← hlawful.eq_of_name (List.mem_of_mem_filter hown) hcolumn hname]
  · intro hwritten
    refine ⟨column, List.mem_filter.mpr ⟨hcolumn, by simp [hkey]⟩, ?_⟩
    rw [hwritten]
    rfl

end TableSchema

/-- Nothing is written to a column with a default for an empty value other than `false`. -/
theorem Column.written?_eq_none_of_isFalsy {column : Column} {item : WriteItem} {json : Json}
    {value : Value} (hdefault : column.hasDefault = true)
    (hfield : Json.field? column.name item = some json) (hread : column.read? json = some value)
    (hfalsy : value.isFalsy = true) (hne : value ≠ .bool false) : column.written? item = none := by
  simp [Column.written?, hfield, hread, hdefault, hfalsy, hne]

namespace Table

variable {table : Table} {item : WriteItem}

/-- A row of a sound table is found by its key of one column. -/
theorem Sound.find?_of_same (hsound : table.Sound) {key : Column}
    (hkey : table.schema.singleKey? = some key) {value : Value}
    (htype : value.hasType key.type = true) {position : Nat} (hlt : position < table.rows.length)
    (hsame : (table.schema.keyOf table.rows[position]).same ⟨[value]⟩ = true) :
    table.find? ⟨[value]⟩ = some position := by
  cases hfound : table.find? ⟨[value]⟩ with
  | none =>
    rw [find?_single_eq_none_iff.mp hfound _ (List.getElem_mem hlt)] at hsame
    cases hsame
  | some other =>
    obtain ⟨hother, hothersame⟩ := getElem_of_find? hfound
    rw [hsound.eq_of_same hkey htype hother hlt hothersame hsame]

/-- A row that is overwritten with what is written of a valid record is that row with the record
written to it. -/
theorem rewrites_overwrite (hsound : table.Sound) (hvalid : item.Valid table.schema) {old : Row}
    (hfits : table.schema.Fits old) {supplied : List (Column × Value)}
    (hsupplied : table.schema.checkValues (table.schema.writtenOf item) = .ok supplied) :
    table.schema.Rewrites item old (overwrite old supplied) := by
  have hvalidate := RecordRules.validate_writtenOf hvalid 0
  have hat {column : Column} (hcolumn : column ∈ table.schema.columns) :
      (overwrite old supplied).at column =
        ((table.schema.writtenOf item).lookup (.of table.schema column)).getD (old.at column) := by
    have hlt : column.index < old.length :=
      hfits.length ▸ hsound.lawful.index_lt hcolumn
    rw [at_overwrite_eq supplied hlt,
      TableSchema.suppliedFor_eq_lookup hsound.lawful hvalidate hsupplied hcolumn]
  refine ⟨length_overwrite old supplied, fun column hcolumn hkey value hwritten => ?_,
    fun column hcolumn hleft => ?_⟩
  · rw [hat hcolumn, TableSchema.lookup_writtenOf hsound.lawful hvalid hcolumn hkey, hwritten]
    rfl
  · rw [hat hcolumn]
    cases hkey : column.isPrimaryKey with
    | true =>
      rw [RecordRules.lookup_eq_none_of_key hsound.lawful hvalidate hcolumn hkey]
      rfl
    | false =>
      have hnone := hleft.resolve_left (by simp [hkey])
      rw [TableSchema.lookup_writtenOf hsound.lawful hvalid hcolumn hkey, hnone]
      rfl

/-- Updating a row with what is written of a valid record succeeds and writes the record to the
row. -/
theorem exists_update_writtenOf (hsound : table.Sound) (hvalid : item.Valid table.schema)
    {position : Nat} (hlt : position < table.rows.length) :
    ∃ new, table.schema.Rewrites item table.rows[position] new ∧
      table.update position (table.schema.writtenOf item) =
        .ok (table.rows[position], { table with rows := table.rows.set position new }) := by
  obtain ⟨⟨old, after⟩, hupdate⟩ :=
    table.update_of_validate hsound (RecordRules.validate_writtenOf hvalid 0) hlt
  obtain ⟨hold, supplied, hsupplied, -, rfl⟩ := update_eq_ok hupdate
  obtain ⟨_, rfl⟩ := List.getElem?_eq_some_iff.mp hold
  exact ⟨_, rewrites_overwrite hsound hvalid (hsound.fits _ (List.getElem_mem hlt)) hsupplied,
    hupdate⟩

end Table

namespace WriteStatement

/-- Under a record id a single valid record is compiled, if the table has a key of one column and
the record id is cast to its type: into the statement that updates the row with that key by what is
written of the record. -/
theorem compile_some_eq_ok_iff {schema : TableSchema} {recordId : Value} {items : List WriteItem}
    {statements : List WriteStatement} :
    compile schema (some recordId) items = .ok statements ↔
      ∃ key keyValue item, schema.singleKey? = some key ∧
        recordId.cast? key.type = some keyValue ∧ items = [item] ∧ item.Valid schema ∧
        statements = [.update ⟨schema.database, schema.name, .of schema key, keyValue,
          schema.writtenOf item⟩] := by
  unfold compile
  match items with
  | [] => simp
  | _ :: _ :: _ => simp
  | [item] =>
    simp only [bind_eq_ok_iff, compileItems_eq_ok_iff_valid, List.forall_mem_singleton,
      List.map_cons, List.map_nil, ofValues]
    unfold keyOf
    constructor
    · rintro ⟨⟨column, keyValue⟩, hkeyOf, hvalid, rfl⟩
      split at hkeyOf
      · cases hkeyOf
      · rename_i key hkey
        split at hkeyOf
        · cases hkeyOf
        · rename_i hcast
          cases hkeyOf
          exact ⟨key, keyValue, item, hkey, hcast, rfl, hvalid, rfl⟩
    · rintro ⟨key, keyValue, other, hkey, hcast, hitem, hvalid, rfl⟩
      obtain rfl : item = other := List.head_eq_of_cons_eq hitem
      refine ⟨(.of schema key, keyValue), ?_, hvalid, rfl⟩
      simp only [hkey, hcast]

end WriteStatement

end Tabula
