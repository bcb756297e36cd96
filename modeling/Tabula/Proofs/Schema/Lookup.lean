import Tabula.Proofs.Schema.Lawful
import Tabula.Schema.Registry

/-!
# Looking up tables

A catalog describes the tables that have been created in it, so each of its schemas is lawful and
knows the catalog. A table that is found in a registry of such catalogs bears the names under which
it was asked for. A memo of tables that were found before gives the same answers as the registry.
-/

namespace Tabula

/-! ### Catalogs -/

/-- Catalogs whose tables have been created one after the other; some may have been dropped
again. -/
inductive Catalog.Made : Catalog → Prop
  | empty (name : String) : Made (.empty name)
  | create {catalog after : Catalog} {spec : TableSpec} (earlier : Made catalog)
      (accepted : catalog.create spec = .ok after) : Made after
  | drop {catalog after : Catalog} {table : String} (earlier : Made catalog)
      (accepted : catalog.drop table = .ok after) : Made after

/-- A registry whose catalogs have been made. -/
def Registry.Made (registry : Registry) : Prop := ∀ catalog ∈ registry.catalogs, catalog.Made

/-- All tables of a catalog are lawful and know the catalog. -/
def Catalog.Lawful (catalog : Catalog) : Prop :=
  ∀ schema ∈ catalog.tables, schema.Lawful ∧ schema.database = catalog.name

/-- All tables of a registry are lawful and know the catalogs in which they are. -/
def Registry.Lawful (registry : Registry) : Prop := ∀ catalog ∈ registry.catalogs, catalog.Lawful

namespace Catalog

variable {catalog after : Catalog}

/-- Creating a table keeps a catalog lawful. -/
theorem Lawful.create (h : catalog.Lawful) {spec : TableSpec}
    (hcreate : catalog.create spec = .ok after) : after.Lawful := by
  unfold Catalog.create at hcreate
  split at hcreate
  · cases hcreate
  · obtain ⟨schema, hschema, hcreate⟩ := bind_eq_ok_iff.mp hcreate
    cases hcreate
    obtain ⟨hlawful, hdatabase, -⟩ := TableSchema.lawful_of_ofSpec hschema
    intro own hown
    rcases List.mem_append.mp hown with hold | hnew
    · exact h own hold
    · rw [List.mem_singleton.mp hnew]
      exact ⟨hlawful, hdatabase⟩

/-- Dropping a table keeps a catalog lawful. -/
theorem Lawful.drop (h : catalog.Lawful) {table : String}
    (hdrop : catalog.drop table = .ok after) : after.Lawful := by
  unfold Catalog.drop at hdrop
  split at hdrop
  · cases hdrop
    exact fun schema hschema => h schema (List.mem_of_mem_eraseP hschema)
  · cases hdrop

/-- A catalog that has been made is lawful. -/
theorem Made.lawful (h : catalog.Made) : catalog.Lawful := by
  induction h with
  | empty name => simp [Catalog.Lawful, Catalog.empty]
  | create _ accepted ih => exact ih.create accepted
  | drop _ accepted ih => exact ih.drop accepted

end Catalog

/-! ### Registries -/

/-- A column that must exist is the one that is found by its name. -/
theorem TableSchema.expectColumn_eq_ok_iff {schema : TableSchema} {name : String}
    {column : Column} :
    schema.expectColumn name = .ok column ↔ schema.column? name = some column := by
  unfold expectColumn
  cases schema.column? name <;> simp

namespace Registry

variable {registry : Registry} {database table : String} {schema : TableSchema}

/-- A registry of catalogs that have been made is lawful. -/
theorem Made.lawful (h : registry.Made) : registry.Lawful :=
  fun catalog hcatalog => (h catalog hcatalog).lawful

/-- A table that is found is lawful and bears the names under which it was asked for. -/
theorem Lawful.of_resolve (h : registry.Lawful)
    (hresolve : registry.resolve database table = .ok schema) :
    schema.Lawful ∧ schema.database = database ∧ schema.name = table := by
  unfold resolve at hresolve
  split at hresolve
  · cases hresolve
  · rename_i catalog hcatalog
    split at hresolve
    · cases hresolve
    · rename_i found hfound
      cases hresolve
      have hname := List.find?_some hcatalog
      have htable := List.find?_some hfound
      obtain ⟨hlawful, hdatabase⟩ := h catalog (List.mem_of_find?_eq_some hcatalog) schema
        (List.mem_of_find?_eq_some hfound)
      exact ⟨hlawful, hdatabase.trans (eq_of_beq hname), eq_of_beq htable⟩

/-- The registry has this table under its own names. -/
def Has (registry : Registry) (schema : TableSchema) : Prop :=
  registry.resolve schema.database schema.name = .ok schema

/-- A table that is found in a lawful registry is there under its own names. -/
theorem Lawful.has_of_resolve (h : registry.Lawful)
    (hresolve : registry.resolve database table = .ok schema) : registry.Has schema := by
  obtain ⟨-, hdatabase, hname⟩ := h.of_resolve hresolve
  rw [Has, hdatabase, hname, hresolve]

/-- Two tables of a registry with the same names are the same. -/
theorem Has.eq {other : TableSchema} (h : registry.Has schema) (hother : registry.Has other)
    (hdatabase : schema.database = other.database) (hname : schema.name = other.name) :
    schema = other := by
  rw [Has, hdatabase, hname, hother] at h
  exact (Except.ok.inj h).symm

/-- A field is found if its path can be read, leads to a database with the table, and the table has
the column. -/
theorem resolveField_eq_ok_iff {text : String} {field : ResolvedField} :
    registry.resolveField text = .ok field ↔
      ∃ path database, FieldPath.ofText text = .ok path ∧ registry.databaseOf path = .ok database ∧
        registry.resolve database path.table = .ok field.table ∧
        field.table.column? path.column = some field.column := by
  simp only [resolveField, ResolvedField.of, bind_eq_ok_iff]
  constructor
  · rintro ⟨path, hpath, database, hdatabase, schema, hschema, column, hcolumn, hfield⟩
    cases hfield
    exact ⟨path, database, hpath, hdatabase, hschema,
      TableSchema.expectColumn_eq_ok_iff.mp hcolumn⟩
  · rintro ⟨path, database, hpath, hdatabase, hschema, hcolumn⟩
    exact ⟨path, hpath, database, hdatabase, _, hschema, _,
      TableSchema.expectColumn_eq_ok_iff.mpr hcolumn, rfl⟩

/-- A field that is found is a column of a table of the registry. -/
theorem Lawful.of_resolveField (h : registry.Lawful) {text : String} {field : ResolvedField}
    (hfield : registry.resolveField text = .ok field) :
    registry.Has field.table ∧ field.table.Lawful ∧ field.column ∈ field.table.columns := by
  obtain ⟨path, database, -, -, hschema, hcolumn⟩ := resolveField_eq_ok_iff.mp hfield
  exact ⟨h.has_of_resolve hschema, (h.of_resolve hschema).1, List.mem_of_find?_eq_some hcolumn⟩

end Registry

/-! ### Memos -/

namespace TableMemo

variable {registry : Registry} {memo : TableMemo}

/-- Every table of the memo is as the registry has it now. -/
def Agrees (registry : Registry) (memo : TableMemo) : Prop :=
  ∀ entry ∈ memo.entries, registry.resolve entry.1.1 entry.1.2 = .ok entry.2

/-- A memo without tables agrees with every registry. -/
theorem agrees_empty (registry : Registry) : empty.Agrees registry := by
  simp [Agrees, empty]

/-- A memo that agrees with the registry gives the same table, and agrees afterwards. -/
theorem Agrees.resolve (h : memo.Agrees registry) (database table : String) :
    (TableMemo.resolve registry memo database table).1 = registry.resolve database table ∧
      (TableMemo.resolve registry memo database table).2.Agrees registry := by
  unfold TableMemo.resolve
  split
  · rename_i schema hlookup
    obtain ⟨before, after, hentries, -⟩ := List.lookup_eq_some_iff.mp hlookup
    have hmem : ((database, table), schema) ∈ memo.entries := by simp [hentries]
    exact ⟨(h _ hmem).symm, h⟩
  · split
    · rename_i schema hresolve
      refine ⟨hresolve.symm, fun entry hentry => ?_⟩
      rcases List.mem_cons.mp hentry with rfl | hold
      · exact hresolve
      · exact h entry hold
    · rename_i error hresolve
      exact ⟨hresolve.symm, h⟩

/-- A memo that agrees with the registry gives the same field, and agrees afterwards. -/
theorem Agrees.resolveField (h : memo.Agrees registry) (text : String) :
    (TableMemo.resolveField registry memo text).1 = registry.resolveField text ∧
      (TableMemo.resolveField registry memo text).2.Agrees registry := by
  unfold TableMemo.resolveField Registry.resolveField
  cases FieldPath.ofText text with
  | error error => exact ⟨rfl, h⟩
  | ok path =>
    cases hdatabase : registry.databaseOf path with
    | error error => simpa [hdatabase, bind, Except.bind] using h
    | ok database =>
      obtain ⟨htable, hagrees⟩ := h.resolve database path.table
      simp only [hdatabase, bind, Except.bind, htable]
      exact ⟨trivial, hagrees⟩

end TableMemo

end Tabula
