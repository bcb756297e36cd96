import Tabula.Proofs.Schema.Lookup
import Tabula.Proofs.Schema.Path

/-!
# Registering databases

A database is registered under a new name, after all others. What has been found before is found so
after that, since look-ups take the first database of a name, or the first one that has a table. A
path without a database leads where the path with the first such database leads.
-/

namespace Tabula

/-- What is found in a registry is found so in another one. -/
structure Registry.Extends (registry extended : Registry) : Prop where
  resolve : ∀ {database table : String} {schema : TableSchema},
    registry.resolve database table = .ok schema → extended.resolve database table = .ok schema
  locate : ∀ {table database : String},
    registry.locate? table = some database → extended.locate? table = some database

namespace Registry

variable {registry extended : Registry} {catalog : Catalog} {database table : String}

/-- A catalog is found exactly if its name is registered. -/
theorem catalog?_eq_none_iff : registry.catalog? database = none ↔ database ∉ registry.names := by
  simp [catalog?, names]

/-- A database is registered if its name is new, and it comes after all others. -/
theorem register_eq_ok_iff :
    registry.register catalog = .ok extended ↔
      catalog.name ∉ registry.names ∧ extended = ⟨registry.catalogs ++ [catalog]⟩ := by
  rw [← catalog?_eq_none_iff, register]
  cases registry.catalog? catalog.name <;> simp [eq_comm]

/-! ### Look-ups in a larger registry -/

/-- A registry with one more database at the end has what it had before. -/
theorem extends_append (registry : Registry) (catalog : Catalog) :
    registry.Extends ⟨registry.catalogs ++ [catalog]⟩ where
  resolve {database table schema} h := by
    unfold resolve at h ⊢
    cases hfound : registry.catalog? database with
    | none => simp [hfound] at h
    | some found =>
      rw [catalog?] at hfound
      rw [catalog?, hfound] at h
      rwa [catalog?, List.find?_append, hfound]
  locate {table database} h := by
    obtain ⟨found, hfound, rfl⟩ := Option.map_eq_some_iff.mp h
    rw [locate?, List.find?_append, hfound]
    rfl

/-- A path leads to the same database in a larger registry. -/
theorem Extends.databaseOf (h : registry.Extends extended) {path : FieldPath}
    (hdatabase : registry.databaseOf path = .ok database) :
    extended.databaseOf path = .ok database := by
  unfold Registry.databaseOf at hdatabase ⊢
  split at hdatabase
  · exact hdatabase
  · split at hdatabase
    · rename_i hlocate
      cases hdatabase
      rw [h.locate hlocate]
    · cases hdatabase

/-- A field that is found is the same in a larger registry. -/
theorem Extends.resolveField (h : registry.Extends extended) {text : String}
    {field : ResolvedField} (hfield : registry.resolveField text = .ok field) :
    extended.resolveField text = .ok field := by
  obtain ⟨path, database, hpath, hdatabase, hschema, hcolumn⟩ := resolveField_eq_ok_iff.mp hfield
  exact resolveField_eq_ok_iff.mpr
    ⟨path, database, hpath, h.databaseOf hdatabase, h.resolve hschema, hcolumn⟩

/-! ### Paths without a database -/

/-- The first database that has a table is where the table is located. -/
theorem locate?_of_first {before after : List Catalog}
    (hcatalogs : registry.catalogs = before ++ catalog :: after)
    (hbefore : ∀ earlier ∈ before, earlier.contains table = false)
    (hcontains : catalog.contains table = true) :
    registry.locate? table = some catalog.name := by
  have hfind : registry.catalogs.find? (·.contains table) = some catalog :=
    List.find?_eq_some_iff_append.mpr
      ⟨hcontains, before, after, hcatalogs,
        fun earlier hearlier => by simp [hbefore earlier hearlier]⟩
  rw [locate?, hfind, Option.map_some]

/-- A path without a database leads where the path with the first database that has the table
leads. -/
theorem resolveField_of_first {before after : List Catalog} {column : String}
    (hcatalogs : registry.catalogs = before ++ catalog :: after)
    (hbefore : ∀ earlier ∈ before, earlier.contains table = false)
    (hcontains : catalog.contains table = true)
    (hplain : (FieldPath.mk (some catalog.name) table column).IsPlain) :
    registry.resolveField (FieldPath.mk none table column).text =
      registry.resolveField (FieldPath.mk (some catalog.name) table column).text := by
  have hqualified := FieldPath.ofText_eq_ok_iff.mpr ⟨hplain, rfl⟩
  have hshort : (FieldPath.mk none table column).IsPlain :=
    fun name hname => hplain name (List.mem_cons_of_mem catalog.name hname)
  have hunqualified := FieldPath.ofText_eq_ok_iff.mpr ⟨hshort, rfl⟩
  have hlocate := locate?_of_first hcatalogs hbefore hcontains
  simp only [Registry.resolveField, hqualified, hunqualified, Registry.databaseOf, hlocate, bind,
    Except.bind]

end Registry

end Tabula
