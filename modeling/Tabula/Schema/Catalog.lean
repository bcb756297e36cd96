import Tabula.Schema.Basic

/-!
# Catalogs

A catalog describes the tables of one database, in the order of their creation.
-/

namespace Tabula

/-- The tables of one database. -/
structure Catalog where
  name : String
  tables : List TableSchema
deriving DecidableEq

namespace Catalog

/-- A catalog without tables. -/
def empty (name : String) : Catalog := ⟨name, []⟩

/-- The names of the tables. -/
def tableNames (catalog : Catalog) : List String := catalog.tables.map (·.name)

/-- The schema of a table. -/
def describe? (catalog : Catalog) (table : String) : Option TableSchema :=
  catalog.tables.find? (·.name == table)

/-- Whether there is a table of the given name. -/
def contains (catalog : Catalog) (table : String) : Bool := (catalog.describe? table).isSome

/-- Adds a table at the end. -/
def create (catalog : Catalog) (spec : TableSpec) : Except SchemaError Catalog :=
  if catalog.contains spec.name then .error (.tableExists spec.name)
  else do
    let schema ← TableSchema.ofSpec catalog.name spec
    return { catalog with tables := catalog.tables ++ [schema] }

/-- Removes a table. -/
def drop (catalog : Catalog) (table : String) : Except SchemaError Catalog :=
  if catalog.contains table then
    .ok { catalog with tables := catalog.tables.eraseP (·.name == table) }
  else .error (.tableNotFound catalog.name table)

end Catalog

end Tabula
