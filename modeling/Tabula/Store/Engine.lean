import Tabula.Schema.Registry
import Tabula.Store.Table

/-!
# Databases and the engine

A database holds tables in the order of their creation; seen without rows it is a catalog. The
engine holds all databases and counts the transactions that have begun.
-/

namespace Tabula

/-- A named list of tables. -/
structure Database where
  name : String
  tables : List Table
deriving DecidableEq

namespace Database

/-- A database without tables. -/
def empty (name : String) : Database := ⟨name, []⟩

/-- The catalog of the tables that are there now. -/
def catalog (database : Database) : Catalog := ⟨database.name, database.tables.map (·.schema)⟩

/-- The table of the given name. -/
def find? (database : Database) (table : String) : Option Table :=
  database.tables.find? (·.schema.name == table)

/-- The table of the given name, which must exist. -/
def table (database : Database) (table : String) : Except SchemaError Table :=
  match database.find? table with
  | some found => .ok found
  | none => .error (.tableNotFound database.name table)

/-- Adds an empty table at the end. -/
def create (database : Database) (spec : TableSpec) : Except SchemaError Database :=
  if (database.find? spec.name).isSome then .error (.tableExists spec.name)
  else do
    let schema ← TableSchema.ofSpec database.name spec
    return { database with tables := database.tables ++ [Table.empty schema] }

/-- Removes a table with its rows. -/
def drop (database : Database) (table : String) : Except SchemaError Database :=
  if (database.find? table).isSome then
    .ok { database with tables := database.tables.eraseP (·.schema.name == table) }
  else .error (.tableNotFound database.name table)

/-- Puts another state of a table in its place. -/
def put (database : Database) (table : Table) : Database :=
  { database with
    tables := replaceFirst (·.schema.name == table.schema.name) table database.tables }

end Database

/-- All databases, and the number of transactions that have begun. -/
structure Engine where
  databases : List Database
  transactions : Nat
deriving DecidableEq

namespace Engine

/-- Registers databases in their order. Their names must differ. -/
def register (earlier : List Database) : List Database → Except SchemaError (List Database)
  | [] => .ok earlier
  | database :: rest =>
    if earlier.any (·.name == database.name) then .error (.databaseExists database.name)
    else register (earlier ++ [database]) rest

/-- An engine with the given databases. -/
def ofDatabases (databases : List Database) : Except SchemaError Engine := do
  return ⟨← register [] databases, 0⟩

/-- The registry of the tables that are there now. -/
def registry (engine : Engine) : Registry := ⟨engine.databases.map Database.catalog⟩

/-- The database of the given name. -/
def find? (engine : Engine) (database : String) : Option Database :=
  engine.databases.find? (·.name == database)

/-- The database of the given name, which must exist. -/
def database (engine : Engine) (database : String) : Except SchemaError Database :=
  match engine.find? database with
  | some found => .ok found
  | none => .error (.databaseNotFound database)

/-- A table, which must exist. -/
def table (engine : Engine) (database table : String) : Except SchemaError Table := do
  (← engine.database database).table table

/-- Puts another state of a database in its place. -/
def put (engine : Engine) (database : Database) : Engine :=
  { engine with
    databases := replaceFirst (·.name == database.name) database engine.databases }

/-- Puts another state of a table in its place. -/
def putTable (engine : Engine) (database : String) (table : Table) : Engine :=
  match engine.find? database with
  | none => engine
  | some found => engine.put (found.put table)

/-- Adds a table to a database. -/
def createTable (engine : Engine) (database : String) (spec : TableSpec) :
    Except SchemaError Engine := do
  return engine.put (← (← engine.database database).create spec)

/-- Removes a table from a database. -/
def dropTable (engine : Engine) (database table : String) : Except SchemaError Engine := do
  return engine.put (← (← engine.database database).drop table)

end Engine

end Tabula
