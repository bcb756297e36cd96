import Tabula.Schema.Catalog

/-!
# Registry of databases

All databases in the order of their registration. A field is found by a path `table.column` or
`database.table.column`; without a database, the first one that has the table is taken.
`TableMemo` keeps the tables that one request has looked up, so that the request sees each of them
in one state.
-/

namespace Tabula

/-! ### Paths -/

/-- The way to a field: a column of a table, perhaps of a named database. -/
structure FieldPath where
  database : Option String
  table : String
  column : String
deriving DecidableEq, Repr

namespace FieldPath

/-- The parts of a text between its dots. There is always at least one part. -/
def parts : List Char → List (List Char)
  | [] => [[]]
  | c :: rest =>
    if c = '.' then [] :: parts rest
    else match parts rest with
    | [] => [[c]]
    | part :: others => (c :: part) :: others

/-- Reads a path: two or three parts, none of them empty. -/
def ofText (text : String) : Except SchemaError FieldPath :=
  let parts := parts text.toList
  if parts.any (·.isEmpty) then .error (.invalidFieldPath text)
  else match parts.map String.ofList with
  | [database, table, column] => .ok ⟨some database, table, column⟩
  | [table, column] => .ok ⟨none, table, column⟩
  | _ => .error (.invalidFieldPath text)

end FieldPath

/-- A column together with the table it belongs to. -/
structure ResolvedField where
  table : TableSchema
  column : Column
deriving DecidableEq

/-- The column of the given name in a table. -/
def ResolvedField.of (table : TableSchema) (column : String) : Except SchemaError ResolvedField := do
  return ⟨table, ← table.expectColumn column⟩

/-! ### The registry -/

/-- The list with its first item that passes a test replaced. -/
def replaceFirst {A : Type} (test : A → Bool) (new : A) : List A → List A
  | [] => []
  | item :: rest => if test item then new :: rest else item :: replaceFirst test new rest

/-- The databases in the order of their registration. -/
structure Registry where
  catalogs : List Catalog
deriving DecidableEq

namespace Registry

/-- The names of the databases. -/
def names (registry : Registry) : List String := registry.catalogs.map (·.name)

/-- The catalog of a database. -/
def catalog? (registry : Registry) (database : String) : Option Catalog :=
  registry.catalogs.find? (·.name == database)

/-- Adds a database under a name that is not taken. -/
def register (registry : Registry) (catalog : Catalog) : Except SchemaError Registry :=
  if (registry.catalog? catalog.name).isSome then .error (.databaseExists catalog.name)
  else .ok ⟨registry.catalogs ++ [catalog]⟩

/-- Puts another state of a catalog in its place. -/
def put (registry : Registry) (catalog : Catalog) : Registry :=
  ⟨replaceFirst (·.name == catalog.name) catalog registry.catalogs⟩

/-- The schema of a table. -/
def resolve (registry : Registry) (database table : String) : Except SchemaError TableSchema :=
  match registry.catalog? database with
  | none => .error (.databaseNotFound database)
  | some catalog =>
    match catalog.describe? table with
    | none => .error (.tableNotFound database table)
    | some schema => .ok schema

/-- The first database that has a table of the given name. -/
def locate? (registry : Registry) (table : String) : Option String :=
  (registry.catalogs.find? (·.contains table)).map (·.name)

/-- The database that a path leads to. -/
def databaseOf (registry : Registry) (path : FieldPath) : Except SchemaError String :=
  match path.database with
  | some database => .ok database
  | none =>
    match registry.locate? path.table with
    | some database => .ok database
    | none => .error (.tableNowhere path.table)

/-- The field at the end of a path. -/
def resolveField (registry : Registry) (text : String) : Except SchemaError ResolvedField := do
  let path ← FieldPath.ofText text
  let database ← registry.databaseOf path
  let table ← registry.resolve database path.table
  ResolvedField.of table path.column

end Registry

/-! ### Tables looked up before -/

/-- The tables that were looked up before, each under its database and name as they were asked
for. -/
structure TableMemo where
  entries : List ((String × String) × TableSchema)

namespace TableMemo

/-- Nothing was looked up yet. -/
def empty : TableMemo := ⟨[]⟩

/-- The schema of a table: as it was found before, or as the registry has it now. -/
def resolve (registry : Registry) (memo : TableMemo) (database table : String) :
    Except SchemaError TableSchema × TableMemo :=
  match memo.entries.lookup (database, table) with
  | some schema => (.ok schema, memo)
  | none =>
    match registry.resolve database table with
    | .ok schema => (.ok schema, ⟨((database, table), schema) :: memo.entries⟩)
    | .error error => (.error error, memo)

/-- The field at the end of a path. The table is remembered even if it lacks the column. -/
def resolveField (registry : Registry) (memo : TableMemo) (text : String) :
    Except SchemaError ResolvedField × TableMemo :=
  match FieldPath.ofText text with
  | .error error => (.error error, memo)
  | .ok path =>
    match registry.databaseOf path with
    | .error error => (.error error, memo)
    | .ok database =>
      let (found, memo) := resolve registry memo database path.table
      (found.bind (ResolvedField.of · path.column), memo)

end TableMemo

end Tabula
