import Tabula.Value.Convert

/-!
# Table schemas

A table is described by its columns in order. `TableSchema.ofSpec` takes a description as a user
writes it and refuses the unlawful ones: names must differ, a default must have the type of its
column, and only the single integer key of a table may be numbered automatically.
-/

namespace Tabula

/-- A column as a user describes it. -/
structure ColumnSpec where
  name : String
  type : ScalarType
  isNullable : Bool
  isPrimaryKey : Bool
  isAutoIncrement : Bool
  /-- The value of rows for which none is given, which may be null. -/
  default : Option Value
  /-- The greatest number of characters of a text to write. -/
  maxLength : Option UInt32
deriving DecidableEq

/-- A table as a user describes it. -/
structure TableSpec where
  name : String
  columns : List ColumnSpec
deriving DecidableEq

/-- A column of a table, with its position in the rows. -/
structure Column extends ColumnSpec where
  index : Nat
deriving DecidableEq

/-- The description of a table of a database. -/
structure TableSchema where
  database : String
  name : String
  columns : List Column
deriving DecidableEq

/-! ### Errors -/

/-- What can be wrong with a column. -/
inductive ColumnFault where
  | autoIncrementOffKey
  | autoIncrementOnCompositeKey
  | defaultOfOtherType
deriving DecidableEq, Repr

/-- The wording of a fault. -/
def ColumnFault.reason : ColumnFault → String
  | .autoIncrementOffKey => "auto increment requires integer primary key"
  | .autoIncrementOnCompositeKey => "auto increment requires single-column primary key"
  | .defaultOfOtherType => "default value does not match column type"

/-- Failures of looking up or describing databases, tables and columns. -/
inductive SchemaError where
  | databaseNotFound (database : String)
  | databaseExists (database : String)
  | tableNotFound (database table : String)
  /-- No database has the table. -/
  | tableNowhere (table : String)
  | tableExists (table : String)
  | columnNotFound (table column : String)
  | duplicateColumn (column : String)
  | invalidColumn (column : String) (fault : ColumnFault)
  | noPrimaryKey (table : String)
  | invalidFieldPath (path : String)
deriving DecidableEq, Repr

/-- The report of a failure. Only a malformed path is the fault of the request itself. -/
def SchemaError.report : SchemaError → Report
  | .databaseNotFound database => ⟨.schema, s!"database {database} not found", none⟩
  | .databaseExists database => ⟨.schema, s!"database {database} already registered", none⟩
  | .tableNotFound database table =>
    ⟨.schema, s!"table {table} not found in database {database}", none⟩
  | .tableNowhere table => ⟨.schema, s!"table {table} not found in any database", none⟩
  | .tableExists table => ⟨.schema, s!"table {table} already exists", none⟩
  | .columnNotFound table column =>
    ⟨.schema, s!"column {column} not found in table {table}", some column⟩
  | .duplicateColumn column => ⟨.schema, s!"duplicate column {column}", some column⟩
  | .invalidColumn column fault =>
    ⟨.schema, s!"invalid column {column}: {fault.reason}", some column⟩
  | .noPrimaryKey table => ⟨.schema, s!"table {table} has no primary key", none⟩
  | .invalidFieldPath path =>
    ⟨.validation,
      s!"invalid field reference '{path}', expected 'table.column' or 'db.table.column'",
      some path⟩

/-! ### Schemas -/

namespace ColumnSpec

/-- Whether the column has a default, be it null. -/
def hasDefault (spec : ColumnSpec) : Bool := spec.default.isSome

/-- Whether the default, if any, is null or of the type of the column. -/
def defaultFits (spec : ColumnSpec) : Bool :=
  match spec.default with
  | none => true
  | some value => value.isNull || value.hasType spec.type

/-- Checks one column of a description after columns with the names `earlier`. -/
def check (earlier : List String) (spec : ColumnSpec) : Except SchemaError Unit :=
  if spec.name ∈ earlier then .error (.duplicateColumn spec.name)
  else if spec.isAutoIncrement && !(spec.type == .int && spec.isPrimaryKey) then
    .error (.invalidColumn spec.name .autoIncrementOffKey)
  else if !spec.defaultFits then .error (.invalidColumn spec.name .defaultOfOtherType)
  else .ok ()

end ColumnSpec

namespace TableSchema

/-- The columns of the primary key, in order. -/
def primaryKey (schema : TableSchema) : List Column := schema.columns.filter (·.isPrimaryKey)

/-- The only column of the primary key, if it has just one. -/
def singleKey? (schema : TableSchema) : Option Column :=
  match schema.primaryKey with
  | [column] => some column
  | _ => none

/-- The column with the given name. -/
def column? (schema : TableSchema) (name : String) : Option Column :=
  schema.columns.find? (·.name == name)

/-- The name of the table with its database. -/
def qualifiedName (schema : TableSchema) : String := schema.database ++ "." ++ schema.name

/-- Whether this is the schema of the given table. -/
def isOf (schema : TableSchema) (database table : String) : Bool :=
  schema.database == database && schema.name == table

/-- The column with the given name, which must exist. -/
def expectColumn (schema : TableSchema) (name : String) : Except SchemaError Column :=
  match schema.column? name with
  | some column => .ok column
  | none => .error (.columnNotFound schema.qualifiedName name)

/-- The columns of a description from the position `index` on, after columns with the names
`earlier`. -/
def columnsOf : (index : Nat) → (earlier : List String) → List ColumnSpec →
    Except SchemaError (List Column)
  | _, _, [] => .ok []
  | index, earlier, spec :: rest => do
    spec.check earlier
    let columns ← columnsOf (index + 1) (spec.name :: earlier) rest
    return ⟨spec, index⟩ :: columns

/-- The schema for a description, if that is lawful. The first unlawful column is reported; a
composite key with a numbered column is a fault of the table and reported under its name. -/
def ofSpec (database : String) (spec : TableSpec) : Except SchemaError TableSchema := do
  let columns ← columnsOf 0 [] spec.columns
  let schema : TableSchema := ⟨database, spec.name, columns⟩
  if 1 < schema.primaryKey.length && columns.any (·.isAutoIncrement) then
    throw (.invalidColumn spec.name .autoIncrementOnCompositeKey)
  return schema

end TableSchema

end Tabula
