import Tabula.Filter.Predicate
import Tabula.Store.Row

/-!
# Tables

A table holds its rows in the order of their insertion, and the next number for a column that is
numbered automatically. Inserting checks types, nulls and the uniqueness of the key; updating
checks types and nulls. A failed insert may have used up a number.
-/

namespace Tabula

/-- Failures of the store. -/
inductive StoreError where
  | schema (error : SchemaError)
  | nullValue (table column : String)
  | duplicateKey (table : String) (key : RowKey)
  | wrongType (column : String) (value : Value) (expected : ScalarType)
  | recordNotFound (table : String) (key : RowKey)
  | noRecordsMatch (table : String)
  /-- A position at which a table has no row. -/
  | noRowAt (table : String) (position : Nat)
deriving DecidableEq

/-- The report of a failure. -/
def StoreError.report : StoreError → Report
  | .schema error => error.report
  | .nullValue table column =>
    ⟨.execution, s!"null value in column {column} of {table} violates not-null constraint",
      some column⟩
  | .duplicateKey table key => ⟨.execution, s!"duplicate key {key.literal} in {table}", none⟩
  | .wrongType column value expected =>
    ⟨.execution,
      s!"value {value.literal} does not fit column {column} of type {expected.name}",
      some column⟩
  | .recordNotFound table key =>
    ⟨.notFound, s!"record not found, no row of {table} has key {key.literal}", none⟩
  | .noRecordsMatch table => ⟨.notFound, s!"no records match in {table}", none⟩
  | .noRowAt table position => ⟨.execution, s!"no row at position {position} of {table}", none⟩

namespace TableSchema

/-- The key of a row. -/
def keyOf (schema : TableSchema) (row : Row) : RowKey :=
  ⟨schema.primaryKey.map fun column => row.getD column.index .null⟩

/-- Whether a row may have null in a column. Key columns never may. -/
def allowsNull (column : Column) : Bool := column.isNullable && !column.isPrimaryKey

/-- Checks that a row has no null where none is allowed; the first such column is reported. -/
def checkNulls (schema : TableSchema) (row : Row) : Except StoreError Unit :=
  match schema.columns.find? fun column =>
      (row.getD column.index .null).isNull && !allowsNull column with
  | some column => .error (.nullValue schema.qualifiedName column.name)
  | none => .ok ()

/-- Finds the column of a value by its name and checks the type of the value. -/
def checkValue (schema : TableSchema) (target : ColumnRef) (value : Value) :
    Except StoreError (Column × Value) := do
  let column ← (schema.expectColumn target.name).mapError StoreError.schema
  if value.isNull || value.hasType column.type then return (column, value)
  else throw (.wrongType column.name value column.type)

/-- Checks the values of a statement, in their order. -/
def checkValues (schema : TableSchema) (values : List (ColumnRef × Value)) :
    Except StoreError (List (Column × Value)) :=
  values.mapM fun (target, value) => schema.checkValue target value

end TableSchema

/-- The value that a statement gives to a column; of several the last counts. -/
def suppliedFor (supplied : List (Column × Value)) (column : Column) : Option Value :=
  (supplied.reverse.find? (·.1.index == column.index)).map (·.2)

/-- A table with its rows. -/
structure Table where
  schema : TableSchema
  rows : List Row
  nextId : Int64
deriving DecidableEq

namespace Table

/-- A table without rows. -/
def empty (schema : TableSchema) : Table := ⟨schema, [], 1⟩

/-- The position of the row with the given key. Without a primary key there is none. -/
def find? (table : Table) (key : RowKey) : Option Nat :=
  if table.schema.primaryKey.isEmpty then none
  else table.rows.findIdx? fun row => (table.schema.keyOf row).same key

/-- The number to follow a number that a statement gives. -/
def idAfter (nextId : Int64) : Value → Int64
  | .int id => max nextId (id + 1)
  | _ => nextId

/-- The value of one column of a new row, and the next number after it: the given value, else the
next number of a numbered column, else the default, else null. -/
def fillColumn (supplied : List (Column × Value)) (nextId : Int64) (column : Column) :
    Value × Int64 :=
  match suppliedFor supplied column with
  | some value => (value, if column.isAutoIncrement then idAfter nextId value else nextId)
  | none =>
    if column.isAutoIncrement then (.int nextId, nextId + 1)
    else (column.default.getD .null, nextId)

/-- The values of a new row in the given columns, and the next number after it. -/
def fillRow (supplied : List (Column × Value)) : Int64 → List Column → Row × Int64
  | nextId, [] => ([], nextId)
  | nextId, column :: rest =>
    let (value, nextId) := fillColumn supplied nextId column
    let (row, nextId) := fillRow supplied nextId rest
    (value :: row, nextId)

/-- Checks that a new row obeys the rules of the table. -/
def checkRow (table : Table) (row : Row) : Except StoreError Unit := do
  table.schema.checkNulls row
  let key := table.schema.keyOf row
  if (table.find? key).isSome then throw (.duplicateKey table.schema.qualifiedName key)

/-- Appends a row with the given values and gives its position. Numbers that the row has used up
stay used even if the row is refused. -/
def insert (table : Table) (values : List (ColumnRef × Value)) :
    Except StoreError Nat × Table :=
  match table.schema.checkValues values with
  | .error error => (.error error, table)
  | .ok supplied =>
    let (row, nextId) := fillRow supplied table.nextId table.schema.columns
    let counted := { table with nextId := nextId }
    match table.checkRow row with
    | .error error => (.error error, counted)
    | .ok () => (.ok table.rows.length, { counted with rows := table.rows ++ [row] })

/-- A row with new values in some of its columns. -/
def overwrite (row : Row) (supplied : List (Column × Value)) : Row :=
  supplied.foldl (fun row change => row.set change.1.index change.2) row

/-- Overwrites columns of the row at a position. Gives the old row and the new table. -/
def update (table : Table) (position : Nat) (values : List (ColumnRef × Value)) :
    Except StoreError (Row × Table) :=
  match table.rows[position]? with
  | none => .error (.noRowAt table.schema.qualifiedName position)
  | some old => do
    let supplied ← table.schema.checkValues values
    let row := overwrite old supplied
    table.schema.checkNulls row
    return (old, { table with rows := table.rows.set position row })

/-- Takes out the row at a position, if there is one. -/
def remove? (table : Table) (position : Nat) : Option (Row × Table) :=
  table.rows[position]?.map fun row =>
    (row, { table with rows := table.rows.eraseIdx position })

end Table

end Tabula
