import Tabula.Write.Rules

/-!
# Write statements

A write request is compiled into one statement for each record: all insert, or the only one
updates the row with the given key.
-/

namespace Tabula

/-- A new row with the given values. -/
structure InsertStatement where
  database : String
  table : String
  values : List (ColumnRef × Value)
deriving DecidableEq

/-- New values for the row that has the given key. -/
structure UpdateStatement where
  database : String
  table : String
  key : ColumnRef
  keyValue : Value
  values : List (ColumnRef × Value)
deriving DecidableEq

/-- A statement that writes one row. -/
inductive WriteStatement where
  | insert (statement : InsertStatement)
  | update (statement : UpdateStatement)
deriving DecidableEq

namespace WriteStatement

/-- An assignment in the text of an update. -/
def assignmentText (column : ColumnRef) (value : Value) : String :=
  column.name ++ " = " ++ value.literal

/-- The text of a statement, in the manner of SQL. -/
def text : WriteStatement → String
  | insert statement =>
    "INSERT INTO " ++ statement.database ++ "." ++ statement.table ++ " (" ++
      ", ".intercalate (statement.values.map (·.1.name)) ++ ") VALUES (" ++
      Value.literals (statement.values.map (·.2)) ++ ")"
  | update statement =>
    "UPDATE " ++ statement.database ++ "." ++ statement.table ++ " SET " ++
      ", ".intercalate (statement.values.map fun (column, value) => assignmentText column value) ++
      " WHERE " ++ assignmentText statement.key statement.keyValue

/-- The key column of a table and the value in it that a record id stands for. -/
def keyOf (schema : TableSchema) (recordId : Value) : Except WriteError (ColumnRef × Value) :=
  match schema.singleKey? with
  | none => .error (.noSingleKey schema.qualifiedName)
  | some column =>
    match recordId.cast? column.type with
    | none => .error (.recordIdType recordId column.type)
    | some value => .ok (ColumnRef.of schema column, value)

/-- Compiles records from the one with the given number on. Without a key they are inserted. -/
def compileItems (schema : TableSchema) (key : Option (ColumnRef × Value)) :
    (number : Nat) → List WriteItem → Except WriteError (List WriteStatement)
  | _, [] => .ok []
  | number, item :: rest => do
    let values ← (RecordRules.of schema).validate number item
    let statement : WriteStatement := match key with
      | none => .insert ⟨schema.database, schema.name, values⟩
      | some (column, value) => .update ⟨schema.database, schema.name, column, value, values⟩
    let others ← compileItems schema key (number + 1) rest
    return statement :: others

/-- Compiles records, in their order. With a record id there must be exactly one, and it updates
the row whose key that is. -/
def compile (schema : TableSchema) (recordId : Option Value) (items : List WriteItem) :
    Except WriteError (List WriteStatement) :=
  match recordId with
  | none => compileItems schema none 0 items
  | some recordId =>
    match items with
    | [] => .error .noUpdate
    | _ :: _ :: _ => .error .severalUpdates
    | [_] => do
      let key ← keyOf schema recordId
      compileItems schema (some key) 0 items

end WriteStatement

end Tabula
