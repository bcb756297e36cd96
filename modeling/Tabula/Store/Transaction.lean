import Tabula.Store.Select
import Tabula.Write.Statement

/-!
# Transactions

A transaction changes the engine at once and keeps a log of how to undo each change. A failed
statement changes no row and leaves no entry in the log; the transaction goes on. Rolling back
undoes the changes from the latest to the first.
-/

namespace Tabula

/-- A change of the rows of a table, with what is needed to undo it. -/
inductive RowChange where
  | inserted (position : Nat)
  | updated (position : Nat) (old : Row)
  | removed (position : Nat) (old : Row)
deriving DecidableEq

/-- An entry of the log. -/
structure UndoEntry where
  database : String
  table : String
  change : RowChange
deriving DecidableEq

/-- The rows before a change. -/
def RowChange.undo (rows : List Row) : RowChange → List Row
  | .inserted position => rows.eraseIdx position
  | .updated position old => rows.set position old
  | .removed position old => rows.insertIdx position old

/-- The engine before a change. A table that is not there any more has nothing to restore. -/
def UndoEntry.undo (engine : Engine) (entry : UndoEntry) : Engine :=
  match engine.table entry.database entry.table with
  | .error _ => engine
  | .ok table =>
    engine.putTable entry.database { table with rows := entry.change.undo table.rows }

/-- A transaction under way: the engine as it is now, and the log with the latest entry first. -/
structure Transaction where
  id : Nat
  engine : Engine
  log : List UndoEntry
deriving DecidableEq

namespace Transaction

/-- Begins a transaction. Transactions are numbered from one. -/
def begin (engine : Engine) : Transaction :=
  let id := engine.transactions + 1
  ⟨id, { engine with transactions := id }, []⟩

/-- Changes a table and notes how to undo that. -/
def record (transaction : Transaction) (database : String) (table : Table)
    (changes : List RowChange) : Transaction where
  id := transaction.id
  engine := transaction.engine.putTable database table
  log := changes.map (UndoEntry.mk database table.schema.name) ++ transaction.log

/-- Inserts a row and gives its key. -/
def insert (transaction : Transaction) (statement : InsertStatement) :
    Except StoreError RowKey × Transaction :=
  match transaction.engine.table statement.database statement.table with
  | .error error => (.error (.schema error), transaction)
  | .ok table =>
    match table.insert statement.values with
    | (.error error, table) => (.error error, transaction.record statement.database table [])
    | (.ok position, table) =>
      (.ok (table.schema.keyOf (table.rows.getD position [])),
        transaction.record statement.database table [.inserted position])

/-- Updates the row with the given key and gives that key. There must be such a row. -/
def update (transaction : Transaction) (statement : UpdateStatement) :
    Except StoreError RowKey × Transaction :=
  match transaction.engine.table statement.database statement.table with
  | .error error => (.error (.schema error), transaction)
  | .ok table =>
    let key : RowKey := ⟨[statement.keyValue]⟩
    match table.find? key with
    | none => (.error (.recordNotFound table.schema.qualifiedName key), transaction)
    | some position =>
      match table.update position statement.values with
      | .error error => (.error error, transaction)
      | .ok (old, table) =>
        (.ok key, transaction.record statement.database table [.updated position old])

/-- Carries out one statement. -/
def write (transaction : Transaction) : WriteStatement →
    Except StoreError RowKey × Transaction
  | .insert statement => transaction.insert statement
  | .update statement => transaction.update statement

/-- Takes the rows at some positions out of a table, given from the last position to the first, so
that the later ones do not move. Gives the changes with the latest first. -/
def removeRows (table : Table) (changes : List RowChange) : List Nat → Table × List RowChange
  | [] => (table, changes)
  | position :: rest =>
    match table.remove? position with
    | none => removeRows table changes rest
    | some (row, table) => removeRows table (.removed position row :: changes) rest

/-- Deletes the rows of a plan and gives their keys. There must be at least one. -/
def delete (transaction : Transaction) (plan : DeletePlan) :
    Except StoreError (List RowKey) × Transaction :=
  match plan.keyProbe.run transaction.engine with
  | .error error => (.error error, transaction)
  | .ok [] => (.error (.noRecordsMatch plan.table.qualifiedName), transaction)
  | .ok rows =>
    match transaction.engine.table plan.table.database plan.table.name with
    | .error error => (.error (.schema error), transaction)
    | .ok table =>
      let keys := rows.map RowKey.mk
      let positions := (keys.filterMap table.find?).mergeSort
      let (table, changes) := removeRows table [] positions.reverse
      (.ok keys, transaction.record plan.table.database table changes)

/-- Carries out a select plan; it sees the changes made so far. -/
def select (transaction : Transaction) (plan : SelectPlan) : Except StoreError (List Row) :=
  plan.run transaction.engine

/-- Changes the engine beside the transaction, without an entry in the log. -/
def withEngine (transaction : Transaction) (engine : Engine) : Transaction :=
  { transaction with engine := engine }

/-- Ends the transaction and keeps its changes. -/
def commit (transaction : Transaction) : Engine := transaction.engine

/-- Ends the transaction and undoes its changes. -/
def rollback (transaction : Transaction) : Engine :=
  transaction.log.foldl UndoEntry.undo transaction.engine

end Transaction

end Tabula
