import Tabula.Proofs.Engine.Tables
import Tabula.Proofs.Table.Changes

/-!
# Calls of a transaction

The calls that can change rows, one after the other. What each of them can do is said once: it
fails and leaves everything as it is, except that a refused insertion may have moved a counter, or
it changes one table and puts the changes on the log.
-/

namespace Tabula

/-- A call that can change rows. -/
inductive TransactionCall where
  | insert (statement : InsertStatement)
  | update (statement : UpdateStatement)
  | delete (plan : DeletePlan)

namespace Transaction

/-- Carries out a call and gives the keys of the rows that it wrote or deleted. -/
def perform (transaction : Transaction) :
    TransactionCall → Except StoreError (List RowKey) × Transaction
  | .insert statement =>
    let (result, after) := transaction.insert statement
    (result.map ([·]), after)
  | .update statement =>
    let (result, after) := transaction.update statement
    (result.map ([·]), after)
  | .delete plan => transaction.delete plan

/-- Carries out calls in their order, whether or not they succeed. -/
def run (transaction : Transaction) (calls : List TransactionCall) : Transaction :=
  calls.foldl (fun transaction call => (transaction.perform call).2) transaction

/-- The counter of the table does not overflow in a call. -/
def CountsOn (transaction : Transaction) : TransactionCall → Prop
  | .insert statement =>
    ∀ table, transaction.engine.table statement.database statement.table = .ok table →
      table.CountsOn statement.values
  | _ => True

/-- No counter overflows while the calls are carried out. -/
def CountsThrough (transaction : Transaction) : List TransactionCall → Prop
  | [] => True
  | call :: rest => transaction.CountsOn call ∧ (transaction.perform call).2.CountsThrough rest

/-- Whether a counter overflows in a call can be decided. -/
instance decidableCountsOn (transaction : Transaction) :
    (call : TransactionCall) → Decidable (transaction.CountsOn call)
  | .insert _ => inferInstanceAs (Decidable (∀ _, _ → _))
  | .update _ | .delete _ => isTrue trivial

/-- Whether a counter overflows in calls can be decided by carrying them out. -/
instance decidableCountsThrough (transaction : Transaction) :
    (calls : List TransactionCall) → Decidable (transaction.CountsThrough calls)
  | [] => isTrue trivial
  | call :: rest =>
    have := decidableCountsThrough (transaction.perform call).2 rest
    inferInstanceAs (Decidable (_ ∧ _))

/-! ### What each call can do -/

/-- An insertion finds no table, is refused by its table, or is noted with the position of the new
row. -/
theorem insert_cases (transaction : Transaction) (statement : InsertStatement) :
    (∃ error, transaction.engine.table statement.database statement.table = .error error ∧
      transaction.insert statement = (.error (.schema error), transaction)) ∨
    ∃ table after,
      transaction.engine.table statement.database statement.table = .ok table ∧
      ((∃ error, table.insert statement.values = (.error error, after) ∧
        transaction.insert statement =
          (.error error, transaction.record statement.database after [])) ∨
      ∃ position, table.insert statement.values = (.ok position, after) ∧
        transaction.insert statement =
          (.ok (after.schema.keyOf (after.rows.getD position [])),
            transaction.record statement.database after [.inserted position])) := by
  cases hfound : transaction.engine.table statement.database statement.table with
  | error error => exact Or.inl ⟨error, rfl, by simp only [Transaction.insert, hfound]⟩
  | ok table =>
    rcases hinsert : table.insert statement.values with ⟨error | position, after⟩
    · exact Or.inr ⟨table, after, rfl,
        Or.inl ⟨error, hinsert, by simp only [Transaction.insert, hfound, hinsert]⟩⟩
    · exact Or.inr ⟨table, after, rfl,
        Or.inr ⟨position, hinsert, by simp only [Transaction.insert, hfound, hinsert]⟩⟩

/-- An update fails and leaves everything, or it is noted with the old state of the row that has
the key. -/
theorem update_cases (transaction : Transaction) (statement : UpdateStatement) :
    (∃ error, transaction.update statement = (.error error, transaction)) ∨
    ∃ table position old after,
      transaction.engine.table statement.database statement.table = .ok table ∧
      table.find? ⟨[statement.keyValue]⟩ = some position ∧
      table.update position statement.values = .ok (old, after) ∧
      transaction.update statement =
        (.ok ⟨[statement.keyValue]⟩,
          transaction.record statement.database after [.updated position old]) := by
  cases hfound : transaction.engine.table statement.database statement.table with
  | error error => exact Or.inl ⟨.schema error, by simp only [Transaction.update, hfound]⟩
  | ok table =>
    cases hposition : table.find? ⟨[statement.keyValue]⟩ with
    | none =>
      exact Or.inl ⟨.recordNotFound table.schema.qualifiedName ⟨[statement.keyValue]⟩,
        by simp only [Transaction.update, hfound, hposition]⟩
    | some position =>
      cases hupdate : table.update position statement.values with
      | error error =>
        exact Or.inl ⟨error, by simp only [Transaction.update, hfound, hposition, hupdate]⟩
      | ok changed =>
        exact Or.inr ⟨table, position, changed.1, changed.2, rfl, hposition, hupdate,
          by simp only [Transaction.update, hfound, hposition, hupdate]⟩

/-- A deletion fails and leaves everything, or it is noted with the rows that it took out. -/
theorem delete_cases (transaction : Transaction) (plan : DeletePlan) :
    (∃ error, transaction.delete plan = (.error error, transaction)) ∨
    ∃ rows table,
      plan.keyProbe.run transaction.engine = .ok rows ∧
      transaction.engine.table plan.table.database plan.table.name = .ok table ∧
      transaction.delete plan =
        (.ok (rows.map RowKey.mk),
          transaction.record plan.table.database
            (removeRows table [] (table.positionsOf (rows.map RowKey.mk))).1
            (removeRows table [] (table.positionsOf (rows.map RowKey.mk))).2) := by
  cases hprobe : plan.keyProbe.run transaction.engine with
  | error error => exact Or.inl ⟨error, by simp only [Transaction.delete, hprobe]⟩
  | ok rows =>
    cases rows with
    | nil =>
      exact Or.inl ⟨.noRecordsMatch plan.table.qualifiedName,
        by simp only [Transaction.delete, hprobe]⟩
    | cons row rest =>
      cases hfound : transaction.engine.table plan.table.database plan.table.name with
      | error error =>
        exact Or.inl ⟨.schema error, by simp only [Transaction.delete, hprobe, hfound]⟩
      | ok table =>
        exact Or.inr ⟨row :: rest, table, rfl, rfl,
          by simp only [Transaction.delete, hprobe, hfound, Table.positionsOf]⟩

end Transaction

end Tabula
