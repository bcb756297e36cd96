import Tabula.Proofs.Transaction.Calls

/-!
# Rolling back

A transaction changes tables at once and notes how to undo that. Whatever calls it has carried
out, in whatever order and with whatever outcome, rolling it back gives every table the schema and
the rows that it had at the beginning; only counters may have moved, and they move up unless one
overflows.

The invariant is that rolling back now would restore the beginning. A call changes one table at
most and puts changes on the log that undo it, so that the rollback after the call goes first
through the rollback before it.
-/

namespace Tabula

/-! ### Tables before and after -/

/-- The table has kept its schema and its rows. -/
def Table.SameRows (old new : Table) : Prop := new.schema = old.schema ∧ new.rows = old.rows

/-- The table has kept its schema, and its counter has not moved down. -/
def Table.CountedUp (old new : Table) : Prop :=
  new.schema = old.schema ∧ old.nextId ≤ new.nextId

/-- A relation of the states of a table that composes and that undoing a change of the rows in
both states respects. -/
structure Table.UndoStable (R : Table → Table → Prop) : Prop where
  refl : ∀ table, R table table
  trans : ∀ a b c, R a b → R b c → R a c
  schema : ∀ old new, R old new → new.schema = old.schema
  undo : ∀ (change : RowChange) (old new : Table), R old new →
    R { old with rows := change.undo old.rows } { new with rows := change.undo new.rows }

/-- Undoing the same change keeps equal rows equal. -/
theorem Table.undoStable_sameRows : Table.UndoStable Table.SameRows where
  refl _ := ⟨rfl, rfl⟩
  trans _ _ _ hab hbc := ⟨hbc.1.trans hab.1, hbc.2.trans hab.2⟩
  schema _ _ h := h.1
  undo change _ _ h := ⟨h.1, congrArg change.undo h.2⟩

/-- Undoing changes touches no counter. -/
theorem Table.undoStable_countedUp : Table.UndoStable Table.CountedUp where
  refl _ := ⟨rfl, Int64.le_refl _⟩
  trans _ _ _ hab hbc := ⟨hbc.1.trans hab.1, Int64.le_trans hab.2 hbc.2⟩
  schema _ _ h := h.1
  undo _ _ _ h := h

namespace Table.UndoStable

variable {R : Table → Table → Prop} {before after engine : Engine}

/-- Related states of a table have one name. -/
theorem name (hR : UndoStable R) (old new : Table) (h : R old new) :
    new.schema.name = old.schema.name := by
  rw [hR.schema old new h]

/-- Undoing one entry keeps engines related. -/
theorem undo_entry (hR : UndoStable R) (h : Engine.Related R before after) (entry : UndoEntry) :
    Engine.Related R (entry.undo before) (entry.undo after) := by
  rcases h.table_cases hR.name entry.database entry.table with
    ⟨error, hbefore, hafter⟩ | ⟨old, new, hbefore, hafter, hpair⟩
  · simpa only [UndoEntry.undo, hbefore, hafter] using h
  · simp only [UndoEntry.undo, hbefore, hafter]
    exact h.putTable hR.name entry.database (hR.undo entry.change old new hpair)

/-- Undoing a log keeps engines related. -/
theorem undo_log (hR : UndoStable R) (log : List UndoEntry) (h : Engine.Related R before after) :
    Engine.Related R (log.foldl UndoEntry.undo before) (log.foldl UndoEntry.undo after) := by
  induction log generalizing before after with
  | nil => exact h
  | cons entry rest ih => exact ih (hR.undo_entry h entry)

end Table.UndoStable

/-- Undoing the changes of one table puts the table with the changes of its rows undone. -/
theorem foldl_undo_putTable {engine : Engine} {database name : String} {old new : Table}
    (h : engine.table database name = .ok old) (hname : new.schema.name = name)
    (changes : List RowChange) :
    (changes.map (UndoEntry.mk database name)).foldl UndoEntry.undo
        (engine.putTable database new) =
      engine.putTable database { new with rows := changes.foldl RowChange.undo new.rows } := by
  induction changes generalizing new with
  | nil => rfl
  | cons change rest ih =>
    rw [List.map_cons, List.foldl_cons, List.foldl_cons, UndoEntry.undo,
      Engine.table_putTable_self h hname]
    simp only
    rw [Engine.putTable_putTable new { new with rows := change.undo new.rows } rfl]
    exact @ih { new with rows := change.undo new.rows } hname

/-- The table has kept its schema and its counter. -/
def Table.SameCounter (old new : Table) : Prop :=
  new.schema = old.schema ∧ new.nextId = old.nextId

/-- Undoing changes leaves all counters where they are. -/
theorem sameCounter_undo (log : List UndoEntry) (engine : Engine) :
    Engine.Related Table.SameCounter engine (log.foldl UndoEntry.undo engine) := by
  have hrefl (table : Table) : table.SameCounter table := ⟨rfl, rfl⟩
  induction log generalizing engine with
  | nil => exact Engine.Related.refl hrefl engine
  | cons entry rest ih =>
    have hentry : Engine.Related Table.SameCounter engine (entry.undo engine) := by
      cases hfound : engine.table entry.database entry.table with
      | error error =>
        simp only [UndoEntry.undo, hfound]
        exact Engine.Related.refl hrefl engine
      | ok table =>
        simp only [UndoEntry.undo, hfound]
        refine Engine.related_putTable hrefl (fun old new h => ?_) hfound ⟨rfl, rfl⟩
        rw [h.1]
    exact hentry.trans (fun a b c hab hbc => ⟨hbc.1.trans hab.1, hbc.2.trans hab.2⟩)
      (ih (entry.undo engine))

/-! ### Steps -/

namespace Transaction

/-- What a call does to a transaction: it fails and leaves everything, or it changes one table and
puts changes on the log that undo that. -/
inductive Step (counted : Prop) (before : Transaction) : Transaction → Prop
  | unchanged : Step counted before before
  | changed {database name : String} {old new : Table} {changes : List RowChange}
      (found : before.engine.table database name = .ok old)
      (schema : new.schema = old.schema)
      (counts : counted → old.nextId ≤ new.nextId)
      (undone : changes.foldl RowChange.undo new.rows = old.rows) :
      Step counted before (before.record database new changes)

/-- An insertion is a step, whether or not it succeeds. -/
theorem insert_step (transaction : Transaction) (statement : InsertStatement) :
    Step (transaction.CountsOn (.insert statement)) transaction
      (transaction.insert statement).2 := by
  rcases transaction.insert_cases statement with
    ⟨error, -, hcase⟩ | ⟨table, after, hfound, hcases⟩
  · rw [hcase]
    exact Step.unchanged
  · have hschema := table.insert_schema statement.values
    have hcounts (h : transaction.CountsOn (.insert statement)) := Table.le_insert (h table hfound)
    rcases hcases with ⟨error, hinsert, hcase⟩ | ⟨position, hinsert, hcase⟩ <;>
      rw [hinsert] at hschema hcounts <;> rw [hcase]
    · exact Step.changed hfound hschema hcounts (Table.insert_rows_of_error hinsert)
    · obtain ⟨rfl, row, hrows⟩ := Table.insert_rows_of_ok hinsert
      refine Step.changed hfound hschema hcounts ?_
      simp only [List.foldl_cons, List.foldl_nil, RowChange.undo, hrows]
      rw [List.eraseIdx_append_of_length_le (Nat.le_refl _), Nat.sub_self]
      simp

/-- An update is a step, whether or not it succeeds. -/
theorem update_step (transaction : Transaction) (statement : UpdateStatement) :
    Step True transaction (transaction.update statement).2 := by
  rcases transaction.update_cases statement with
    ⟨error, hcase⟩ | ⟨table, position, old, after, hfound, -, hupdate, hcase⟩ <;> rw [hcase]
  · exact Step.unchanged
  · obtain ⟨hold, supplied, -, -, rfl⟩ := Table.update_eq_ok hupdate
    refine Step.changed hfound rfl (fun _ => Int64.le_refl _) ?_
    obtain ⟨hlt, hget⟩ := List.getElem?_eq_some_iff.mp hold
    simp [RowChange.undo, ← hget]

/-- A deletion is a step, whether or not it succeeds. -/
theorem delete_step (transaction : Transaction) (plan : DeletePlan) :
    Step True transaction (transaction.delete plan).2 := by
  rcases transaction.delete_cases plan with
    ⟨error, hcase⟩ | ⟨rows, table, -, hfound, hcase⟩ <;> rw [hcase]
  · exact Step.unchanged
  · obtain ⟨left, added, hremove, -, hundo⟩ :=
      table.removeRows_eq [] (table.positionsOf (rows.map RowKey.mk))
    rw [hremove]
    exact Step.changed hfound rfl (fun _ => Int64.le_refl _) (by simpa using hundo)

/-- Every call is a step. -/
theorem perform_step (transaction : Transaction) (call : TransactionCall) :
    Step (transaction.CountsOn call) transaction (transaction.perform call).2 := by
  cases call with
  | insert statement => exact insert_step transaction statement
  | update statement => exact update_step transaction statement
  | delete plan => exact delete_step transaction plan

/-! ### What a failed call leaves -/

/-- A failed call changes no row and no log. -/
theorem perform_error {transaction : Transaction} {call : TransactionCall} {error : StoreError}
    (h : (transaction.perform call).1 = .error error) :
    Engine.Related Table.SameRows transaction.engine (transaction.perform call).2.engine ∧
      (transaction.perform call).2.log = transaction.log := by
  have hrefl := Engine.Related.refl Table.undoStable_sameRows.refl transaction.engine
  cases call with
  | insert statement =>
    simp only [perform] at h ⊢
    rcases transaction.insert_cases statement with
      ⟨_, -, hcase⟩ | ⟨table, after, hfound, ⟨_, hinsert, hcase⟩ | ⟨_, -, hcase⟩⟩ <;>
      rw [hcase] at h ⊢
    · exact ⟨hrefl, rfl⟩
    · have hschema := table.insert_schema statement.values
      rw [hinsert] at hschema
      exact ⟨Engine.related_putTable Table.undoStable_sameRows.refl
        Table.undoStable_sameRows.name hfound
        ⟨hschema, Table.insert_rows_of_error hinsert⟩, rfl⟩
    · cases h
  | update statement =>
    simp only [perform] at h ⊢
    rcases transaction.update_cases statement with ⟨_, hcase⟩ | ⟨_, _, _, _, -, -, -, hcase⟩ <;>
      rw [hcase] at h ⊢
    · exact ⟨hrefl, rfl⟩
    · cases h
  | delete plan =>
    simp only [perform] at h ⊢
    rcases transaction.delete_cases plan with ⟨_, hcase⟩ | ⟨_, _, -, -, hcase⟩ <;>
      rw [hcase] at h ⊢
    · exact ⟨hrefl, rfl⟩
    · cases h

/-! ### Rolling back -/

/-- Rolling back after a change goes through the rollback before it: both lead to related
engines. -/
theorem related_rollback_record {R : Table → Table → Prop} (hR : Table.UndoStable R)
    {transaction : Transaction} {database name : String} {old new : Table}
    {changes : List RowChange} (found : transaction.engine.table database name = .ok old)
    (hname : new.schema.name = name)
    (h : R old { new with rows := changes.foldl RowChange.undo new.rows }) :
    Engine.Related R transaction.rollback (transaction.record database new changes).rollback := by
  have hundo := foldl_undo_putTable found hname changes
  simp only [rollback, record, List.foldl_append, hname]
  rw [hundo]
  exact hR.undo_log transaction.log (Engine.related_putTable hR.refl hR.name found h)

/-- A step does not change the rows that rolling back restores. -/
theorem Step.sameRows_rollback {counted : Prop} {before after : Transaction}
    (h : Step counted before after) :
    Engine.Related Table.SameRows before.rollback after.rollback := by
  cases h with
  | unchanged => exact Engine.Related.refl Table.undoStable_sameRows.refl _
  | changed found schema counts undone =>
    exact related_rollback_record Table.undoStable_sameRows found
      (schema ▸ Engine.name_of_table found) ⟨schema, undone⟩

/-- A step does not move down the counters that rolling back leaves. -/
theorem Step.countedUp_rollback {counted : Prop} {before after : Transaction}
    (h : Step counted before after) (hcounted : counted) :
    Engine.Related Table.CountedUp before.rollback after.rollback := by
  cases h with
  | unchanged => exact Engine.Related.refl Table.undoStable_countedUp.refl _
  | changed found schema counts undone =>
    exact related_rollback_record Table.undoStable_countedUp found
      (schema ▸ Engine.name_of_table found) ⟨schema, counts hcounted⟩

/-- Calls do not change the rows that rolling back restores. -/
theorem sameRows_rollback_run (transaction : Transaction) (calls : List TransactionCall) :
    Engine.Related Table.SameRows transaction.rollback (transaction.run calls).rollback := by
  induction calls generalizing transaction with
  | nil => exact Engine.Related.refl Table.undoStable_sameRows.refl _
  | cons call rest ih =>
    exact (perform_step transaction call).sameRows_rollback.trans
      Table.undoStable_sameRows.trans (ih (transaction.perform call).2)

/-- Calls do not move down the counters that rolling back leaves, unless one overflows. -/
theorem countedUp_rollback_run (transaction : Transaction) (calls : List TransactionCall)
    (h : transaction.CountsThrough calls) :
    Engine.Related Table.CountedUp transaction.rollback (transaction.run calls).rollback := by
  induction calls generalizing transaction with
  | nil => exact Engine.Related.refl Table.undoStable_countedUp.refl _
  | cons call rest ih =>
    exact ((perform_step transaction call).countedUp_rollback h.1).trans
      Table.undoStable_countedUp.trans (ih (transaction.perform call).2 h.2)

/-- Rolling back restores every table exactly, whatever a transaction has done: schemas and rows
are those of the beginning, in the same order and at the same positions, and no counter is lower
unless one has overflowed. On the way, a call that fails changes no row and puts nothing on the
log. -/
theorem rollback_restores (engine : Engine) (calls : List TransactionCall) :
    Engine.Related Table.SameRows engine ((begin engine).run calls).rollback ∧
      ((begin engine).CountsThrough calls →
        Engine.Related Table.CountedUp engine ((begin engine).run calls).rollback) ∧
      ∀ call error, (((begin engine).run calls).perform call).1 = .error error →
        Engine.Related Table.SameRows ((begin engine).run calls).engine
            (((begin engine).run calls).perform call).2.engine ∧
          (((begin engine).run calls).perform call).2.log = ((begin engine).run calls).log :=
  ⟨sameRows_rollback_run (begin engine) calls, countedUp_rollback_run (begin engine) calls,
    fun _ _ h => perform_error h⟩

end Transaction

/-! ### A hotel -/

/-- Guests are numbered automatically, and stay for one night unless they say otherwise. -/
def guestSchema : TableSchema where
  database := "hotel"
  name := "guests"
  columns := [
    ⟨⟨"id", .int, false, true, true, none, none⟩, 0⟩,
    ⟨⟨"name", .text, false, false, false, none, some 20⟩, 1⟩,
    ⟨⟨"nights", .int, false, false, false, some (.int 1), none⟩, 2⟩]

/-- A hotel with the given guests. -/
def guestEngine (guests : List Row) (nextId : Int64) : Engine where
  databases := [⟨"hotel", [{ schema := guestSchema, rows := guests, nextId := nextId }]⟩]
  transactions := 0

/-- The number of a guest. -/
def guestId : ColumnRef := ⟨"hotel", "guests", "id", 0, .int⟩

/-- The name of a guest. -/
def guestName : ColumnRef := ⟨"hotel", "guests", "name", 1, .text⟩

/-- A guest comes, one is refused as a number is taken, one changes the name, and all leave. -/
def guestCalls : List TransactionCall :=
  [.insert ⟨"hotel", "guests", [(guestName, .text "Cleo")]⟩,
    .insert ⟨"hotel", "guests", [(guestId, .int 2), (guestName, .text "Dan")]⟩,
    .update ⟨"hotel", "guests", guestId, .int 1, [(guestName, .text "Eve")]⟩,
    .delete ⟨guestSchema, [guestId], none, .scan guestSchema [guestId] none⟩]

/-- Rolling back brings back the guest who was there, and no number is given twice. -/
theorem Transaction.rollback_restores_guests :
    let before := guestEngine [[.int 1, .text "Ann", .int 2]] 2
    let after := ((begin before).run guestCalls).rollback
    (begin before).CountsThrough guestCalls ∧ Engine.Related Table.SameRows before after ∧
      Engine.Related Table.CountedUp before after := by
  intro before after
  have hcounts : (begin before).CountsThrough guestCalls := by decide +kernel
  obtain ⟨hrows, hcounted, -⟩ := rollback_restores before guestCalls
  exact ⟨hcounts, hrows, hcounted hcounts⟩

end Tabula
