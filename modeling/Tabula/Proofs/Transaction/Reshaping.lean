import Tabula.Proofs.Engine.Reshaping
import Tabula.Proofs.Transaction.Rollback

/-!
# Rolling back while tables are created and dropped

A transaction notes the names of the tables that it changes, and looks these names up again when it
is rolled back. Tables can be created and dropped in the meantime. As long as none is created under
a name that is on the log, rolling back finds every position that it has noted, and leaves what
creating and dropping alone would have left. A table that is created under such a name is taken for
the one that has been dropped.
-/

namespace Tabula

/-- What can happen while a transaction is under way: a call, or that a table is created or dropped
beside it. -/
inductive OpenStep where
  | call (call : TransactionCall)
  | reshape (reshaping : Reshaping)

namespace Transaction

/-- The transaction after a step, whether or not that succeeds. -/
def step (transaction : Transaction) : OpenStep → Transaction
  | .call call => (transaction.perform call).2
  | .reshape reshaping => transaction.withEngine (transaction.engine.reshaped reshaping)

/-- The transaction after steps. -/
def interleaved (transaction : Transaction) : List OpenStep → Transaction
  | [] => transaction
  | step :: rest => (transaction.step step).interleaved rest

end Transaction

/-- The engine as the tables that are created and dropped leave it, without the calls. -/
def Engine.reshapedBy (engine : Engine) : List OpenStep → Engine
  | [] => engine
  | .call _ :: rest => engine.reshapedBy rest
  | .reshape reshaping :: rest => (engine.reshaped reshaping).reshapedBy rest

/-- The table of an entry is not created anew. -/
def Reshaping.Spares (entry : UndoEntry) : Reshaping → Prop
  | .create database spec => ¬ (entry.database = database ∧ entry.table = spec.name)
  | .drop _ _ => True

/-- No table is created under a name that is on the log. -/
def Transaction.CreatesApart (transaction : Transaction) : List OpenStep → Prop
  | [] => True
  | .call call :: rest => (transaction.perform call).2.CreatesApart rest
  | .reshape reshaping :: rest =>
    (∀ after, transaction.engine.reshaped? reshaping = .ok after →
      ∀ entry ∈ transaction.log, reshaping.Spares entry) ∧
    (transaction.step (.reshape reshaping)).CreatesApart rest

/-- Whether the table of an entry is created anew can be decided. -/
instance Reshaping.decidableSpares (entry : UndoEntry) :
    (reshaping : Reshaping) → Decidable (reshaping.Spares entry)
  | .create _ _ => inferInstanceAs (Decidable (¬ _))
  | .drop _ _ => isTrue trivial

/-- Whether tables are created apart from the log can be decided by carrying out the steps. -/
instance Transaction.decidableCreatesApart (transaction : Transaction) :
    (steps : List OpenStep) → Decidable (transaction.CreatesApart steps)
  | [] => isTrue trivial
  | .call call :: rest => decidableCreatesApart (transaction.perform call).2 rest
  | .reshape reshaping :: rest =>
    have := decidableCreatesApart (transaction.step (.reshape reshaping)) rest
    inferInstanceAs (Decidable (_ ∧ _))

/-! ### Positions -/

namespace RowChange

/-- The rows have the position at which a change is to be undone. -/
def InRange (rows : List Row) : RowChange → Prop
  | inserted position => position < rows.length
  | updated position _ => position < rows.length
  | removed position _ => position ≤ rows.length

/-- The rows have all positions at which changes are to be undone one after the other. -/
def AllInRange : List Row → List RowChange → Prop
  | _, [] => True
  | rows, change :: rest => change.InRange rows ∧ AllInRange (change.undo rows) rest

end RowChange

namespace UndoEntry

/-- The table of an entry, if there is one, has the position at which the change is to be undone. -/
def InRange (engine : Engine) (entry : UndoEntry) : Prop :=
  ∀ table, engine.table entry.database entry.table = .ok table → entry.change.InRange table.rows

/-- The tables have all positions at which entries are undone one after the other. -/
def AllInRange : Engine → List UndoEntry → Prop
  | _, [] => True
  | engine, entry :: rest => entry.InRange engine ∧ AllInRange (entry.undo engine) rest

variable {engine after : Engine} {log : List UndoEntry}

/-- Whether positions are in range is a matter of rows. -/
theorem AllInRange.of_sameRows (h : AllInRange engine log)
    (hrel : Engine.Related Table.SameRows engine after) : AllInRange after log := by
  induction log generalizing engine after with
  | nil => trivial
  | cons entry rest ih =>
    refine ⟨fun table htable => ?_, ih h.2 (Table.undoStable_sameRows.undo_entry hrel entry)⟩
    rcases hrel.table_cases Table.undoStable_sameRows.name entry.database entry.table with
      ⟨error, -, herror⟩ | ⟨old, new, hold, hnew, -, hrows⟩
    · rw [htable] at herror
      cases herror
    · rw [htable, Except.ok.injEq] at hnew
      rw [hnew, hrows]
      exact h.1 old hold

/-- Changes of one table are in range if they are so in its rows, and the rest of the log is when
they are undone. -/
theorem allInRange_putTable {database name : String} {old new : Table} {changes : List RowChange}
    (hfound : engine.table database name = .ok old) (hname : new.schema.name = name)
    (hchanges : RowChange.AllInRange new.rows changes)
    (hrest : AllInRange
      (engine.putTable database { new with rows := changes.foldl RowChange.undo new.rows }) log) :
    AllInRange (engine.putTable database new) (changes.map (UndoEntry.mk database name) ++ log) := by
  induction changes generalizing new with
  | nil => exact hrest
  | cons change rest ih =>
    have hput := Engine.table_putTable_self hfound hname
    refine ⟨fun table htable => ?_, ?_⟩
    · rw [hput, Except.ok.injEq] at htable
      exact htable ▸ hchanges.1
    · rw [UndoEntry.undo, hput]
      simp only
      rw [Engine.putTable_putTable new { new with rows := change.undo new.rows } rfl]
      exact @ih { new with rows := change.undo new.rows } hname hchanges.2 hrest

/-- Undoing an entry goes together with creating or dropping a table, if the table of the entry is
not created anew. If it is dropped, there is nothing left to undo. -/
theorem undo_reshaped {entry : UndoEntry} {reshaping : Reshaping} (hnames : engine.NamesDiffer)
    (h : engine.reshaped? reshaping = .ok after) (hspares : reshaping.Spares entry) :
    (entry.undo engine).reshaped? reshaping = .ok (entry.undo after) ∧
      (entry.InRange engine → entry.InRange after) := by
  by_cases hown : entry.database = reshaping.database ∧ entry.table = reshaping.table
  · cases reshaping with
    | create database spec => exact absurd hown hspares
    | drop database name =>
      obtain ⟨rfl, rfl⟩ : entry.database = database ∧ entry.table = name := hown
      have hgone := Engine.table_dropped hnames h
      refine ⟨?_, fun _ table htable => absurd htable (hgone table)⟩
      have hafter : entry.undo after = after := by
        unfold UndoEntry.undo
        cases hfound : after.table entry.database entry.table with
        | error error => rfl
        | ok table => exact absurd hfound (hgone table)
      rw [hafter, UndoEntry.undo]
      cases hfound : engine.table entry.database entry.table with
      | error error => exact h
      | ok table =>
        have hname : table.schema.name = entry.table := Engine.name_of_table hfound
        exact Engine.dropped?_putTable h hname
  · have htable := Engine.table_reshaped h hown
    refine ⟨?_, fun hrange table hfound => hrange table (htable ▸ hfound)⟩
    unfold UndoEntry.undo
    rw [htable]
    cases hfound : engine.table entry.database entry.table with
    | error error => exact h
    | ok table =>
      have hname : table.schema.name = entry.table := Engine.name_of_table hfound
      exact Engine.reshaped?_putTable h fun heq => hown ⟨heq.1, hname ▸ heq.2⟩

/-- Undoing a log goes together with creating or dropping a table, if no table of the log is created
anew. -/
theorem undo_log_reshaped {reshaping : Reshaping} (hnames : engine.NamesDiffer)
    (h : engine.reshaped? reshaping = .ok after) (hspares : ∀ entry ∈ log, reshaping.Spares entry) :
    (log.foldl undo engine).reshaped? reshaping = .ok (log.foldl undo after) ∧
      (AllInRange engine log → AllInRange after log) := by
  induction log generalizing engine after with
  | nil => exact ⟨h, fun _ => trivial⟩
  | cons entry rest ih =>
    obtain ⟨hentry, hrest⟩ := List.forall_mem_cons.mp hspares
    obtain ⟨hundo, hrange⟩ := undo_reshaped hnames h hentry
    have hnames' : (entry.undo engine).NamesDiffer :=
      hnames.of_related (fun _ _ hsame => by rw [hsame.1]) (sameCounter_undo [entry] engine)
    obtain ⟨hlog, hranges⟩ := ih hnames' hundo hrest
    exact ⟨hlog, fun hall => ⟨hrange hall.1, hranges hall.2⟩⟩

end UndoEntry

/-! ### Calls -/

namespace Transaction

variable {transaction before after : Transaction}

/-- What a call does to a transaction, as a step whose changes can be undone in range. -/
inductive RangedStep (before : Transaction) : Transaction → Prop
  | unchanged : RangedStep before before
  | changed {database name : String} {old new : Table} {changes : List RowChange}
      (found : before.engine.table database name = .ok old)
      (schema : new.schema = old.schema)
      (undone : changes.foldl RowChange.undo new.rows = old.rows)
      (ranged : RowChange.AllInRange new.rows changes) :
      RangedStep before (before.record database new changes)

/-- Rows that are taken out can be put back where they were. -/
theorem allInRange_removeRows (table : Table) (changes : List RowChange) (positions : List Nat)
    (h : RowChange.AllInRange table.rows changes) :
    RowChange.AllInRange (removeRows table changes positions).1.rows
      (removeRows table changes positions).2 := by
  induction positions generalizing table changes with
  | nil => exact h
  | cons position rest ih =>
    cases hrow : table.rows[position]? with
    | none =>
      simp only [removeRows, Table.remove?, hrow, Option.map_none]
      exact ih table changes h
    | some row =>
      obtain ⟨hposition, hget⟩ := List.getElem?_eq_some_iff.mp hrow
      simp only [removeRows, Table.remove?, hrow, Option.map_some]
      refine ih { table with rows := table.rows.eraseIdx position } _ ⟨?_, ?_⟩
      · rw [RowChange.InRange, List.length_eraseIdx, if_pos hposition]
        omega
      · rw [RowChange.undo, ← hget, List.insertIdx_eraseIdx_getElem hposition]
        exact h

/-- Every call is such a step. -/
theorem perform_ranged (transaction : Transaction) (call : TransactionCall) :
    RangedStep transaction (transaction.perform call).2 := by
  cases call with
  | insert statement =>
    simp only [perform]
    rcases transaction.insert_cases statement with
      ⟨_, -, hcase⟩ | ⟨table, after, hfound, hcases⟩
    · rw [hcase]
      exact .unchanged
    · have hschema := table.insert_schema statement.values
      rcases hcases with ⟨_, hinsert, hcase⟩ | ⟨position, hinsert, hcase⟩ <;>
        rw [hinsert] at hschema <;> rw [hcase]
      · exact .changed hfound hschema (Table.insert_rows_of_error hinsert) trivial
      · obtain ⟨rfl, row, hrows⟩ := Table.insert_rows_of_ok hinsert
        refine .changed hfound hschema ?_ ⟨?_, trivial⟩
        · simp [RowChange.undo, hrows, List.eraseIdx_append_of_length_le]
        · simp [RowChange.InRange, hrows]
  | update statement =>
    simp only [perform]
    rcases transaction.update_cases statement with
      ⟨_, hcase⟩ | ⟨table, position, old, after, hfound, -, hupdate, hcase⟩ <;> rw [hcase]
    · exact .unchanged
    · obtain ⟨hold, supplied, -, -, rfl⟩ := Table.update_eq_ok hupdate
      obtain ⟨hlt, hget⟩ := List.getElem?_eq_some_iff.mp hold
      refine .changed hfound rfl ?_ ⟨?_, trivial⟩
      · simp [RowChange.undo, ← hget]
      · simpa [RowChange.InRange] using hlt
  | delete plan =>
    simp only [perform]
    rcases transaction.delete_cases plan with ⟨_, hcase⟩ | ⟨rows, table, -, hfound, hcase⟩ <;>
      rw [hcase]
    · exact .unchanged
    · have hranged := allInRange_removeRows table [] (table.positionsOf (rows.map RowKey.mk)) trivial
      obtain ⟨left, added, hremove, -, hundo⟩ :=
        table.removeRows_eq [] (table.positionsOf (rows.map RowKey.mk))
      rw [hremove] at hranged ⊢
      exact .changed hfound rfl (by simpa using hundo) hranged

/-! ### What steps preserve -/

/-- A log whose positions are in range stays so in such a step. -/
theorem RangedStep.allInRange (hstep : RangedStep before after)
    (h : UndoEntry.AllInRange before.engine before.log) :
    UndoEntry.AllInRange after.engine after.log := by
  cases hstep with
  | unchanged => exact h
  | changed found schema undone ranged =>
    rename_i database name old new changes
    have hname : new.schema.name = name := schema ▸ Engine.name_of_table found
    subst hname
    refine UndoEntry.allInRange_putTable found rfl ranged (h.of_sameRows ?_)
    exact Engine.related_putTable Table.undoStable_sameRows.refl Table.undoStable_sameRows.name
      found ⟨schema, undone⟩

/-- After any calls the positions of the log are in range. -/
theorem allInRange_run (h : UndoEntry.AllInRange transaction.engine transaction.log)
    (calls : List TransactionCall) :
    UndoEntry.AllInRange (transaction.run calls).engine (transaction.run calls).log := by
  induction calls generalizing transaction with
  | nil => exact h
  | cons call rest ih => exact ih ((perform_ranged transaction call).allInRange h)

/-- Rolling back now would find all positions, and leave an engine with the same rows as `others`,
which only tables that were created and dropped have led to. -/
structure Recoverable (others : Engine) (transaction : Transaction) : Prop where
  names : transaction.engine.NamesDiffer
  inRange : UndoEntry.AllInRange transaction.engine transaction.log
  restores : Engine.Related Table.SameRows others transaction.rollback

variable {others : Engine}

/-- A call adds changes that are undone before the others. -/
theorem Recoverable.call (h : transaction.Recoverable others) (call : TransactionCall) :
    (transaction.perform call).2.Recoverable others := by
  have hstep := perform_ranged transaction call
  have hrange := hstep.allInRange h.inRange
  generalize (transaction.perform call).2 = after at hstep hrange
  cases hstep with
  | unchanged => exact h
  | changed found schema undone ranged =>
    rename_i database name old new changes
    have hname : new.schema.name = name := schema ▸ Engine.name_of_table found
    subst hname
    refine ⟨?_, hrange, ?_⟩
    · exact h.names.of_related Table.SameSchema.name
        (Engine.related_putTable Table.SameSchema.refl Table.SameSchema.name found schema)
    · exact h.restores.trans Table.undoStable_sameRows.trans
        (related_rollback_record Table.undoStable_sameRows found rfl ⟨schema, undone⟩)

/-- Creating or dropping a table takes the entries of the log along. -/
theorem Recoverable.reshape (h : transaction.Recoverable others) {reshaping : Reshaping}
    (hspares : ∀ after, transaction.engine.reshaped? reshaping = .ok after →
      ∀ entry ∈ transaction.log, reshaping.Spares entry) :
    (transaction.step (.reshape reshaping)).Recoverable (others.reshaped reshaping) := by
  -- whether a table can be created or dropped is a matter of schemas, and these are the same in
  -- the engine of the transaction, after rolling it back, and in the other engine
  have hnow : Engine.Related Table.SameSchema transaction.engine transaction.rollback :=
    (sameCounter_undo transaction.log transaction.engine).imp fun _ _ hpair =>
      ⟨hpair.1, hpair.2.imp fun _ _ hsame => hsame.1⟩
  have hothers := h.restores.reshaped?_cases Table.undoStable_sameRows.refl
    Table.undoStable_sameRows.name reshaping
  simp only [step, Engine.reshaped]
  rcases hnow.reshaped?_cases Table.SameSchema.refl Table.SameSchema.name reshaping with
    ⟨error, hengine, hrollback⟩ | ⟨after, _, hafter, -, -⟩
  · rcases hothers with ⟨_, hother, -⟩ | ⟨_, _, -, hother, -⟩
    · rw [hengine, hother]
      exact h
    · rw [hrollback] at hother
      cases hother
  · obtain ⟨hundo, hrange⟩ :=
      UndoEntry.undo_log_reshaped h.names hafter (hspares after hafter)
    rcases hothers with ⟨_, -, hother⟩ | ⟨others', rollback', hothers', hother, hrelated⟩
    · rw [rollback, hundo] at hother
      cases hother
    · rw [rollback, hundo, Except.ok.injEq] at hother
      subst hother
      rw [hafter, hothers']
      exact ⟨h.names.reshaped? hafter, hrange h.inRange, hrelated⟩

/-- Steps keep a transaction recoverable as long as no table is created under a name that is on the
log. -/
theorem Recoverable.interleaved (h : transaction.Recoverable others) {steps : List OpenStep}
    (hapart : transaction.CreatesApart steps) :
    (transaction.interleaved steps).Recoverable (others.reshapedBy steps) := by
  induction steps generalizing transaction others with
  | nil => exact h
  | cons step rest ih =>
    cases step with
    | call call => exact ih (h.call call) hapart
    | reshape reshaping => exact ih (h.reshape hapart.1) hapart.2

/-- Let a transaction begin on an engine whose databases have no two tables of one name, and let
tables be created and dropped between its calls, but none be created under a name that is on the log
at that time. Then every change of the log that is undone on rolling back finds the position that it
has noted. What is left are the tables that there would be without the calls: the dropped ones are
gone, the created ones are empty, and all others have the rows of the beginning. -/
theorem rollback_reshaped {engine : Engine} (hnames : engine.NamesDiffer) {steps : List OpenStep}
    (hapart : (begin engine).CreatesApart steps) :
    UndoEntry.AllInRange ((begin engine).interleaved steps).engine
        ((begin engine).interleaved steps).log ∧
      Engine.Related Table.SameRows (engine.reshapedBy steps)
        ((begin engine).interleaved steps).rollback := by
  have hbegin : (begin engine).Recoverable engine :=
    ⟨hnames, trivial, Engine.Related.refl Table.undoStable_sameRows.refl engine⟩
  have hend := hbegin.interleaved hapart
  exact ⟨hend.inRange, hend.restores⟩

end Transaction

/-! ### A hotel -/

/-- The description of the guests. -/
def guestSpec : TableSpec := ⟨"guests", guestSchema.columns.map (·.toColumnSpec)⟩

/-- All guests leave, a table of parcels is created, a guest comes, and the table of parcels is
dropped and created anew. -/
def guestSteps : List OpenStep :=
  [.call (.delete ⟨guestSchema, [guestId], none, .scan guestSchema [guestId] none⟩),
    .reshape (.create "hotel" ⟨"parcels", []⟩),
    .call (.insert ⟨"hotel", "guests", [(guestName, .text "Bob")]⟩),
    .reshape (.drop "hotel" "parcels"),
    .reshape (.create "hotel" ⟨"parcels", []⟩)]

/-- The guest who was there is back, and the table of parcels has stayed. -/
theorem Transaction.rollback_reshaped_guests :
    let before := guestEngine [[.int 1, .text "Ann", .int 2]] 2
    let after := ((begin before).interleaved guestSteps).rollback
    before.NamesDiffer ∧ (begin before).CreatesApart guestSteps ∧
      Engine.Related Table.SameRows (before.reshapedBy guestSteps) after ∧
      after.table "hotel" "guests" = .ok ⟨guestSchema, [[.int 1, .text "Ann", .int 2]], 3⟩ ∧
      after.table "hotel" "parcels" = .ok (.empty ⟨"hotel", "parcels", []⟩) := by
  intro before after
  have hnames : before.NamesDiffer :=
    List.forall_mem_singleton.mpr (List.nodup_singleton _)
  have hapart : (begin before).CreatesApart guestSteps := by decide +kernel
  obtain ⟨-, hrows⟩ := rollback_reshaped hnames hapart
  exact ⟨hnames, hapart, hrows, by decide +kernel, by decide +kernel⟩

/-- A guest who has left comes back into a table that was created after that, and rolling back an
arrival looks in the new table for a row that is not there. -/
theorem Transaction.rollback_misled_guests :
    let before := guestEngine [[.int 1, .text "Ann", .int 2]] 2
    let renewed : List OpenStep :=
      [.reshape (.drop "hotel" "guests"), .reshape (.create "hotel" guestSpec)]
    let left := (begin before).interleaved
      (.call (.delete ⟨guestSchema, [guestId], none, .scan guestSchema [guestId] none⟩) :: renewed)
    let arrived := (begin before).interleaved
      (.call (.insert ⟨"hotel", "guests", [(guestName, .text "Bob")]⟩) :: renewed)
    left.engine.table "hotel" "guests" = .ok (.empty guestSchema) ∧
      left.rollback.table "hotel" "guests" =
        .ok ⟨guestSchema, [[.int 1, .text "Ann", .int 2]], 1⟩ ∧
      ¬ UndoEntry.AllInRange arrived.engine arrived.log := by
  intro before renewed left arrived
  refine ⟨by decide +kernel, by decide +kernel, fun h => ?_⟩
  have hposition : 1 < 0 := h.1 (.empty guestSchema) rfl
  exact absurd hposition (Nat.not_lt_zero 1)

end Tabula
