import Tabula.Proofs.Engine.SetUp
import Tabula.Proofs.Table.Keys
import Tabula.Proofs.Transaction.Numbers

/-!
# Different keys through transactions

The keys of the rows of a table stay different under all insertions and deletions, and when a
transaction is rolled back. They stay so under an update exactly if it takes no key of another row.
What holds of an engine, is a matter of the rows and is kept by every call holds throughout
transactions.
-/

namespace Tabula

/-- The keys of the rows differ in every table that has a primary key. -/
def Engine.KeysDiffer (engine : Engine) : Prop :=
  engine.ForAllTables fun _ table => table.schema.primaryKey ≠ [] → table.KeysDiffer

/-- The keys differ in a sound engine. -/
theorem Engine.Sound.keysDiffer {engine : Engine} (h : engine.Sound) : engine.KeysDiffer :=
  fun database hdatabase table htable => (h database hdatabase table htable).2.keys

namespace TransactionCall

/-- The call does not give the row that it updates a key that another row has. -/
def TakesNoKey (engine : Engine) : TransactionCall → Prop
  | .update statement =>
    ∀ table, engine.table statement.database statement.table = .ok table →
      ∀ position ∈ table.find? ⟨[statement.keyValue]⟩, table.TakesNoKey position statement.values
  | _ => True

/-- Whether a call takes a key can be decided by carrying it out. -/
instance decidableTakesNoKey (engine : Engine) :
    (call : TransactionCall) → Decidable (call.TakesNoKey engine)
  | .update _ => inferInstanceAs (Decidable (∀ _, _ → _))
  | .insert _ | .delete _ => isTrue trivial

/-- The call inserts a row with the key of a row that is there. -/
def RepeatsKey (engine : Engine) : TransactionCall → Prop
  | .insert statement =>
    ∃ table, engine.table statement.database statement.table = .ok table ∧
      table.RepeatsKey statement.values
  | _ => False

end TransactionCall

namespace Transaction

/-- The call fails with an error of execution. It changes no row and puts nothing on the log, and it
changes nothing at all if the numbers of all rows are below the counters. -/
structure Refuses (transaction : Transaction) (call : TransactionCall) : Prop where
  failed : ∃ error, (transaction.perform call).1 = .error error ∧ error.report.kind = .execution
  rows : Engine.Related Table.SameRows transaction.engine (transaction.perform call).2.engine
  log : (transaction.perform call).2.log = transaction.log
  unchanged : transaction.engine.IdsBelow → (transaction.perform call).2 = transaction

variable {transaction : Transaction} {call : TransactionCall}

/-! ### Calls -/

/-- An insertion that would repeat a key is refused. -/
theorem refuses_of_repeatsKey (h : transaction.engine.Sound)
    (hrepeats : call.RepeatsKey transaction.engine) : transaction.Refuses call := by
  cases call with
  | update statement => exact hrepeats.elim
  | delete plan => exact hrepeats.elim
  | insert statement =>
    obtain ⟨table, hfound, hrepeats⟩ := hrepeats
    obtain ⟨supplied, error, hsupplied, hinsert, hkind⟩ := Table.insert_of_repeatsKey hrepeats
    have hcase : transaction.perform (.insert statement) = (.error error,
        transaction.record statement.database
          { table with nextId := (table.drafted supplied).2 } []) := by
      simp only [perform, Transaction.insert, hfound, hinsert]
      rfl
    have herror : (transaction.perform (.insert statement)).1 = .error error := by rw [hcase]
    obtain ⟨hrows, hlog⟩ := perform_error herror
    refine ⟨⟨error, herror, hkind⟩, hrows, hlog, fun hids => ?_⟩
    obtain ⟨-, other, hother, row, hrow, hsame⟩ := hrepeats
    rw [hsupplied, Except.ok.injEq] at hother
    subst hother
    have hcounter := Table.snd_drafted_of_repeated (h.of_table hfound).2 (hids.of_table hfound)
      hsupplied hrow hsame
    rw [hcase, hcounter]
    simp only [record, Engine.putTable_self hfound, List.map_nil, List.nil_append]

/-- A call that takes no key keeps an engine sound. -/
theorem sound_perform (h : transaction.engine.Sound)
    (hfree : call.TakesNoKey transaction.engine) : (transaction.perform call).2.engine.Sound := by
  cases call with
  | insert statement => exact (@integrity_perform transaction (.insert statement) h trivial).1
  | delete plan => exact (@integrity_perform transaction (.delete plan) h trivial).1
  | update statement =>
    simp only [perform]
    rcases transaction.update_cases statement with
      ⟨_, hcase⟩ | ⟨table, position, old, after, hfound, hposition, hupdate, hcase⟩ <;> rw [hcase]
    · exact h
    · obtain ⟨hdatabase, hsound⟩ := h.of_table hfound
      refine Engine.ForAllTables.putTable h
        ⟨(congrArg TableSchema.database (Table.update_schema hupdate)).trans hdatabase, ?_⟩
      refine hsound.update_of_keysDiffer hupdate fun hkey => ?_
      exact (Table.keysDiffer_update_iff (hsound.keys hkey) hupdate).mpr
        (hfree table hfound position hposition)

/-- The keys differ after a call exactly if it takes no key. -/
theorem keysDiffer_perform_iff (h : transaction.engine.Sound) :
    (transaction.perform call).2.engine.KeysDiffer ↔ call.TakesNoKey transaction.engine := by
  refine ⟨fun hafter => ?_, fun hfree => (sound_perform h hfree).keysDiffer⟩
  cases call with
  | insert statement => trivial
  | delete plan => trivial
  | update statement =>
    intro table hfound position hposition
    cases hupdate : table.update position statement.values with
    | error error =>
      intro changed hchanged
      rw [hupdate] at hchanged
      cases hchanged
    | ok changed =>
      have hkey := Table.primaryKey_ne_nil_of_find? hposition
      have hcase : (transaction.perform (.update statement)).2 =
          transaction.record statement.database changed.2 [.updated position changed.1] := by
        rw [Option.mem_def] at hposition
        simp only [perform, Transaction.update, hfound, hposition, hupdate]
      have hschema := Table.update_schema hupdate
      have hname : changed.2.schema.name = statement.table :=
        (congrArg TableSchema.name hschema).trans (Engine.name_of_table hfound)
      rw [hcase] at hafter
      have hdiffer := hafter.of_table (Engine.table_putTable_self hfound hname) (hschema ▸ hkey)
      exact (Table.keysDiffer_update_iff ((h.of_table hfound).2.keys hkey) hupdate).mp hdiffer

end Transaction

/-! ### Transactions -/

section Through

variable {P : Engine → Prop} {Q : Transaction × TransactionCall → Prop}

/-- What every call keeps holds at all moments of calls, and after them. -/
theorem Transaction.holds_moments
    (hcall : ∀ transaction call, P transaction.engine → Q (transaction, call) →
      P (transaction.perform call).2.engine)
    {transaction : Transaction} (h : P transaction.engine) {calls : List TransactionCall}
    (hQ : ∀ moment ∈ transaction.moments calls, Q moment) :
    (∀ moment ∈ transaction.moments calls, P moment.1.engine) ∧
      P (transaction.run calls).engine := by
  induction calls generalizing transaction with
  | nil => exact ⟨List.forall_mem_nil _, h⟩
  | cons call rest ih =>
    obtain ⟨hfirst, hrest⟩ := List.forall_mem_cons.mp hQ
    obtain ⟨hmoments, hafter⟩ := ih (hcall transaction call h hfirst) hrest
    exact ⟨List.forall_mem_cons.mpr ⟨h, hmoments⟩, hafter⟩

/-- What is a matter of the rows and kept by every call holds at all moments of transactions, and
after them, whether they are committed or rolled back. -/
theorem Engine.holds_history
    (hrows : ∀ before after, Related Table.SameRows before after → P before → P after)
    (hcall : ∀ transaction call, P transaction.engine → Q (transaction, call) →
      P (transaction.perform call).2.engine)
    {start : Engine} (h : P start) {scripts : List TransactionScript}
    (hQ : ∀ moment ∈ start.history scripts, Q moment) :
    (∀ moment ∈ start.history scripts, P moment.1.engine) ∧
      P (scripts.foldl Engine.afterScript start) := by
  induction scripts generalizing start with
  | nil => exact ⟨List.forall_mem_nil _, h⟩
  | cons script rest ih =>
    obtain ⟨hscript, hrest⟩ := List.forall_mem_append.mp hQ
    have hbegin : P (Transaction.begin start).engine :=
      hrows start _ (Related.refl Table.undoStable_sameRows.refl start) h
    obtain ⟨hmoments, hend⟩ := Transaction.holds_moments hcall hbegin hscript
    have hafter : P (start.afterScript script) := by
      rw [afterScript]
      split
      · exact hend
      · exact hrows start _ (Transaction.sameRows_rollback_run (.begin start) script.calls) h
    obtain ⟨hlater, hlast⟩ := ih hafter hrest
    exact ⟨List.forall_mem_append.mpr ⟨hmoments, hlater⟩, hlast⟩

end Through

/-- Let an engine have been set up, and let there be transactions of any calls, committed or rolled
back, in which no update takes a key. Then the keys of the rows differ in every table that has a
primary key, before and after every call and when all transactions have ended. An insertion that
would repeat a key is refused. -/
theorem Engine.keys_differ {start : Engine} (hstart : start.SetUp)
    {scripts : List TransactionScript}
    (hfree : ∀ moment ∈ start.history scripts, moment.2.TakesNoKey moment.1.engine) :
    (∀ moment ∈ start.history scripts, moment.1.engine.KeysDiffer ∧
      (moment.1.perform moment.2).2.engine.KeysDiffer ∧
      (moment.2.RepeatsKey moment.1.engine → moment.1.Refuses moment.2)) ∧
    (scripts.foldl Engine.afterScript start).KeysDiffer := by
  obtain ⟨hsound, hend⟩ := holds_history (fun _ _ hrel h => Sound.of_sameRows h hrel)
    (fun _ _ h hcall => Transaction.sound_perform h hcall) hstart.sound hfree
  refine ⟨fun moment hmoment => ?_, hend.keysDiffer⟩
  have hmomentSound := hsound moment hmoment
  exact ⟨hmomentSound.keysDiffer,
    (Transaction.sound_perform hmomentSound (hfree moment hmoment)).keysDiffer,
    Transaction.refuses_of_repeatsKey hmomentSound⟩

/-! ### A hotel -/

/-- Two guests come, the second of them moves to another number, and one with the number of the
first is refused. That the second moves back is rolled back. -/
def guestMoves : List TransactionScript :=
  [⟨[.insert ⟨"hotel", "guests", [(guestName, .text "Ann")]⟩,
      .insert ⟨"hotel", "guests", [(guestName, .text "Bob")]⟩,
      .update ⟨"hotel", "guests", guestId, .int 2, [(guestId, .int 7)]⟩,
      .insert ⟨"hotel", "guests", [(guestId, .int 1), (guestName, .text "Cleo")]⟩], true⟩,
    ⟨[.update ⟨"hotel", "guests", guestId, .int 7, [(guestId, .int 2)]⟩], false⟩]

/-- The guests have different numbers all the time. -/
theorem Engine.keys_differ_guests :
    let scripts := guestMoves
    (guestEngine [] 1).SetUp ∧
      (∀ moment ∈ (guestEngine [] 1).history scripts, moment.2.TakesNoKey moment.1.engine) ∧
      (∀ moment ∈ (guestEngine [] 1).history scripts, moment.1.engine.KeysDiffer) ∧
      (scripts.foldl Engine.afterScript (guestEngine [] 1)).KeysDiffer := by
  intro scripts
  have hfree : ∀ moment ∈ (guestEngine [] 1).history scripts,
      moment.2.TakesNoKey moment.1.engine := by decide +kernel
  obtain ⟨hmoments, hend⟩ := keys_differ setUp_guestEngine hfree
  exact ⟨setUp_guestEngine, hfree, fun moment hmoment => (hmoments moment hmoment).1, hend⟩

/-- An update gives the second guest the number of the first. -/
theorem Engine.keys_taken_guests :
    let arrivals : TransactionScript :=
      ⟨[.insert ⟨"hotel", "guests", [(guestName, .text "Ann")]⟩,
        .insert ⟨"hotel", "guests", [(guestName, .text "Bob")]⟩], true⟩
    let move : TransactionCall :=
      .update ⟨"hotel", "guests", guestId, .int 2, [(guestId, .int 1)]⟩
    let before := (guestEngine [] 1).afterScript arrivals
    (guestEngine [] 1).SetUp ∧
      ((Transaction.begin before).perform move).1 = .ok [⟨[.int 2]⟩] ∧
      ¬ (before.afterScript ⟨[move], true⟩).KeysDiffer := by
  intro arrivals move before
  have hfound : (before.afterScript ⟨[move], true⟩).table "hotel" "guests" =
      .ok ⟨guestSchema, [[.int 1, .text "Ann", .int 1], [.int 1, .text "Bob", .int 1]], 3⟩ := by
    decide +kernel
  refine ⟨setUp_guestEngine, by decide +kernel, fun hdiffer => ?_⟩
  have hkeys := hdiffer.of_table hfound (by decide)
  exact absurd (hkeys 0 1 (by decide) (by decide) (by decide)) (by decide)

end Tabula
