import Tabula.Proofs.Table.Numbers
import Tabula.Proofs.Transaction.Rollback

/-!
# Numbers through transactions

A table generates numbers that are greater than all that have been used up before, generated or
given, in whatever transactions, whether or not their rows are still there. The counter carries
this through: it is above all numbers that have been used up, it never moves down, and rolling back
restores the rows but leaves the counter where it is.
-/

namespace Tabula

/-- A whole transaction: its calls, and whether it is committed at their end or rolled back. -/
structure TransactionScript where
  calls : List TransactionCall
  commits : Bool

namespace TransactionCall

/-- The values of an insertion into the table of a schema. -/
def newIn? (schema : TableSchema) : TransactionCall → Option (List (ColumnRef × Value))
  | .insert statement =>
    if statement.database = schema.database ∧ statement.table = schema.name then
      some statement.values
    else none
  | _ => none

/-- The call does not write the key of rows in the table of a schema. -/
def LeavesKey (schema : TableSchema) : TransactionCall → Prop
  | .update statement =>
    statement.database = schema.database → statement.table = schema.name →
      schema.OffKey statement.values
  | _ => True

end TransactionCall

namespace Transaction

/-- The states in which calls are carried out one after the other, each with its call. -/
def moments (transaction : Transaction) :
    List TransactionCall → List (Transaction × TransactionCall)
  | [] => []
  | call :: rest => (transaction, call) :: (transaction.perform call).2.moments rest

/-- The number that a call uses up in a column of the table of a schema. -/
def numberUse? (schema : TableSchema) (column : Column) (moment : Transaction × TransactionCall) :
    Option NumberUse :=
  match moment.1.engine.table schema.database schema.name with
  | .ok table => (moment.2.newIn? schema).bind (table.numberUse? column)
  | .error _ => none

/-- The numbers that calls use up, in their order. -/
def numberUses (schema : TableSchema) (column : Column)
    (moments : List (Transaction × TransactionCall)) : List NumberUse :=
  moments.filterMap (numberUse? schema column)

end Transaction

namespace Engine

/-- The engine after a whole transaction. -/
def afterScript (engine : Engine) (script : TransactionScript) : Engine :=
  let transaction := (Transaction.begin engine).run script.calls
  if script.commits then transaction.commit else transaction.rollback

/-- The states in which the calls of transactions are carried out one after the other, each with
its call. -/
def history (engine : Engine) : List TransactionScript → List (Transaction × TransactionCall)
  | [] => []
  | script :: rest =>
    (Transaction.begin engine).moments script.calls ++ (engine.afterScript script).history rest

end Engine

/-! ### One table in a call -/

/-- What a call can do to the table of a schema: it carries out an insertion there, whether or not
that succeeds, or an update, or it leaves a part of the rows. -/
inductive Table.CallEffect (schema : TableSchema) (table : Table) (call : TransactionCall) :
    Table → Prop
  | inserted {values : List (ColumnRef × Value)} (new : call.newIn? schema = some values) :
      CallEffect schema table call (table.insert values).2
  | updated {statement : UpdateStatement} {position : Nat} {old : Row} {after : Table}
      (own : call = .update statement) (database : statement.database = schema.database)
      (name : statement.table = schema.name)
      (accepted : table.update position statement.values = .ok (old, after)) :
      CallEffect schema table call after
  | left {rows : List Row} (other : call.newIn? schema = none) (part : rows.Sublist table.rows) :
      CallEffect schema table call { table with rows := rows }

namespace Transaction

variable {transaction : Transaction} {schema : TableSchema} {table : Table}

/-- Noting a changed table puts it in the place of the table of a schema, or leaves that as it
is. -/
theorem table_record (hfound : transaction.engine.table schema.database schema.name = .ok table)
    {database name : String} {own new : Table}
    (howned : transaction.engine.table database name = .ok own) (hschema : new.schema = own.schema)
    (changes : List RowChange) :
    (database = schema.database ∧ name = schema.name ∧ own = table ∧
      (transaction.record database new changes).engine.table schema.database schema.name =
        .ok new) ∨
    ¬ (database = schema.database ∧ name = schema.name) ∧
      (transaction.record database new changes).engine.table schema.database schema.name =
        .ok table := by
  have hname : new.schema.name = name := hschema ▸ Engine.name_of_table howned
  by_cases hown : database = schema.database ∧ name = schema.name
  · obtain ⟨rfl, rfl⟩ := hown
    rw [hfound, Except.ok.injEq] at howned
    exact Or.inl ⟨rfl, rfl, howned.symm, Engine.table_putTable_self hfound hname⟩
  · refine Or.inr ⟨hown, (Engine.table_putTable_of_ne fun heq => hown ?_).trans hfound⟩
    rw [hname, Prod.mk.injEq] at heq
    exact ⟨heq.1.symm, heq.2.symm⟩

/-- The effect of an insertion, whether or not it succeeds. -/
theorem table_insert (hfound : transaction.engine.table schema.database schema.name = .ok table)
    (statement : InsertStatement) :
    ∃ after, (transaction.insert statement).2.engine.table schema.database schema.name = .ok after ∧
      table.CallEffect schema (.insert statement) after := by
  rcases transaction.insert_cases statement with
    ⟨error, herror, hcase⟩ | ⟨own, after, howned, hcases⟩
  · have hother : (TransactionCall.insert statement).newIn? schema = none := by
      refine if_neg fun hown => ?_
      rw [hown.1, hown.2, hfound] at herror
      cases herror
    rw [hcase]
    exact ⟨table, hfound, .left hother (List.Sublist.refl table.rows)⟩
  · have hafter : after = (own.insert statement.values).2 := by
      rcases hcases with ⟨_, hinsert, -⟩ | ⟨_, hinsert, -⟩ <;> rw [hinsert]
    have hrecord : ∃ changes, (transaction.insert statement).2 =
        transaction.record statement.database after changes := by
      rcases hcases with ⟨_, -, hcase⟩ | ⟨_, -, hcase⟩ <;> exact ⟨_, by rw [hcase]⟩
    obtain ⟨changes, hrecord⟩ := hrecord
    have hschema := own.insert_schema statement.values
    rw [hrecord, hafter]
    rcases table_record hfound howned hschema changes with
      ⟨hdatabase, hname, rfl, hnew⟩ | ⟨hother, hsame⟩
    · exact ⟨_, hnew, .inserted (if_pos ⟨hdatabase, hname⟩)⟩
    · exact ⟨table, hsame, .left (if_neg hother) (List.Sublist.refl table.rows)⟩

/-- The effect of an update, whether or not it succeeds. -/
theorem table_update (hfound : transaction.engine.table schema.database schema.name = .ok table)
    (statement : UpdateStatement) :
    ∃ after, (transaction.update statement).2.engine.table schema.database schema.name = .ok after ∧
      table.CallEffect schema (.update statement) after := by
  have hunchanged : table.CallEffect schema (.update statement) table :=
    .left rfl (List.Sublist.refl table.rows)
  rcases transaction.update_cases statement with
    ⟨error, hcase⟩ | ⟨own, position, old, after, howned, -, hupdate, hcase⟩ <;> rw [hcase]
  · exact ⟨table, hfound, hunchanged⟩
  · have hschema := Table.update_schema hupdate
    rcases table_record hfound howned hschema [.updated position old] with
      ⟨hdatabase, hname, rfl, hnew⟩ | ⟨-, hsame⟩
    · exact ⟨after, hnew, .updated rfl hdatabase hname hupdate⟩
    · exact ⟨table, hsame, hunchanged⟩

/-- The effect of a deletion, whether or not it succeeds. -/
theorem table_delete (hfound : transaction.engine.table schema.database schema.name = .ok table)
    (plan : DeletePlan) :
    ∃ after, (transaction.delete plan).2.engine.table schema.database schema.name = .ok after ∧
      table.CallEffect schema (.delete plan) after := by
  have hunchanged : table.CallEffect schema (.delete plan) table :=
    .left rfl (List.Sublist.refl table.rows)
  rcases transaction.delete_cases plan with
    ⟨error, hcase⟩ | ⟨rows, own, -, howned, hcase⟩ <;> rw [hcase]
  · exact ⟨table, hfound, hunchanged⟩
  · obtain ⟨left, added, hremove, hsublist, -⟩ :=
      own.removeRows_eq [] (own.positionsOf (rows.map RowKey.mk))
    rw [hremove]
    rcases @table_record transaction schema table hfound _ _ own { own with rows := left } howned rfl
      (added ++ []) with ⟨-, -, rfl, hnew⟩ | ⟨-, hsame⟩
    · exact ⟨_, hnew, .left rfl hsublist⟩
    · exact ⟨table, hsame, hunchanged⟩

/-- A call has one of these effects on a table. -/
theorem table_perform (hfound : transaction.engine.table schema.database schema.name = .ok table)
    (call : TransactionCall) :
    ∃ after,
      (transaction.perform call).2.engine.table schema.database schema.name = .ok after ∧
        table.CallEffect schema call after := by
  cases call with
  | insert statement => exact table_insert hfound statement
  | update statement => exact table_update hfound statement
  | delete plan => exact table_delete hfound plan

end Transaction

/-! ### What a call preserves -/

/-- The table of a schema, sound and with the numbers of its rows below the counter, which is also
above all numbers that have been used up. Those that were generated are greater than all before
them. -/
structure Table.CountsFor (schema : TableSchema) (uses : List NumberUse) (table : Table) :
    Prop where
  schema : table.schema = schema
  sound : table.Sound
  idsBelow : table.IdsBelow
  below : ∀ use ∈ uses, use.id < table.nextId
  fresh : uses.Pairwise NumberUse.Before

/-- The engine has such a table. -/
def Engine.CountsFor (schema : TableSchema) (uses : List NumberUse) (engine : Engine) : Prop :=
  ∃ table, engine.table schema.database schema.name = .ok table ∧ table.CountsFor schema uses

namespace Table

variable {schema : TableSchema} {column : Column} {uses : List NumberUse} {table after : Table}
  {call : TransactionCall}

/-- What has been used up earlier may be forgotten. -/
theorem CountsFor.forget (h : table.CountsFor schema uses) : table.CountsFor schema [] :=
  ⟨h.schema, h.sound, h.idsBelow, by simp, List.Pairwise.nil⟩

/-- An insertion uses up one number more, if any, and the counter moves above it. -/
theorem CountsFor.insert (h : table.CountsFor schema uses) (hcolumn : column ∈ schema.columns)
    (hauto : column.isAutoIncrement = true) {values : List (ColumnRef × Value)}
    (hmax : ∀ use ∈ table.numberUse? column values, use.id ≠ Int64.maxValue) :
    (table.insert values).2.CountsFor schema (uses ++ (table.numberUse? column values).toList) ∧
      table.nextId ≤ (table.insert values).2.nextId := by
  obtain ⟨rfl, hsound, hids, hbelow, hfresh⟩ := h
  have hcounts := countsOn_of_forall_ne hsound.lawful hcolumn hauto hmax
  have hle := le_insert hcounts
  refine ⟨⟨table.insert_schema values, hsound.insert values, hids.insert hsound.lawful hcounts,
    fun use huse => ?_, ?_⟩, hle⟩
  · rcases List.mem_append.mp huse with hold | hnew
    · exact Int64.lt_of_lt_of_le (hbelow use hold) hle
    · exact lt_insert_of_numberUse? hsound.lawful hcolumn hauto hcounts (Option.mem_toList.mp hnew)
  · refine List.pairwise_append.mpr ⟨hfresh, ?_, fun earlier hearlier later hlater id hid => ?_⟩
    · cases table.numberUse? column values with
      | none => exact List.Pairwise.nil
      | some use => exact List.pairwise_singleton _ use
    · -- what is generated is the counter, and that is above all that came before
      rw [Option.mem_toList, hid] at hlater
      rw [eq_nextId_of_generated hsound.lawful hcolumn hauto hlater]
      exact hbelow earlier hearlier

/-- A call uses up one number more, if any, and does not move the counter down. -/
theorem CallEffect.countsFor (heffect : table.CallEffect schema call after)
    (h : table.CountsFor schema uses) (hcolumn : column ∈ schema.columns)
    (hauto : column.isAutoIncrement = true) (hkeys : call.LeavesKey schema)
    (hmax : ∀ use ∈ (call.newIn? schema).bind (table.numberUse? column),
      use.id ≠ Int64.maxValue) :
    after.CountsFor schema
        (uses ++ ((call.newIn? schema).bind (table.numberUse? column)).toList) ∧
      table.nextId ≤ after.nextId := by
  cases heffect with
  | inserted new =>
    rw [new, Option.bind_some] at hmax ⊢
    exact h.insert hcolumn hauto hmax
  | updated own database name accepted =>
    subst own
    obtain ⟨rfl, hsound, hids, hbelow, hfresh⟩ := h
    have hoff := hkeys database name
    have hsound' := hsound.update hoff accepted
    have hids' := hids.update hsound.lawful hoff accepted
    obtain ⟨-, _, -, -, rfl⟩ := update_eq_ok accepted
    refine ⟨⟨rfl, hsound', hids', ?_, ?_⟩, Int64.le_refl table.nextId⟩
    · simpa only [TransactionCall.newIn?, Option.bind_none, Option.toList_none,
        List.append_nil] using hbelow
    · simpa only [TransactionCall.newIn?, Option.bind_none, Option.toList_none,
        List.append_nil] using hfresh
  | left other part =>
    rw [other, Option.bind_none, Option.toList_none, List.append_nil]
    obtain ⟨rfl, hsound, hids, hbelow, hfresh⟩ := h
    exact ⟨⟨rfl, hsound.sublist part, hids.sublist part, hbelow, hfresh⟩,
      Int64.le_refl table.nextId⟩

end Table

/-! ### Rolling back -/

namespace Transaction

variable {schema : TableSchema} {column : Column} {uses : List NumberUse} {table after : Table}
  {transaction : Transaction} {calls : List TransactionCall}

/-- Rolling back gives a table its rows back and leaves its counter where it is. -/
theorem table_rollback {engine : Engine} {database name : String}
    (hbefore : engine.table database name = .ok table)
    (hafter : ((begin engine).run calls).engine.table database name = .ok after) :
    ((begin engine).run calls).rollback.table database name =
      .ok { table with nextId := after.nextId } := by
  have hrows : Engine.Related Table.SameRows engine ((begin engine).run calls).rollback :=
    sameRows_rollback_run (begin engine) calls
  have hcounter : Engine.Related Table.SameCounter ((begin engine).run calls).engine
      ((begin engine).run calls).rollback := sameCounter_undo _ _
  rcases hrows.table_cases Table.undoStable_sameRows.name database name with
    ⟨error, herror, -⟩ | ⟨old, new, hold, hnew, hschema, hsame⟩
  · rw [hbefore] at herror
    cases herror
  rcases hcounter.table_cases (fun _ _ h => by rw [h.1]) database name with
    ⟨error, herror, -⟩ | ⟨last, found, hlast, hfound, -, hnext⟩
  · rw [hafter] at herror
    cases herror
  rw [hbefore, Except.ok.injEq] at hold
  rw [hafter, Except.ok.injEq] at hlast
  rw [hnew, Except.ok.injEq] at hfound
  subst hold hlast hfound
  rw [hnew, ← hschema, ← hsame, ← hnext]

/-! ### What transactions preserve -/

/-- What a call uses up depends on the table that it finds. -/
theorem numberUse?_of_table
    (hfound : transaction.engine.table schema.database schema.name = .ok table)
    (call : TransactionCall) :
    numberUse? schema column (transaction, call) =
      (call.newIn? schema).bind (table.numberUse? column) := by
  simp only [numberUse?, hfound]

/-- The numbers used up at one moment come before those used up later. -/
theorem numberUses_cons (schema : TableSchema) (column : Column)
    (moment : Transaction × TransactionCall) (rest : List (Transaction × TransactionCall)) :
    numberUses schema column (moment :: rest) =
      (numberUse? schema column moment).toList ++ numberUses schema column rest := by
  cases h : numberUse? schema column moment <;> simp [numberUses, h]

/-- Calls use up numbers one after the other, none of them a second time, and do not move the
counter down. -/
theorem countsFor_run (hfound : transaction.engine.table schema.database schema.name = .ok table)
    (h : table.CountsFor schema uses) (hcolumn : column ∈ schema.columns)
    (hauto : column.isAutoIncrement = true) (hkeys : ∀ call ∈ calls, call.LeavesKey schema)
    (hmax : ∀ use ∈ numberUses schema column (transaction.moments calls),
      use.id ≠ Int64.maxValue) :
    (∃ after,
      (transaction.run calls).engine.table schema.database schema.name = .ok after ∧
        after.CountsFor schema (uses ++ numberUses schema column (transaction.moments calls)) ∧
        table.nextId ≤ after.nextId) ∧
      ∀ moment ∈ transaction.moments calls, moment.1.engine.CountsFor schema [] := by
  induction calls generalizing transaction table uses with
  | nil =>
    refine ⟨⟨table, hfound, ?_, Int64.le_refl table.nextId⟩, by simp [moments]⟩
    rw [moments, numberUses, List.filterMap_nil, List.append_nil]
    exact h
  | cons call rest ih =>
    rw [moments, numberUses_cons, numberUse?_of_table hfound] at hmax
    obtain ⟨hcall, hrest⟩ := List.forall_mem_append.mp hmax
    obtain ⟨next, hnext, heffect⟩ := table_perform hfound call
    obtain ⟨hcounts, hle⟩ := heffect.countsFor h hcolumn hauto (hkeys call List.mem_cons_self)
      fun use huse => hcall use (Option.mem_toList.mpr huse)
    obtain ⟨⟨after, hafter, hcounts', hle'⟩, hmoments⟩ := ih hnext hcounts
      (fun other hother => hkeys other (List.mem_cons_of_mem call hother)) hrest
    rw [moments, numberUses_cons, numberUse?_of_table hfound, ← List.append_assoc]
    refine ⟨⟨after, hafter, hcounts', Int64.le_trans hle hle'⟩, ?_⟩
    exact List.forall_mem_cons.mpr ⟨⟨table, hfound, h.forget⟩, hmoments⟩

end Transaction

namespace Engine

variable {schema : TableSchema} {column : Column} {uses : List NumberUse} {engine : Engine}

/-- A transaction uses up numbers, whether it is committed or rolled back. -/
theorem CountsFor.afterScript (h : engine.CountsFor schema uses) (hcolumn : column ∈ schema.columns)
    (hauto : column.isAutoIncrement = true) {script : TransactionScript}
    (hkeys : ∀ call ∈ script.calls, call.LeavesKey schema)
    (hmax : ∀ use ∈ Transaction.numberUses schema column
      ((Transaction.begin engine).moments script.calls), use.id ≠ Int64.maxValue) :
    (engine.afterScript script).CountsFor schema
        (uses ++ Transaction.numberUses schema column
          ((Transaction.begin engine).moments script.calls)) ∧
      ∀ moment ∈ (Transaction.begin engine).moments script.calls,
        moment.1.engine.CountsFor schema [] := by
  obtain ⟨table, hfound, hcounts⟩ := h
  obtain ⟨⟨after, hafter, hcounts', hle⟩, hmoments⟩ :=
    @Transaction.countsFor_run schema column uses table (.begin engine) script.calls hfound hcounts
      hcolumn hauto hkeys hmax
  refine ⟨?_, hmoments⟩
  rw [Engine.afterScript]
  split
  · exact ⟨after, hafter, hcounts'⟩
  · refine ⟨_, Transaction.table_rollback hfound hafter, hcounts.schema,
      ⟨hcounts.sound.lawful, hcounts.sound.fits, hcounts.sound.keys⟩, ?_, hcounts'.below,
      hcounts'.fresh⟩
    intro other hother hotherAuto row hrow id hid
    exact Int64.lt_of_lt_of_le (hcounts.idsBelow other hother hotherAuto row hrow id hid) hle

/-- Transactions use up numbers one after the other. -/
theorem CountsFor.history (h : engine.CountsFor schema uses) (hcolumn : column ∈ schema.columns)
    (hauto : column.isAutoIncrement = true) {scripts : List TransactionScript}
    (hkeys : ∀ script ∈ scripts, ∀ call ∈ script.calls, call.LeavesKey schema)
    (hmax : ∀ use ∈ Transaction.numberUses schema column (engine.history scripts),
      use.id ≠ Int64.maxValue) :
    (uses ++ Transaction.numberUses schema column (engine.history scripts)).Pairwise
        NumberUse.Before ∧
      ∀ moment ∈ engine.history scripts, moment.1.engine.CountsFor schema [] := by
  induction scripts generalizing engine uses with
  | nil =>
    obtain ⟨table, -, hcounts⟩ := h
    rw [Engine.history, Transaction.numberUses, List.filterMap_nil, List.append_nil]
    exact ⟨hcounts.fresh, by simp⟩
  | cons script rest ih =>
    rw [Engine.history, Transaction.numberUses, List.filterMap_append] at hmax
    obtain ⟨hscript, hrest⟩ := List.forall_mem_append.mp hmax
    obtain ⟨hcounts, hmoments⟩ :=
      h.afterScript hcolumn hauto (hkeys script List.mem_cons_self) hscript
    obtain ⟨hfresh, hlater⟩ :=
      ih hcounts (fun other hother => hkeys other (List.mem_cons_of_mem script hother)) hrest
    rw [Engine.history, Transaction.numberUses, List.filterMap_append, ← List.append_assoc]
    exact ⟨hfresh, List.forall_mem_append.mpr ⟨hmoments, hlater⟩⟩

/-- Let a table be new and have a numbered column, and let there be transactions of any calls,
committed or rolled back, that do not write the key of its rows when they update them. As long as no
number is the greatest word, every number that the table generates is greater than all numbers that
it has generated before, and than all that insertions have given, whether or not their rows were
accepted, deleted or rolled back since. The key of an accepted row is the number that its insertion
has used up, and an insertion that gives no number is never refused for its key. -/
theorem numbers_fresh {database : String} {spec : TableSpec}
    (hschema : TableSchema.ofSpec database spec = .ok schema)
    (hnew : engine.table schema.database schema.name = .ok (.empty schema))
    (hcolumn : column ∈ schema.columns) (hauto : column.isAutoIncrement = true)
    {scripts : List TransactionScript}
    (hkeys : ∀ script ∈ scripts, ∀ call ∈ script.calls, call.LeavesKey schema)
    (hmax : ∀ use ∈ Transaction.numberUses schema column (engine.history scripts),
      use.id ≠ Int64.maxValue) :
    (Transaction.numberUses schema column (engine.history scripts)).Pairwise NumberUse.Before ∧
      ∀ moment ∈ engine.history scripts, ∀ statement, moment.2 = .insert statement →
        statement.database = schema.database → statement.table = schema.name →
          (∀ key, (moment.1.insert statement).1 = .ok key →
            ∃ use, Transaction.numberUse? schema column moment = some use ∧
              key = ⟨[.int use.id]⟩) ∧
          ((∀ given ∈ statement.values, given.1.name ≠ column.name) →
            ∀ name key, (moment.1.insert statement).1 ≠ .error (.duplicateKey name key)) := by
  obtain ⟨hlawful, -, -⟩ := TableSchema.lawful_of_ofSpec hschema
  have hstart : engine.CountsFor schema [] := ⟨.empty schema, hnew, rfl, .empty hlawful,
    Table.IdsBelow.empty schema, by simp, List.Pairwise.nil⟩
  obtain ⟨hfresh, hmoments⟩ := hstart.history hcolumn hauto hkeys hmax
  refine ⟨hfresh, ?_⟩
  rintro ⟨transaction, call⟩ hmoment statement rfl hdatabase hname
  obtain ⟨table, hfound, rfl, hsound, hids, -, -⟩ := hmoments _ hmoment
  have hnewIn : (TransactionCall.insert statement).newIn? table.schema = some statement.values :=
    if_pos ⟨hdatabase, hname⟩
  rw [Transaction.numberUse?_of_table hfound, hnewIn, Option.bind_some]
  simp only at hfound ⊢
  rcases transaction.insert_cases statement with
    ⟨error, herror, -⟩ | ⟨own, after, howned, hcases⟩
  · rw [hdatabase, hname, hfound] at herror
    cases herror
  rw [hdatabase, hname, hfound, Except.ok.injEq] at howned
  subst howned
  rcases hcases with ⟨error, hinsert, hcase⟩ | ⟨position, hinsert, hcase⟩ <;> rw [hcase]
  · refine ⟨nofun, fun hfree name key hduplicate => ?_⟩
    have hrefused := Table.insert_ne_duplicateKey hsound hids hcolumn hauto hfree name key
    rw [hinsert] at hrefused
    cases hduplicate
    exact hrefused rfl
  · refine ⟨fun key hkey => ?_, fun _ name key => nofun⟩
    cases hkey
    exact Table.keyOf_of_insert hsound hcolumn hauto hinsert

end Engine

/-! ### A hotel -/

/-- The column of the numbers of guests. -/
def guestIdColumn : Column := ⟨⟨"id", .int, false, true, true, none, none⟩, 0⟩

/-- A guest comes. Of two more, one with a chosen number, the arrival is rolled back. The first one
changes the name, all leave, and again guests come with and without a chosen number. -/
def guestScripts : List TransactionScript :=
  [⟨[.insert ⟨"hotel", "guests", [(guestName, .text "Ann")]⟩], true⟩,
    ⟨[.insert ⟨"hotel", "guests", [(guestId, .int 5), (guestName, .text "Bob")]⟩,
      .insert ⟨"hotel", "guests", [(guestName, .text "Cleo")]⟩], false⟩,
    ⟨[.update ⟨"hotel", "guests", guestId, .int 1, [(guestName, .text "Eve")]⟩,
      .delete ⟨guestSchema, [guestId], none, .scan guestSchema [guestId] none⟩,
      .insert ⟨"hotel", "guests", [(guestId, .int 3), (guestName, .text "Dan")]⟩,
      .insert ⟨"hotel", "guests", [(guestName, .text "Fay")]⟩], true⟩]

/-- The last guest gets the number after those whose arrival was rolled back. -/
theorem Engine.numbers_fresh_guests :
    let uses := Transaction.numberUses guestSchema guestIdColumn
      ((guestEngine [] 1).history guestScripts)
    uses = [.generated 1, .given 5, .generated 6, .given 3, .generated 7] ∧
      uses.Pairwise NumberUse.Before := by
  intro uses
  have huses : uses = [.generated 1, .given 5, .generated 6, .given 3, .generated 7] := by
    decide +kernel
  have hschema : TableSchema.ofSpec "hotel"
      ⟨"guests", guestSchema.columns.map (·.toColumnSpec)⟩ = .ok guestSchema := rfl
  have hnew : (guestEngine [] 1).table guestSchema.database guestSchema.name =
      .ok (.empty guestSchema) := rfl
  have hoff : guestSchema.OffKey [(guestName, .text "Eve")] := by
    refine List.forall_mem_singleton.mpr fun column hfound => ?_
    cases hfound
    rfl
  have hkeys : ∀ script ∈ guestScripts, ∀ call ∈ script.calls, call.LeavesKey guestSchema := by
    simp only [guestScripts, List.forall_mem_cons]
    simp [TransactionCall.LeavesKey, hoff]
  have hmax : ∀ use ∈ uses, use.id ≠ Int64.maxValue := by
    rw [huses]
    decide
  have hcolumn : guestIdColumn ∈ guestSchema.columns := List.mem_cons_self
  obtain ⟨hfresh, -⟩ := numbers_fresh hschema hnew hcolumn rfl hkeys hmax
  exact ⟨huses, hfresh⟩

end Tabula
