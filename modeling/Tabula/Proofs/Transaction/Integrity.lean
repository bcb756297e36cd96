import Tabula.Proofs.Table.Integrity
import Tabula.Proofs.Transaction.Rollback

/-!
# Integrity through a transaction

An engine is sound if all its tables are, and every table is filed under the name of its database.
Insertions and deletions keep an engine sound whatever they are given, updates as long as they
write no column of a key. So does rolling back. The numbers of numbered columns stay below the
counters, unless one of these overflows.
-/

namespace Tabula

namespace Engine

/-- All tables are sound and know the database that they are in. -/
def Sound (engine : Engine) : Prop :=
  engine.ForAllTables fun database table => table.schema.database = database ∧ table.Sound

/-- In all tables the numbers are below the next one. -/
def IdsBelow (engine : Engine) : Prop := engine.ForAllTables fun _ table => table.IdsBelow

variable {engine after : Engine}

/-- Soundness is a matter of schemas and rows. -/
theorem Sound.of_sameRows (h : engine.Sound) (hrel : Related Table.SameRows engine after) :
    after.Sound := by
  refine ForAllTables.of_related h hrel fun database old new hsame hold => ?_
  obtain ⟨hschema, hrows⟩ := hsame
  obtain ⟨hdatabase, hlawful, hfits, hkeys⟩ := hold
  refine ⟨hschema ▸ hdatabase, hschema ▸ hlawful, ?_, ?_⟩
  · rw [hschema, hrows]
    exact hfits
  · rw [hschema, Table.keysDiffer_iff_pairwise, hschema, hrows]
    exact fun hkey => Table.keysDiffer_iff_pairwise.mp (hkeys hkey)

/-- Numbers stay below counters that have not moved down. -/
theorem IdsBelow.of_sameRows (h : engine.IdsBelow) (hrows : Related Table.SameRows engine after)
    (hcounted : Related Table.CountedUp engine after) : after.IdsBelow := by
  refine ForAllTables.of_related h (hrows.and hcounted) fun _ old new hpair hold => ?_
  intro column hcolumn hauto row hrow id hid
  rw [hpair.1.1] at hcolumn
  rw [hpair.1.2] at hrow
  exact Int64.lt_of_lt_of_le (hold column hcolumn hauto row hrow id hid) hpair.2.2

end Engine

/-- The table has kept its schema. -/
def Table.SameSchema (old new : Table) : Prop := new.schema = old.schema

/-- A table has its own schema. -/
theorem Table.SameSchema.refl (table : Table) : table.SameSchema table := rfl

/-- A table that has kept its schema has kept its name. -/
theorem Table.SameSchema.name (old new : Table) (h : old.SameSchema new) :
    new.schema.name = old.schema.name := congrArg TableSchema.name h

/-- The values of an update name no column of the key of its table. -/
def TransactionCall.KeepsKeys (engine : Engine) : TransactionCall → Prop
  | .update statement =>
    ∀ table, engine.table statement.database statement.table = .ok table →
      table.schema.OffKey statement.values
  | _ => True

/-- A call keeps a property of tables: an insertion and an update keep it in the table that they
change, and so does leaving a part of the rows of any table. -/
structure TransactionCall.Keeps (engine : Engine) (call : TransactionCall)
    (P : String → Table → Prop) : Prop where
  insert : ∀ statement table, call = .insert statement →
    engine.table statement.database statement.table = .ok table →
    P statement.database table → P statement.database (table.insert statement.values).2
  update : ∀ statement table position old after, call = .update statement →
    engine.table statement.database statement.table = .ok table →
    table.update position statement.values = .ok (old, after) →
    P statement.database table → P statement.database after
  part : ∀ database (table : Table) rows, rows.Sublist table.rows →
    P database table → P database { table with rows := rows }

namespace Transaction

variable {transaction : Transaction} {call : TransactionCall}

/-- What a call keeps in the tables holds of all tables after it, whether or not it succeeds. -/
theorem forAllTables_perform {P : String → Table → Prop}
    (h : transaction.engine.ForAllTables P) (hkeeps : call.Keeps transaction.engine P) :
    (transaction.perform call).2.engine.ForAllTables P := by
  cases call with
  | insert statement =>
    simp only [perform]
    rcases transaction.insert_cases statement with
      ⟨_, -, hcase⟩ | ⟨table, after, hfound, hcases⟩
    · rw [hcase]
      exact h
    · have hnew := hkeeps.insert statement table rfl hfound (h.of_table hfound)
      rcases hcases with ⟨_, hinsert, hcase⟩ | ⟨_, hinsert, hcase⟩ <;>
        rw [hinsert] at hnew <;> rw [hcase]
      all_goals exact Engine.ForAllTables.putTable h hnew
  | update statement =>
    simp only [perform]
    rcases transaction.update_cases statement with
      ⟨_, hcase⟩ | ⟨table, position, old, after, hfound, -, hupdate, hcase⟩ <;> rw [hcase]
    · exact h
    · exact Engine.ForAllTables.putTable h
        (hkeeps.update statement table position old after rfl hfound hupdate (h.of_table hfound))
  | delete plan =>
    simp only [perform]
    rcases transaction.delete_cases plan with
      ⟨_, hcase⟩ | ⟨rows, table, -, hfound, hcase⟩ <;> rw [hcase]
    · exact h
    · obtain ⟨left, added, hremove, hsublist, -⟩ :=
        table.removeRows_eq [] (table.positionsOf (rows.map RowKey.mk))
      rw [hremove]
      exact Engine.ForAllTables.putTable h
        (hkeeps.part plan.table.database table left hsublist (h.of_table hfound))

end Transaction

namespace TransactionCall.Keeps

variable {engine : Engine} {call : TransactionCall}

/-- A call that writes no column of a key keeps tables sound, and known to their database. -/
theorem sound (hkeys : call.KeepsKeys engine) :
    call.Keeps engine fun database table => table.schema.database = database ∧ table.Sound where
  insert statement table _ _ h :=
    ⟨(congrArg TableSchema.database (table.insert_schema statement.values)).trans h.1,
      h.2.insert statement.values⟩
  update statement table position old after hcall hfound hupdate h := by
    subst hcall
    exact ⟨(congrArg TableSchema.database (Table.update_schema hupdate)).trans h.1,
      h.2.update (hkeys table hfound) hupdate⟩
  part _ _ _ hpart h := ⟨h.1, h.2.sublist hpart⟩

/-- A call that writes no column of a key keeps the numbers of lawful tables below the counters,
unless a counter overflows. -/
theorem idsBelow {transaction : Transaction} (hkeys : call.KeepsKeys transaction.engine)
    (hcounts : transaction.CountsOn call) :
    call.Keeps transaction.engine fun _ table => table.schema.Lawful ∧ table.IdsBelow where
  insert statement table hcall hfound h := by
    subst hcall
    exact ⟨table.insert_schema statement.values ▸ h.1, h.2.insert h.1 (hcounts table hfound)⟩
  update statement table position old after hcall hfound hupdate h := by
    subst hcall
    exact ⟨Table.update_schema hupdate ▸ h.1, h.2.update h.1 (hkeys table hfound) hupdate⟩
  part _ _ _ hpart h := ⟨h.1, h.2.sublist hpart⟩

end TransactionCall.Keeps

namespace Transaction

variable {transaction : Transaction} {call : TransactionCall}

/-- A call that writes no column of a key keeps the engine sound, and the numbers below the
counters unless one overflows. -/
theorem integrity_perform (h : transaction.engine.Sound)
    (hkeys : call.KeepsKeys transaction.engine) :
    (transaction.perform call).2.engine.Sound ∧
      (transaction.CountsOn call → transaction.engine.IdsBelow →
        (transaction.perform call).2.engine.IdsBelow) := by
  refine ⟨forAllTables_perform h (.sound hkeys), fun hcounts hids => ?_⟩
  have hlawful : transaction.engine.ForAllTables fun _ table =>
      table.schema.Lawful ∧ table.IdsBelow :=
    fun database hdatabase table htable =>
      ⟨(h database hdatabase table htable).2.lawful, hids database hdatabase table htable⟩
  intro database hdatabase table htable
  exact (forAllTables_perform hlawful (.idsBelow hkeys hcounts) database hdatabase table htable).2

/-- A step keeps all schemas. -/
theorem Step.sameSchema {counted : Prop} {before after : Transaction}
    (h : Step counted before after) :
    Engine.Related Table.SameSchema before.engine after.engine := by
  cases h with
  | unchanged => exact Engine.Related.refl Table.SameSchema.refl _
  | changed found schema counts undone =>
    exact Engine.related_putTable Table.SameSchema.refl Table.SameSchema.name found schema

/-- Calls keep all schemas. -/
theorem run_sameSchema (transaction : Transaction) (calls : List TransactionCall) :
    Engine.Related Table.SameSchema transaction.engine (transaction.run calls).engine := by
  induction calls generalizing transaction with
  | nil => exact Engine.Related.refl Table.SameSchema.refl _
  | cons call rest ih =>
    exact Engine.Related.trans (fun _ _ _ hab hbc => Eq.trans hbc hab)
      (perform_step transaction call).sameSchema (ih (transaction.perform call).2)

/-- What calls keep in the tables of all engines of these schemas holds of all tables after them. -/
theorem forAllTables_run {P : String → Table → Prop} {calls : List TransactionCall}
    (h : transaction.engine.ForAllTables P)
    (hkeeps : ∀ call ∈ calls, ∀ engine,
      Engine.Related Table.SameSchema transaction.engine engine → call.Keeps engine P) :
    (transaction.run calls).engine.ForAllTables P := by
  induction calls generalizing transaction with
  | nil => exact h
  | cons call rest ih =>
    have hfirst := hkeeps call List.mem_cons_self transaction.engine
      (Engine.Related.refl Table.SameSchema.refl _)
    have hstep := (perform_step transaction call).sameSchema
    refine ih (forAllTables_perform h hfirst) fun other hother engine hrel => ?_
    exact hkeeps other (List.mem_cons_of_mem call hother) engine
      (hstep.trans (fun _ _ _ hab hbc => Eq.trans hbc hab) hrel)

end Transaction

/-- A table that is found has the schema that it had before. -/
theorem Engine.schema_of_related {before after : Engine} {database name : String} {table : Table}
    (hrel : Related Table.SameSchema before after)
    (hfound : after.table database name = .ok table) :
    ∃ old, before.table database name = .ok old ∧ table.schema = old.schema := by
  rcases hrel.table_cases Table.SameSchema.name database name with
    ⟨error, -, hafter⟩ | ⟨old, new, hbefore, hafter, hschema⟩ <;>
    rw [hfound] at hafter <;> cases hafter
  exact ⟨old, hbefore, hschema⟩

/-- Whether a call writes a key depends on schemas only. -/
theorem TransactionCall.KeepsKeys.of_related {before after : Engine} {call : TransactionCall}
    (h : call.KeepsKeys before)
    (hrel : Engine.Related Table.SameSchema before after) :
    call.KeepsKeys after := by
  cases call with
  | insert statement => trivial
  | delete plan => trivial
  | update statement =>
    intro table hfound
    obtain ⟨old, hold, hschema⟩ := Engine.schema_of_related hrel hfound
    rw [hschema]
    exact h old hold

/-- Calls that write no column of a key keep the engine sound, and the numbers below the counters
unless one overflows. -/
theorem Transaction.integrity_run {transaction : Transaction} {calls : List TransactionCall}
    (h : transaction.engine.Sound)
    (hkeys : ∀ call ∈ calls, call.KeepsKeys transaction.engine) :
    (transaction.run calls).engine.Sound ∧
      (transaction.CountsThrough calls → transaction.engine.IdsBelow →
        (transaction.run calls).engine.IdsBelow) := by
  induction calls generalizing transaction with
  | nil => exact ⟨h, fun _ hids => hids⟩
  | cons call rest ih =>
    obtain ⟨hsound, hids⟩ := integrity_perform h (hkeys call List.mem_cons_self)
    have hrest : ∀ other ∈ rest, other.KeepsKeys (transaction.perform call).2.engine :=
      fun other hother => (hkeys other (List.mem_cons_of_mem call hother)).of_related
        (perform_step transaction call).sameSchema
    obtain ⟨hsound', hids'⟩ := ih hsound hrest
    exact ⟨hsound', fun hcounts hbelow => hids' hcounts.2 (hids hcounts.1 hbelow)⟩

end Tabula
