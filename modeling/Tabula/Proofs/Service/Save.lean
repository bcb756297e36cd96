import Tabula.Proofs.Service.Integrity
import Tabula.Proofs.Write.NewRows

/-!
# Inserting records

A request to insert records appends one row for each of them, or it fails and leaves the rows of
all tables as they were. Each step of the batch puts one more row at the end of the table, so the
steps together put all of them; and a failure at any step rolls back those before it.
-/

namespace Tabula

/-- The table with the new row of one more record, given the values that were kept for it. -/
def Table.withRecord (table : Table) (values : List (ColumnRef × Value)) : Table where
  schema := table.schema
  rows := table.rows ++ [table.schema.rowOf table.nextId values]
  nextId := table.schema.numberAfter table.nextId

/-- A record that comes in does not change the schema. -/
@[simp] theorem Table.withRecord_schema (table : Table) (values : List (ColumnRef × Value)) :
    (table.withRecord values).schema = table.schema := rfl

/-- A record that comes in takes its number. -/
@[simp] theorem Table.withRecord_nextId (table : Table) (values : List (ColumnRef × Value)) :
    (table.withRecord values).nextId = table.schema.numberAfter table.nextId := rfl

/-- The table refuses one of some records, given the values that were kept for each, when those
before it have come in. -/
def Table.Refuses (table : Table) (kept : List (List (ColumnRef × Value))) (error : StoreError) :
    Prop :=
  ∃ earlier values later, kept = earlier ++ values :: later ∧
    ((earlier.foldl Table.withRecord table).insert values).1 = .error error

/-- A table keeps its schema when records come in. -/
theorem Table.foldl_withRecord_schema (table : Table) (kept : List (List (ColumnRef × Value))) :
    (kept.foldl Table.withRecord table).schema = table.schema := by
  induction kept generalizing table with
  | nil => rfl
  | cons values rest ih => exact ih (table.withRecord values)

/-- When records come in one by one, their new rows stand at the end of the table. -/
theorem Table.foldl_withRecord_rows (table : Table) (kept : List (List (ColumnRef × Value))) :
    (kept.foldl Table.withRecord table).rows =
      table.rows ++ table.schema.rowsOf table.nextId kept := by
  induction kept generalizing table with
  | nil => exact (List.append_nil table.rows).symm
  | cons values rest ih =>
    rw [List.foldl_cons, ih, TableSchema.rowsOf_cons]
    exact List.append_assoc ..

variable {values : List (ColumnRef × Value)} {number : Nat} {item : WriteItem}

/-- When kept values are inserted, the new row of their record is appended. -/
theorem Table.insert_validated {table after : Table} {position : Nat}
    (hlawful : table.schema.Lawful)
    (hvalid : (RecordRules.of table.schema).validate number item = .ok values)
    (h : table.insert values = (.ok position, after)) :
    position = table.rows.length ∧ after = table.withRecord values := by
  rcases table.insert_cases values with
    ⟨_, -, hcase⟩ | ⟨supplied, hsupplied, ⟨_, -, hcase⟩ | ⟨-, hcase⟩⟩ <;>
    rw [hcase] at h <;> cases h
  rw [table.drafted_of_validate hlawful hvalid hsupplied]
  exact ⟨rfl, rfl⟩

namespace Transaction

variable {transaction after : Transaction} {table : Table}

/-- When the statement of kept values succeeds, the record has come into the table, and the key of
its new row is given. -/
theorem write_validated {key : RowKey}
    (hfound : transaction.engine.table table.schema.database table.schema.name = .ok table)
    (hlawful : table.schema.Lawful)
    (hvalid : (RecordRules.of table.schema).validate number item = .ok values)
    (h : transaction.write (.ofValues table.schema none values) = (.ok key, after)) :
    key = table.schema.keyOf (table.schema.rowOf table.nextId values) ∧
      after.engine =
        transaction.engine.putTable table.schema.database (table.withRecord values) ∧
      after.engine.table table.schema.database table.schema.name =
        .ok (table.withRecord values) := by
  rcases transaction.insert_cases ⟨table.schema.database, table.schema.name, values⟩ with
    ⟨_, -, hcase⟩ | ⟨found, changed, hother, ⟨_, -, hcase⟩ | ⟨position, hinsert, hcase⟩⟩ <;>
    rw [WriteStatement.ofValues, Transaction.write, hcase] at h <;> cases h
  rw [hfound] at hother
  cases hother
  obtain ⟨rfl, rfl⟩ := Table.insert_validated hlawful hvalid hinsert
  refine ⟨?_, rfl, Engine.table_putTable_self hfound rfl⟩
  rw [Table.withRecord, List.getD_append_right _ _ _ _ (Nat.le_refl _), Nat.sub_self]
  rfl

/-- When the statement of kept values fails, it is the table that refuses them. -/
theorem insert_error_of_write {error : StoreError}
    (hfound : transaction.engine.table table.schema.database table.schema.name = .ok table)
    (h : transaction.write (.ofValues table.schema none values) = (.error error, after)) :
    (table.insert values).1 = .error error := by
  rcases transaction.insert_cases ⟨table.schema.database, table.schema.name, values⟩ with
    ⟨_, hother, hcase⟩ | ⟨found, changed, hother, ⟨_, hinsert, hcase⟩ | ⟨_, -, hcase⟩⟩ <;>
    rw [WriteStatement.ofValues, Transaction.write, hcase] at h <;> cases h
  · rw [hfound] at hother
    cases hother
  · rw [hfound] at hother
    cases hother
    rw [hinsert]

/-- When the first statement succeeds, the rest goes on from there. -/
theorem writeAll_cons_of_ok {statement : WriteStatement} {rest : List WriteStatement}
    {key : RowKey} (h : transaction.write statement = (.ok key, after)) :
    Service.writeAll transaction (statement :: rest) =
      ((Service.writeAll after rest).1.map (key :: ·), (Service.writeAll after rest).2) := by
  simp only [Service.writeAll, h]

/-- The statements of kept values all succeed, the records have come into the table one by one and
the keys of their new rows are given; or the table refuses one of the records. -/
theorem writeAll_validated {kept : List (List (ColumnRef × Value))}
    (hfound : transaction.engine.table table.schema.database table.schema.name = .ok table)
    (hlawful : table.schema.Lawful)
    (hvalid : ∀ values ∈ kept, ∃ number item,
      (RecordRules.of table.schema).validate number item = .ok values)
    {statements : List WriteStatement}
    (hstatements : statements = kept.map (.ofValues table.schema none)) :
    ((Service.writeAll transaction statements).1 =
        .ok ((table.schema.rowsOf table.nextId kept).map table.schema.keyOf) ∧
      (Service.writeAll transaction statements).2.engine =
        transaction.engine.putTable table.schema.database
          (kept.foldl Table.withRecord table)) ∨
    ∃ error, (Service.writeAll transaction statements).1 = .error error ∧
      table.Refuses kept error := by
  subst hstatements
  induction kept generalizing transaction table with
  | nil => exact Or.inl ⟨rfl, (Engine.putTable_self hfound).symm⟩
  | cons values rest ih =>
    obtain ⟨⟨number, item, hvalues⟩, hrest⟩ := List.forall_mem_cons.mp hvalid
    rcases hwrite : transaction.write (.ofValues table.schema none values) with
      ⟨error | key, middle⟩
    · simp only [List.map_cons, Service.writeAll, hwrite]
      exact Or.inr ⟨error, rfl, [], values, rest, rfl, insert_error_of_write hfound hwrite⟩
    · obtain ⟨rfl, hmiddle, hnext⟩ := write_validated hfound hlawful hvalues hwrite
      rw [List.map_cons, writeAll_cons_of_ok hwrite]
      rcases @ih middle (table.withRecord values) hnext hlawful hrest with
        ⟨hresult, hafter⟩ | ⟨error, hresult, earlier, refused, later, rfl, hrefused⟩
      · simp only [Table.withRecord_schema, Table.withRecord_nextId] at hresult hafter
        have hname := congrArg TableSchema.name
          (Table.foldl_withRecord_schema (table.withRecord values) rest)
        refine Or.inl ⟨?_, ?_⟩
        · simp only [hresult, Except.map, TableSchema.rowsOf_cons, List.map_cons]
        · rw [hafter, hmiddle, Engine.putTable_putTable _ _ hname.symm, List.foldl_cons]
      · rw [Table.withRecord_schema] at hresult
        refine Or.inr ⟨error, ?_, values :: earlier, refused, later, rfl, hrefused⟩
        simp only [hresult, Except.map]

end Transaction

namespace Service

/-- A request to insert records fails, since it cannot be compiled or the table refuses one of the
records, and then no row of any table has changed; or all records are valid, their new rows stand
at the end of the table in the order of the records, their keys are given in that order, and all
other tables are as they were. -/
theorem saveRecords_all_or_nothing {service : Service} (h : service.Reachable)
    {request : WriteRequest} (hinsert : request.recordId = none) :
    (∃ error, (service.saveRecords request).1 = .error error ∧
      Engine.Related Table.SameRows service.engine (service.saveRecords request).2.engine ∧
      (service.statements request = .error error ∨
        ∃ table kept refusal,
          service.engine.table request.database request.table = .ok table ∧
          request.items.mapIdx (RecordRules.of table.schema).validate = kept.map .ok ∧
          table.Refuses kept refusal ∧ error = .store refusal)) ∨
    ∃ table after kept,
      service.engine.table request.database request.table = .ok table ∧
      request.items.mapIdx (RecordRules.of table.schema).validate = kept.map .ok ∧
      (service.saveRecords request).1 =
        .ok ((table.schema.rowsOf table.nextId kept).map table.schema.keyOf) ∧
      (service.saveRecords request).2.engine.table request.database request.table = .ok after ∧
      after.schema = table.schema ∧
      after.rows = table.rows ++ table.schema.rowsOf table.nextId kept ∧
      ∀ database name, (database, name) ≠ (request.database, request.table) →
        (service.saveRecords request).2.engine.table database name =
          service.engine.table database name := by
  cases hstatements : service.statements request with
  | error error =>
    refine Or.inl ⟨error, ?_⟩
    simp only [saveRecords, hstatements]
    exact ⟨trivial, Engine.Related.refl Table.undoStable_sameRows.refl _, Or.inl trivial⟩
  | ok statements =>
    obtain ⟨table, htable, key, kept, hkept, hcompiled, hkey⟩ := statements_eq_ok hstatements
    obtain ⟨hdatabase, hsound⟩ := Engine.ForAllTables.of_table h.sound htable
    have hname := Engine.name_of_table htable
    have hfound : service.engine.table table.schema.database table.schema.name = .ok table := by
      rw [hdatabase, hname, htable]
    rw [hkey hinsert] at hcompiled
    have hwritten := @Transaction.writeAll_validated (.begin service.engine) table kept hfound
      hsound.lawful (fun values => RecordRules.exists_of_mem_kept hkept) statements hcompiled
    have hrollback := Transaction.sameRows_rollback_run (.begin service.engine)
      ((Transaction.begin service.engine).carriedOut statements)
    rw [← Transaction.snd_writeAll] at hrollback
    simp only [saveRecords, hstatements]
    generalize writeAll (.begin service.engine) statements = outcome at hwritten hrollback ⊢
    obtain ⟨result, after⟩ := outcome
    rcases hwritten with ⟨rfl, hengine⟩ | ⟨refusal, rfl, hrefuses⟩
    · have hschema := table.foldl_withRecord_schema kept
      refine Or.inr ⟨table, kept.foldl Table.withRecord table, kept, htable, hkept, rfl, ?_,
        hschema, table.foldl_withRecord_rows kept, fun database name hne => ?_⟩
      · change after.engine.table request.database request.table = _
        rw [show after.engine = _ from hengine, hdatabase]
        exact Engine.table_putTable_self htable (by rw [hschema, hname])
      · change after.engine.table database name = _
        rw [show after.engine = _ from hengine, hdatabase]
        exact Engine.table_putTable_of_ne (by rw [hschema, hname]; exact hne)
    · exact Or.inl ⟨.store refusal, rfl, hrollback,
        Or.inr ⟨table, kept, refusal, htable, hkept, hrefuses, rfl⟩⟩

/-- The number of nights of a guest. -/
def guestNights : ColumnRef := ⟨"hotel", "guests", "nights", 2, .int⟩

/-- Two guests come to a hotel that has two already, whose rows stay as they were. -/
theorem saveRecords_all_or_nothing_guests :
    let before := (guestService [] 1).run [.save guestArrivals]
    before.Reachable ∧ guestArrivals.recordId = none ∧
      (before.saveRecords guestArrivals).1 = .ok [⟨[.int 3]⟩, ⟨[.int 4]⟩] ∧
      ∃ table, (before.saveRecords guestArrivals).2.engine.table "hotel" "guests" = .ok table ∧
        table.rows = [
          [.int 1, .text "Ann", .int 1], [.int 2, .text "Bob", .int 3],
          [.int 3, .text "Ann", .int 1], [.int 4, .text "Bob", .int 3]] := by
  intro before
  have hreachable : before.Reachable := reachable_guestService [.save guestArrivals]
  have hsaved : (before.saveRecords guestArrivals).1 = .ok [⟨[.int 3]⟩, ⟨[.int 4]⟩] := rfl
  rcases @saveRecords_all_or_nothing before hreachable guestArrivals rfl with
    ⟨error, herror, -⟩ | ⟨table, after, kept, htable, hkept, -, hafter, -, hrows, -⟩
  · rw [hsaved] at herror
    cases herror
  · refine ⟨hreachable, rfl, hsaved, after, hafter, ?_⟩
    have hbefore : before.engine.table "hotel" "guests" =
        .ok ⟨guestSchema, [[.int 1, .text "Ann", .int 1], [.int 2, .text "Bob", .int 3]], 3⟩ :=
      rfl
    obtain rfl := Except.ok.inj (htable.symm.trans hbefore)
    have hvalues : kept.map Except.ok = [[(guestName, .text "Ann")],
        [(guestName, .text "Bob"), (guestNights, .int 3)]].map Except.ok :=
      hkept.symm
    obtain rfl := (List.map_inj_right fun _ _ => Except.ok.inj).mp hvalues
    rw [hrows]
    rfl

end Service

end Tabula
