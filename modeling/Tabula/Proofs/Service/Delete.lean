import Tabula.Proofs.Select.Lookups
import Tabula.Proofs.Service.Integrity
import Tabula.Proofs.Table.Removal

/-!
# Deleting rows

A deletion reads the keys of the rows that its plan selects, and finds these rows again by their
keys. In a sound table whose keys equal themselves this takes out exactly the selected rows. The
keys that are given are those that a query for the key columns would have read just before.
-/

namespace Tabula

/-! ### Reading the rows of one table -/

/-- Reading the key columns gives the keys of the selected rows in the order of the rows. -/
theorem SelectPlan.run_scan_key {engine : Engine} {table : Table} (filter : Option Predicate)
    (h : engine.table table.schema.database table.schema.name = .ok table) :
    (scan table.schema (table.schema.primaryKey.map (.of table.schema)) filter).run engine =
      .ok ((table.rows.filter (table.schema.selects filter)).map fun row =>
        (table.schema.keyOf row).values) := by
  have hkey (row : Row) : project (table.schema.primaryKey.map (.of table.schema))
      [(nameOf table.schema, row)] = (table.schema.keyOf row).values := by
    rw [project, List.map_map]
    refine List.map_congr_left fun column _ => ?_
    have hview := table.schema.view_of row column
    rw [TableSchema.view] at hview
    simp [hview]
  simp only [run, scan, rowsNow_of_table h, List.mapM_nil, bind, Except.bind, pure, Except.pure, joinedRows,
    List.zip_nil_left, joinAll, List.foldl_nil, answer, sortRows, firstRows, Bool.false_eq_true,
    if_false]
  rw [List.filter_map, List.map_map]
  exact congrArg Except.ok (List.map_congr_left fun row _ => hkey row)

/-! ### Plans -/

/-- The plan for a filter of a table. -/
def DeletePlan.of (schema : TableSchema) (filter : Option Predicate) : DeletePlan where
  table := schema
  key := schema.primaryKey.map (.of schema)
  filter := filter
  keyProbe := .scan schema (schema.primaryKey.map (.of schema)) filter

/-- An accepted request is planned for a table with a primary key, with its filter compiled. -/
theorem DeletePlan.ofRequest_eq_ok {engine : Engine} {request : DeleteRequest} {plan : DeletePlan}
    (h : DeletePlan.ofRequest engine.registry request = .ok plan) :
    ∃ table, engine.table request.database request.table = .ok table ∧
      table.schema.primaryKey ≠ [] ∧
      FilterItem.compileAll table.schema request.filters = .ok plan.filter ∧
      plan = .of table.schema plan.filter := by
  obtain ⟨schema, hschema, h⟩ := bind_eq_ok_iff.mp h
  obtain ⟨table, htable, rfl⟩ := Engine.resolve_eq_ok_iff.mp (mapError_eq_ok_iff.mp hschema)
  split at h
  · cases h
  · rename_i hkey
    obtain ⟨filter, hfilter, h⟩ := bind_eq_ok_iff.mp h
    cases h
    exact ⟨table, htable, by simpa using hkey, mapError_eq_ok_iff.mp hfilter, rfl⟩

namespace Transaction

variable {transaction : Transaction} {table : Table} {filter : Option Predicate}

/-- If a row is selected, the selected rows are taken out and their keys are given. -/
theorem delete_of_exists
    (hfound : transaction.engine.table table.schema.database table.schema.name = .ok table)
    (hsound : table.Sound) (hkey : table.schema.primaryKey ≠ []) (hself : table.KeysReflexive)
    (h : ∃ row ∈ table.rows, table.schema.selects filter row = true) :
    ∃ changes, transaction.delete (.of table.schema filter) =
      (.ok ((table.rows.filter (table.schema.selects filter)).map table.schema.keyOf),
        transaction.record table.schema.database { table with
          rows := table.rows.filter fun row => !table.schema.selects filter row } changes) := by
  have hprobe := SelectPlan.run_scan_key filter hfound
  have hremove := table.removeRows_filter hsound hkey hself (table.schema.selects filter) []
  have hkeys : ((table.rows.filter (table.schema.selects filter)).map fun row =>
      (table.schema.keyOf row).values).map RowKey.mk =
        (table.rows.filter (table.schema.selects filter)).map table.schema.keyOf :=
    List.map_map ..
  rw [← hkeys] at hremove ⊢
  generalize hrows : (table.rows.filter (table.schema.selects filter)).map (fun row =>
    (table.schema.keyOf row).values) = rows at hprobe hremove ⊢
  cases rows with
  | nil =>
    obtain ⟨row, hrow, hselected⟩ := h
    have hnone := List.map_eq_nil_iff.mp hrows
    exact absurd hselected (List.filter_eq_nil_iff.mp hnone row hrow)
  | cons first rest =>
    refine ⟨(removeRows table [] (table.positionsOf ((first :: rest).map RowKey.mk))).2, ?_⟩
    rw [← hremove]
    simp only [Transaction.delete, DeletePlan.of, hprobe, hfound, Table.positionsOf]

/-- If no row is selected, nothing is found to delete. -/
theorem delete_of_forall
    (hfound : transaction.engine.table table.schema.database table.schema.name = .ok table)
    (h : ∀ row ∈ table.rows, table.schema.selects filter row = false) :
    transaction.delete (.of table.schema filter) =
      (.error (.noRecordsMatch table.schema.qualifiedName), transaction) := by
  have hnone : table.rows.filter (table.schema.selects filter) = [] :=
    List.filter_eq_nil_iff.mpr fun row hrow => by simp [h row hrow]
  have hprobe := SelectPlan.run_scan_key filter hfound
  rw [hnone, List.map_nil] at hprobe
  simp only [Transaction.delete, DeletePlan.of, hprobe]

end Transaction

namespace Service

/-- A planned deletion is carried out in one transaction. -/
theorem deleteRows_of_delete {service : Service} {request : DeleteRequest} {plan : DeletePlan}
    {outcome : Except StoreError (List RowKey) × Transaction}
    (hplan : DeletePlan.ofRequest service.engine.registry request = .ok plan)
    (hdelete : (Transaction.begin service.engine).delete plan = outcome) :
    service.deleteRows request = service.finish outcome := by
  simp only [deleteRows, hplan, hdelete]

/-- An accepted deletion in a service whose stored keys equal themselves. If the filter selects
some row, the deletion succeeds: it leaves the rows that are not selected in their order, and gives
the keys of the others in their order, which a query for the key columns would have read just
before. If it selects none, nothing is found and nothing changes. In both cases all other tables
are as they were. -/
theorem deleteRows_exact {service : Service} (h : service.Reachable)
    (hself : service.engine.ForAllTables fun _ table => table.KeysReflexive)
    {request : DeleteRequest} {plan : DeletePlan}
    (hplan : DeletePlan.ofRequest service.engine.registry request = .ok plan) :
    ∃ table filter,
      service.engine.table request.database request.table = .ok table ∧
      FilterItem.compileAll table.schema request.filters = .ok filter ∧
      ((∃ row ∈ table.rows, table.schema.selects filter row = true) →
        (service.deleteRows request).1 =
          .ok ((table.rows.filter (table.schema.selects filter)).map table.schema.keyOf) ∧
        (SelectPlan.scan table.schema (table.schema.primaryKey.map (.of table.schema)) filter).run
            service.engine =
          .ok ((table.rows.filter (table.schema.selects filter)).map fun row =>
            (table.schema.keyOf row).values) ∧
        (service.deleteRows request).2.engine.table request.database request.table =
          .ok { table with
            rows := table.rows.filter fun row => !table.schema.selects filter row }) ∧
      ((∀ row ∈ table.rows, table.schema.selects filter row = false) →
        (∃ error, (service.deleteRows request).1 = .error error ∧
          error.report.kind = .notFound) ∧
        (service.deleteRows request).2.engine.databases = service.engine.databases) ∧
      ∀ database name, (database, name) ≠ (request.database, request.table) →
        (service.deleteRows request).2.engine.table database name =
          service.engine.table database name := by
  obtain ⟨table, htable, hkey, hfilter, hof⟩ := DeletePlan.ofRequest_eq_ok hplan
  obtain ⟨hdatabase, hsound⟩ := Engine.ForAllTables.of_table h.sound htable
  have hname := Engine.name_of_table htable
  have hfound : (Transaction.begin service.engine).engine.table table.schema.database
      table.schema.name = .ok table := by
    rw [hdatabase, hname]
    exact htable
  have hreflexive := Engine.ForAllTables.of_table hself htable
  generalize plan.filter = filter at hfilter hof
  subst hof
  refine ⟨table, filter, htable, hfilter, ?_⟩
  by_cases hexists : ∃ row ∈ table.rows, table.schema.selects filter row = true
  · obtain ⟨changes, hdelete⟩ :=
      Transaction.delete_of_exists hfound hsound hkey hreflexive hexists
    rw [deleteRows_of_delete hplan hdelete]
    refine ⟨fun _ => ⟨rfl, SelectPlan.run_scan_key filter hfound, ?_⟩, fun hforall => ?_,
      fun database name hne => ?_⟩
    · simp only [Transaction.record, hdatabase]
      exact Engine.table_putTable_self htable hname
    · obtain ⟨row, hrow, hselected⟩ := hexists
      exact absurd hselected (by simp [hforall row hrow])
    · simp only [Transaction.record, hdatabase]
      exact Engine.table_putTable_of_ne (by simpa [hname] using hne)
  · have hforall : ∀ row ∈ table.rows, table.schema.selects filter row = false := by
      simpa using hexists
    have hdelete := Transaction.delete_of_forall hfound hforall
    rw [deleteRows_of_delete hplan hdelete]
    exact ⟨fun h => absurd h hexists, fun _ => ⟨⟨_, rfl, rfl⟩, rfl⟩, fun _ _ _ => rfl⟩

/-- The departure of all guests of a name. -/
def guestsNamed (name : String) : DeleteRequest :=
  ⟨"hotel", "guests", [⟨.equal, "name", [.text name], .and⟩]⟩

/-- Of two guests one leaves, and the other stays. -/
theorem deleteRows_exact_guests :
    let before := (guestService [] 1).run [.save guestArrivals]
    let filter := some (Predicate.compare guestName .equal (.text "Ann"))
    before.Reachable ∧
      before.engine.ForAllTables (fun _ table => table.KeysReflexive) ∧
      DeletePlan.ofRequest before.engine.registry (guestsNamed "Ann") =
        .ok (.of guestSchema filter) ∧
      (before.deleteRows (guestsNamed "Ann")).1 = .ok [⟨[.int 1]⟩] ∧
      (before.deleteRows (guestsNamed "Ann")).2.engine.table "hotel" "guests" =
        .ok ⟨guestSchema, [[.int 2, .text "Bob", .int 3]], 3⟩ := by
  intro before filter
  have hreachable : before.Reachable := reachable_guestService [.save guestArrivals]
  have hself : before.engine.ForAllTables fun _ table => table.KeysReflexive := by
    unfold Engine.ForAllTables Table.KeysReflexive
    decide +kernel
  have hplan : DeletePlan.ofRequest before.engine.registry (guestsNamed "Ann") =
      .ok (.of guestSchema filter) := rfl
  obtain ⟨table, compiled, htable, hcompiled, hexists, -, -⟩ :=
    deleteRows_exact hreachable hself hplan
  have hbefore : before.engine.table "hotel" "guests" =
      .ok ⟨guestSchema, [[.int 1, .text "Ann", .int 1], [.int 2, .text "Bob", .int 3]], 3⟩ :=
    rfl
  obtain rfl := Except.ok.inj (htable.symm.trans hbefore)
  have hfilter : FilterItem.compileAll guestSchema (guestsNamed "Ann").filters = .ok filter := rfl
  obtain rfl := Except.ok.inj (hcompiled.symm.trans hfilter)
  obtain ⟨hkeys, -, hafter⟩ := hexists ⟨_, List.mem_cons_self, rfl⟩
  exact ⟨hreachable, hself, hplan, hkeys, hafter⟩

end Service

end Tabula
