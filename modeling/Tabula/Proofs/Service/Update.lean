import Tabula.Proofs.Service.Save
import Tabula.Proofs.Write.Rewrites

/-!
# Updating a row

A request with a record id is compiled into one update. If a row has the key for which the record
id stands, then it is the only one, the request gives that key, and the record is written to that
row and nowhere else. If no row has the key, the request fails and nothing is written.
-/

namespace Tabula

namespace Transaction

variable {transaction : Transaction} {statement : UpdateStatement} {table : Table}

/-- An update for which a row is found, and which the table accepts, gives the key and puts the
table with the new row. -/
theorem update_eq_record {position : Nat} {old : Row} {changed : Table}
    (hfound : transaction.engine.table statement.database statement.table = .ok table)
    (hposition : table.find? ⟨[statement.keyValue]⟩ = some position)
    (hupdate : table.update position statement.values = .ok (old, changed)) :
    transaction.update statement =
      (.ok ⟨[statement.keyValue]⟩,
        transaction.record statement.database changed [.updated position old]) := by
  simp only [update, hfound, hposition, hupdate]

/-- An update for which no row is found fails and changes nothing. -/
theorem update_eq_notFound
    (hfound : transaction.engine.table statement.database statement.table = .ok table)
    (hposition : table.find? ⟨[statement.keyValue]⟩ = none) :
    transaction.update statement =
      (.error (.recordNotFound table.schema.qualifiedName ⟨[statement.keyValue]⟩), transaction) := by
  simp only [update, hfound, hposition]

end Transaction

namespace Service

variable {service : Service} {request : WriteRequest} {table : Table}

/-- A request within the limit of a batch has the statements into which it is compiled for its
table. -/
theorem statements_eq_ok_of_compile {statements : List WriteStatement}
    (hbatch : request.items.length ≤ service.save.batchSize.toNat)
    (hfound : service.engine.table request.database request.table = .ok table)
    (hcompiled : WriteStatement.compile table.schema request.recordId request.items =
      .ok statements) :
    service.statements request = .ok statements := by
  have hresolve : service.engine.registry.resolve request.database request.table =
      .ok table.schema := Engine.resolve_eq_ok_iff.mpr ⟨table, hfound, rfl⟩
  simp only [Service.statements, if_neg (Nat.not_lt.mpr hbatch), hresolve, hcompiled, bind,
    Except.bind, Except.mapError]

/-- A request that stands for a single update ends as that update. -/
theorem saveRecords_of_update {statement : UpdateStatement}
    (hstatements : service.statements request = .ok [.update statement]) :
    service.saveRecords request =
      service.finish (((Transaction.begin service.engine).update statement).1.map ([·]),
        ((Transaction.begin service.engine).update statement).2) := by
  simp only [saveRecords, hstatements, writeAll, Transaction.write]
  rcases (Transaction.begin service.engine).update statement with ⟨error | key, after⟩ <;> rfl

section Compiled

variable {statement : UpdateStatement}

/-- The update of a row that is found gives the key, and writes the record to that row. -/
theorem saveRecords_of_found (hsound : table.Sound)
    (hfound : service.engine.table statement.database statement.table = .ok table)
    {item : WriteItem} (hvalid : item.Valid table.schema)
    (hvalues : statement.values = table.schema.writtenOf item)
    (hstatements : service.statements request = .ok [.update statement])
    {position : Nat} (hlt : position < table.rows.length)
    (hposition : table.find? ⟨[statement.keyValue]⟩ = some position) :
    ∃ new, table.schema.Rewrites item table.rows[position] new ∧
      (service.saveRecords request).1 = .ok [⟨[statement.keyValue]⟩] ∧
      (service.saveRecords request).2.engine =
        (Transaction.begin service.engine).engine.putTable statement.database
          { table with rows := table.rows.set position new } := by
  obtain ⟨new, hrewrites, hchanged⟩ := table.exists_update_writtenOf hsound hvalid hlt
  have hupdate : (Transaction.begin service.engine).update statement = _ :=
    Transaction.update_eq_record hfound hposition (hvalues ▸ hchanged)
  refine ⟨new, hrewrites, ?_⟩
  rw [saveRecords_of_update hstatements, hupdate]
  exact ⟨rfl, rfl⟩

/-- The update of a row that is not found fails, and changes no database. -/
theorem saveRecords_of_notFound
    (hfound : service.engine.table statement.database statement.table = .ok table)
    (hstatements : service.statements request = .ok [.update statement])
    (hposition : table.find? ⟨[statement.keyValue]⟩ = none) :
    (service.saveRecords request).1 =
        .error (.store (.recordNotFound table.schema.qualifiedName ⟨[statement.keyValue]⟩)) ∧
      (service.saveRecords request).2.engine.databases = service.engine.databases := by
  have hupdate : (Transaction.begin service.engine).update statement = _ :=
    Transaction.update_eq_notFound hfound hposition
  rw [saveRecords_of_update hstatements, hupdate]
  exact ⟨rfl, rfl⟩

/-- The update of a row changes no other table, whether or not the row is found. -/
theorem table_saveRecords_of_ne (hsound : table.Sound)
    (hfound : service.engine.table statement.database statement.table = .ok table)
    {item : WriteItem} (hvalid : item.Valid table.schema)
    (hvalues : statement.values = table.schema.writtenOf item)
    (hstatements : service.statements request = .ok [.update statement]) {database name : String}
    (hne : (database, name) ≠ (statement.database, statement.table)) :
    (service.saveRecords request).2.engine.table database name =
      service.engine.table database name := by
  cases hposition : table.find? ⟨[statement.keyValue]⟩ with
  | none =>
    obtain ⟨-, hdatabases⟩ := saveRecords_of_notFound hfound hstatements hposition
    simp only [Engine.table, Engine.database, Engine.find?, hdatabases]
  | some position =>
    obtain ⟨hlt, -⟩ := Table.getElem_of_find? hposition
    obtain ⟨new, -, -, hengine⟩ :=
      saveRecords_of_found hsound hfound hvalid hvalues hstatements hlt hposition
    rw [← Engine.name_of_table hfound] at hne
    rw [hengine]
    exact Engine.table_putTable_of_ne hne

end Compiled

/-- Let a request with a record id, within the limit of a batch, be compiled for a table of a
reachable service. Then the table has a key of one column, and there is one record. If a row has
the key for which the record id stands, it is the only one, and the request gives just that key and
writes the record to that row: the columns that are kept of the record have their values, all other
columns of the row, among them the key and those left to a default by an empty value other than
`false`, have the values from before, and all other rows are the same, in the same places. If no
row has the key, the request fails and no database has changed. All other tables are the same in
any case. -/
theorem saveRecords_update (h : service.Reachable) {recordId : Value}
    (hid : request.recordId = some recordId)
    (hbatch : request.items.length ≤ service.save.batchSize.toNat)
    (hfound : service.engine.table request.database request.table = .ok table)
    {statements : List WriteStatement}
    (hcompiled : WriteStatement.compile table.schema (some recordId) request.items =
      .ok statements) :
    ∃ key keyValue item, table.schema.singleKey? = some key ∧
      recordId.cast? key.type = some keyValue ∧ request.items = [item] ∧
      (∀ position (hlt : position < table.rows.length),
        (table.schema.keyOf table.rows[position]).same ⟨[keyValue]⟩ = true →
          (∀ other (hother : other < table.rows.length),
            (table.schema.keyOf table.rows[other]).same ⟨[keyValue]⟩ = true → other = position) ∧
          (service.saveRecords request).1 = .ok [⟨[keyValue]⟩] ∧
          ∃ new,
            (service.saveRecords request).2.engine.table request.database request.table =
              .ok { table with rows := table.rows.set position new } ∧
            statements = [.update ⟨table.schema.database, table.schema.name,
              .of table.schema key, keyValue, table.schema.writtenOf item⟩] ∧
            table.schema.Rewrites item table.rows[position] new ∧
            table.schema.keyOf new = table.schema.keyOf table.rows[position] ∧
            ∀ column ∈ table.schema.columns, column.hasDefault = true →
              ∀ json value, Json.field? column.name item = some json →
                column.read? json = some value → value.isFalsy = true → value ≠ .bool false →
                  new.at column = table.rows[position].at column) ∧
      ((∀ row ∈ table.rows, (table.schema.keyOf row).same ⟨[keyValue]⟩ = false) →
        (∃ error, (service.saveRecords request).1 = .error error ∧
          error.report.kind = .notFound) ∧
        (service.saveRecords request).2.engine.databases = service.engine.databases) ∧
      ∀ database name, (database, name) ≠ (request.database, request.table) →
        (service.saveRecords request).2.engine.table database name =
          service.engine.table database name := by
  obtain ⟨hdatabase, hsound⟩ := Engine.ForAllTables.of_table h.sound hfound
  have hname := Engine.name_of_table hfound
  have hown : service.engine.table table.schema.database table.schema.name = .ok table := by
    rw [hdatabase, hname, hfound]
  have hstatements := statements_eq_ok_of_compile hbatch hfound (hid ▸ hcompiled)
  obtain ⟨key, keyValue, item, hkey, hcast, hitem, hvalid, rfl⟩ :=
    WriteStatement.compile_some_eq_ok_iff.mp hcompiled
  refine ⟨key, keyValue, item, hkey, hcast, hitem, fun position hlt hsame => ?_,
    fun hnone => ?_, fun database name hne => ?_⟩
  · have hposition := hsound.find?_of_same hkey (Value.hasType_of_cast? hcast) hlt hsame
    obtain ⟨new, hrewrites, hresult, hengine⟩ :=
      saveRecords_of_found hsound hown hvalid rfl hstatements hlt hposition
    refine ⟨fun other hother hothersame => ?_, hresult, new, ?_, rfl, hrewrites, hrewrites.keyOf,
      fun column hcolumn hdefault json value hfield hread hfalsy hne => ?_⟩
    · exact hsound.eq_of_same hkey (Value.hasType_of_cast? hcast) hother hlt hothersame hsame
    · rw [hengine, hdatabase]
      exact Engine.table_putTable_self hfound hname
    · exact hrewrites.kept column hcolumn
        (Or.inr (Column.written?_eq_none_of_isFalsy hdefault hfield hread hfalsy hne))
  · obtain ⟨herror, hdatabases⟩ := saveRecords_of_notFound hown hstatements
      (Table.find?_single_eq_none_iff.mpr hnone)
    exact ⟨⟨_, herror, rfl⟩, hdatabases⟩
  · refine table_saveRecords_of_ne hsound hown hvalid rfl hstatements ?_
    rw [hdatabase, hname]
    exact hne

/-- One of two guests changes the name, with blanks around it, and leaves the nights empty, which
stay three. -/
theorem saveRecords_update_guests :
    let before := (guestService [] 1).run [.save guestArrivals]
    let table : Table :=
      ⟨guestSchema, [[.int 1, .text "Ann", .int 1], [.int 2, .text "Bob", .int 3]], 3⟩
    let item : WriteItem := [("name", .text " Cleo "), ("nights", .ofInt64 0)]
    let request := WriteRequest.update "hotel" "guests" (.int 2) item
    let statement : UpdateStatement :=
      ⟨"hotel", "guests", guestId, .int 2, [(guestName, .text "Cleo")]⟩
    before.Reachable ∧ request.recordId = some (.int 2) ∧
      request.items.length ≤ before.save.batchSize.toNat ∧
      before.engine.table "hotel" "guests" = .ok table ∧
      WriteStatement.compile guestSchema (some (.int 2)) [item] = .ok [.update statement] ∧
      (before.saveRecords request).1 = .ok [⟨[.int 2]⟩] ∧
      (before.saveRecords request).2.engine.table "hotel" "guests" =
        .ok ⟨guestSchema, [[.int 1, .text "Ann", .int 1], [.int 2, .text "Cleo", .int 3]], 3⟩ := by
  intro before table item request statement
  have hreachable : before.Reachable := reachable_guestService [.save guestArrivals]
  have hbatch : request.items.length ≤ before.save.batchSize.toNat := by decide
  have hfound : before.engine.table "hotel" "guests" = .ok table := rfl
  have hcompiled : WriteStatement.compile guestSchema (some (.int 2)) [item] =
      .ok [.update statement] := rfl
  obtain ⟨key, keyValue, other, hkey, hcast, hitem, hupdated, -⟩ :=
    @saveRecords_update before request table hreachable (.int 2) rfl hbatch hfound _ hcompiled
  obtain rfl := Option.some.inj hkey
  obtain rfl := Option.some.inj hcast
  obtain rfl : item = other := List.head_eq_of_cons_eq hitem
  obtain ⟨-, hresult, new, hafter, -, hrewrites, -⟩ := hupdated 1 (by decide) (by decide +kernel)
  refine ⟨hreachable, rfl, hbatch, hfound, hcompiled, hresult, hafter.trans ?_⟩
  obtain ⟨id, name, nights, rfl⟩ := List.length_eq_three.mp hrewrites.length
  have hid : id = .int 2 :=
    hrewrites.kept ⟨⟨"id", .int, false, true, true, none, none⟩, 0⟩ (by decide) (Or.inl rfl)
  have hname : name = .text "Cleo" :=
    hrewrites.written ⟨⟨"name", .text, false, false, false, none, some 20⟩, 1⟩ (by decide) rfl _ rfl
  have hnights : nights = .int 3 :=
    hrewrites.kept ⟨⟨"nights", .int, false, false, false, some (.int 1), none⟩, 2⟩ (by decide)
      (Or.inr rfl)
  rw [hid, hname, hnights]
  rfl

end Service

end Tabula
