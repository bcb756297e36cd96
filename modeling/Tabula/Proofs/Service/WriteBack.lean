import Tabula.Proofs.Service.Retained

/-!
# Writing back what was read

Whoever reads a row as JSON and sends it back unchanged, under the key that JSON shows for it,
changes nothing. Reading the key gives the value of the key column; the record is valid, and what
is kept of it are the values of the row; so the update finds the row and leaves it as it is.
-/

namespace Tabula

/-- A finite value that is not null is read back as an optional value. -/
theorem Value.optional_decode_toJson {value : Value} {type : ScalarType} (h : value.IsFinite)
    (htype : value.hasType type = true) :
    Decoder.optional Value.decode value.toJson = .ok (some value.inJson) := by
  have hread := decode_toJson h
  cases value with
  | null => cases htype
  | float number =>
    simp only [IsFinite] at h
    simp only [toJson, h, if_true] at hread ⊢
    rfl
  | int n =>
    simp only [toJson, Json.ofInt64] at hread ⊢
    simp [Decoder.optional, hread]
  | _ => rfl

namespace WriteStatement

/-- A record that restates a row, under the key that JSON shows, is compiled into an update of the
row by values that it has. -/
theorem compile_restated {schema : TableSchema} {key : Column} {row : Row} {item : WriteItem}
    (hlawful : schema.Lawful) (hfits : schema.Fits row)
    (hretains : ∀ column ∈ schema.columns, column.Retains (row.at column))
    (hkey : schema.singleKey? = some key) (hitem : item.Perm (schema.restated row)) :
    ∃ values,
      compile schema (some (row.at key).inJson) [item] =
        .ok [.update ⟨schema.database, schema.name, .of schema key, row.at key, values⟩] ∧
      (RecordRules.of schema).validate 0 item = .ok values ∧
      ∀ given ∈ values, ∃ column ∈ schema.columns, given = (.of schema column, row.at column) := by
  obtain ⟨values, hvalid, hown⟩ :=
    TableSchema.validate_restated hlawful hfits hretains hitem 0
  have hid : keyOf schema (row.at key).inJson = .ok (.of schema key, row.at key) := by
    simp only [keyOf, hkey, Value.cast?_inJson (hfits.hasType_key hkey)]
  refine ⟨values, ?_, hvalid, hown⟩
  simp only [compile, hid, compileItems, hvalid, bind, Except.bind, pure, Except.pure]

end WriteStatement

namespace Transaction

/-- An update that finds a row and gives it its own values succeeds and changes no engine. -/
theorem update_self {transaction : Transaction} {statement : UpdateStatement} {table : Table}
    {position : Nat} {row : Row} {number : Nat} {item : WriteItem}
    (hfound : transaction.engine.table statement.database statement.table = .ok table)
    (hsound : table.Sound) (hposition : table.find? ⟨[statement.keyValue]⟩ = some position)
    (hrow : table.rows[position]? = some row)
    (hvalid : (RecordRules.of table.schema).validate number item = .ok statement.values)
    (hown : ∀ given ∈ statement.values, ∃ column ∈ table.schema.columns,
      given = (.of table.schema column, row.at column)) :
    ∃ after, transaction.update statement = (.ok ⟨[statement.keyValue]⟩, after) ∧
      after.engine = transaction.engine := by
  obtain ⟨hlt, -⟩ := List.getElem?_eq_some_iff.mp hrow
  obtain ⟨⟨old, changed⟩, hupdate⟩ := table.update_of_validate hsound hvalid hlt
  obtain rfl := Table.update_self hrow hsound.lawful hown hupdate
  refine ⟨transaction.record statement.database changed [.updated position old], ?_, ?_⟩
  · simp only [Transaction.update, hfound, hposition, hupdate]
  · exact Engine.putTable_self hfound

end Transaction

namespace Service

variable {start : Service}

/-- In a service that was built from settings with retained defaults, after requests with finite
numbers, take any row of a table with a single key. The JSON form of the key is read as a record
id, and the record that shows the values of the row outside the key, with its fields in any order,
is compiled under that id into an update. The update finds this row and no other; it succeeds, gives
the key of the row, and leaves all databases as they are. -/
theorem write_back {settings : EngineSettings} (hbuild : settings.build = .ok start.engine)
    (hdefaults : settings.RetainsDefaults) {requests : List ServiceRequest}
    (hfinite : ∀ request ∈ requests, request.IsFinite) {database name : String} {table : Table}
    (hfound : (start.run requests).engine.table database name = .ok table) {key : Column}
    (hkey : table.schema.singleKey? = some key) {position : Nat} {row : Row}
    (hrow : table.rows[position]? = some row) {item : WriteItem}
    (hitem : item.Perm (table.schema.restated row)) :
    ∃ recordId statement after,
      Decoder.optional Value.decode (table.schema.keyOf row).toJson = .ok (some recordId) ∧
      WriteStatement.compile table.schema (some recordId) [item] = .ok [.update statement] ∧
      table.find? ⟨[statement.keyValue]⟩ = some position ∧
      (∀ other (hother : other < table.rows.length),
        (table.schema.keyOf table.rows[other]).same ⟨[statement.keyValue]⟩ = true ↔
          other = position) ∧
      (Transaction.begin (start.run requests).engine).write (.update statement) =
        (.ok (table.schema.keyOf row), after) ∧
      after.engine.databases = (start.run requests).engine.databases := by
  have hsetUp : start.engine.SetUp := .build hbuild
  have hsoundEngine := (integrity_run hsetUp.sound requests).1
  obtain ⟨hdatabase, hsound⟩ := Engine.ForAllTables.of_table hsoundEngine hfound
  have hretained : table.Retained := Engine.ForAllTables.of_table
    (retained_run hsetUp.sound (hdefaults.build hbuild) hfinite) hfound
  obtain ⟨hlt, hget⟩ := List.getElem?_eq_some_iff.mp hrow
  have hmem : row ∈ table.rows := hget ▸ List.getElem_mem hlt
  have hfits := hsound.fits row hmem
  have hretains := hretained.rows row hmem
  obtain ⟨hprimary, hcolumn, -⟩ := TableSchema.mem_of_singleKey? hkey
  have hkeys : table.schema.primaryKey ≠ [] := by simp [hprimary]
  have hkeyOf : table.schema.keyOf row = ⟨[row.at key]⟩ := TableSchema.keyOf_of_singleKey? hkey
  obtain ⟨values, hcompile, hvalid, hown⟩ :=
    WriteStatement.compile_restated hsound.lawful hfits hretains hkey hitem
  have hposition : table.find? ⟨[row.at key]⟩ = some position := by
    rw [← hkeyOf, ← hget]
    exact Table.find?_keyOf hsound hkeys hretained.keysReflexive position hlt
  have hengine : (Transaction.begin (start.run requests).engine).engine.table
      table.schema.database table.schema.name = .ok table := by
    rw [hdatabase, Engine.name_of_table hfound]
    exact hfound
  obtain ⟨after, hafter, hsame⟩ :=
    @Transaction.update_self (.begin (start.run requests).engine)
      ⟨table.schema.database, table.schema.name, .of table.schema key, row.at key, values⟩ table
      position row 0 item hengine hsound hposition hrow hvalid hown
  refine ⟨(row.at key).inJson, _, after, ?_, hcompile, hposition, ?_, ?_, ?_⟩
  · rw [hkeyOf]
    exact Value.optional_decode_toJson (hretains key hcolumn).isFinite (hfits.hasType_key hkey)
  · intro other hother
    rw [← hkeyOf]
    simp only [← hget]
    exact Table.same_keyOf_iff hsound hkeys hretained.keysReflexive hother hlt
  · rw [hkeyOf]
    exact hafter
  · rw [hsame]
    rfl

/-- One of two guests is written back, with the fields in another order. -/
theorem write_back_guests :
    let before := (guestService [] 1).run [.save guestArrivals]
    let item : WriteItem := [("nights", .ofInt64 3), ("name", .text "Bob")]
    guestSettings.build = .ok (guestEngine [] 1) ∧ guestSettings.RetainsDefaults ∧
      (∀ item ∈ guestArrivals.items, item.IsFinite) ∧
      guestSchema.singleKey?.map (·.name) = some "id" ∧
      ∃ statement after,
        WriteStatement.compile guestSchema (some (.int 2)) [item] = .ok [.update statement] ∧
        (Transaction.begin before.engine).write (.update statement) =
          (.ok ⟨[.int 2]⟩, after) ∧
        after.engine.databases = before.engine.databases := by
  intro before item
  have hbuild : guestSettings.build = .ok (guestService [] 1).engine := rfl
  have hdefaults : guestSettings.RetainsDefaults := by
    refine List.forall_mem_singleton.mpr (List.forall_mem_singleton.mpr ?_)
    rw [guestSchema, List.forall_mem_map]
    refine List.forall_mem_cons.mpr ⟨?_, List.forall_mem_cons.mpr
      ⟨?_, List.forall_mem_singleton.mpr ?_⟩⟩
    · rintro cast ⟨⟩ value ⟨⟩
    · rintro cast ⟨⟩ value ⟨⟩
    · rintro cast ⟨⟩ value ⟨⟩
      trivial
  have harrivals : ∀ item ∈ guestArrivals.items, item.IsFinite := by
    refine List.forall_mem_cons.mpr
      ⟨List.forall_mem_singleton.mpr trivial, List.forall_mem_singleton.mpr ?_⟩
    exact List.forall_mem_cons.mpr ⟨trivial, List.forall_mem_singleton.mpr trivial⟩
  have hfinite : ∀ request ∈ [ServiceRequest.save guestArrivals], request.IsFinite :=
    List.forall_mem_singleton.mpr harrivals
  have hfound : before.engine.table "hotel" "guests" =
      .ok ⟨guestSchema, [[.int 1, .text "Ann", .int 1], [.int 2, .text "Bob", .int 3]], 3⟩ :=
    rfl
  obtain ⟨recordId, statement, after, hid, hcompile, -, -, hwrite, hsame⟩ :=
    @write_back (guestService [] 1) guestSettings hbuild hdefaults [.save guestArrivals] hfinite
      "hotel" "guests" _ hfound _ rfl 1 [.int 2, .text "Bob", .int 3] rfl item
      (List.Perm.swap _ _ [])
  obtain rfl : Value.int 2 = recordId := Option.some.inj (Except.ok.inj hid)
  exact ⟨hbuild, hdefaults, harrivals, rfl, statement, after, hcompile, hwrite, hsame⟩

end Service

end Tabula
