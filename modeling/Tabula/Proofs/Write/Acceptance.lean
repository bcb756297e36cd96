import Tabula.Proofs.Table.Numbers
import Tabula.Proofs.Transaction.Rollback
import Tabula.Proofs.Write.Kept

/-!
# What the store makes of compiled records

Records are validated when they are compiled, and the store checks once more what it is given. The
two checks fit together: the values that were kept have the types of their columns, and they are
null only where that is allowed. So the store refuses an insertion only for a null that it has
filled in itself, or for a key that is taken; and it refuses an update only if no row has the key.
-/

namespace Tabula

/-! ### Insertion -/

namespace Table

variable {table : Table} {values : List (ColumnRef × Value)} {number : Nat} {item : WriteItem}

/-- Inserting kept values fails only if the new row of their record is refused. -/
theorem insert_eq_error_iff_of_validate (hlawful : table.schema.Lawful)
    (h : (RecordRules.of table.schema).validate number item = .ok values) {error : StoreError} :
    (table.insert values).1 = .error error ↔
      table.checkRow (table.schema.rowOf table.nextId values) = .error error := by
  obtain ⟨supplied, hsupplied⟩ := TableSchema.checkValues_of_validate hlawful h
  have hdrafted := table.drafted_of_validate hlawful h hsupplied
  rcases table.insert_cases values with
    ⟨_, hother, -⟩ | ⟨other, hother, hcases⟩ <;> rw [hsupplied] at hother <;> cases hother
  rw [hdrafted] at hcases
  rcases hcases with ⟨refusal, hrow, hcase⟩ | ⟨hrow, hcase⟩ <;> simp [hcase, hrow]

/-- A numbered row never has a key that is taken, as long as all numbers are below the next one. -/
theorem find?_rowOf_of_numbered (hsound : table.Sound) (hids : table.IdsBelow)
    (h : (RecordRules.of table.schema).validate number item = .ok values)
    {column : Column} (hcolumn : column ∈ table.schema.columns)
    (hauto : column.isAutoIncrement = true) :
    table.find? (table.schema.keyOf (table.schema.rowOf table.nextId values)) = none := by
  have hkey := ((hsound.lawful.columns column hcolumn).numbered hauto).2
  have hat : (table.schema.rowOf table.nextId values).at column = .int table.nextId := by
    rw [TableSchema.at_rowOf hsound.lawful _ hcolumn,
      RecordRules.lookup_eq_none_of_key hsound.lawful h hcolumn hkey, hauto]
    rfl
  exact find?_keyOf_of_nextId hsound hids hcolumn hauto hat

/-- Inserting kept values fails only for a null or for the key: for a null exactly if a column is
left null, and for the key only if there is one and no column is numbered. -/
theorem insert_outcome_of_validate (hsound : table.Sound) (hids : table.IdsBelow)
    (h : (RecordRules.of table.schema).validate number item = .ok values) :
    (∀ error, (table.insert values).1 = .error error →
      (∃ column, error = .nullValue table.schema.qualifiedName column) ∨
      ∃ key, error = .duplicateKey table.schema.qualifiedName key) ∧
    ((∃ name column, (table.insert values).1 = .error (.nullValue name column)) ↔
      ∃ column ∈ table.schema.columns, column.LeftNull table.schema values) ∧
    ∀ name key, (table.insert values).1 = .error (.duplicateKey name key) →
      table.schema.primaryKey ≠ [] ∧
        ∀ column ∈ table.schema.columns, column.isAutoIncrement = false := by
  simp only [insert_eq_error_iff_of_validate hsound.lawful h]
  have hnulls := TableSchema.checkNulls_rowOf_eq_ok_iff hsound.lawful h table.nextId
  generalize hrow : table.schema.rowOf table.nextId values = row at hnulls ⊢
  rcases table.checkRow_cases row with
    ⟨column, hnot, hcheck⟩ | ⟨hok, ⟨hfind, hcheck⟩ | ⟨position, hfind, hcheck⟩⟩ <;>
    rw [hcheck]
  · refine ⟨fun error herror => ?_, iff_of_true ⟨_, _, rfl⟩ ?_, fun name key herror => ?_⟩
    · cases herror
      exact Or.inl ⟨column, rfl⟩
    · exact not_not.mp fun hnone => hnot (hnulls.mpr hnone)
    · cases herror
  · refine ⟨fun error herror => ?_, iff_of_false ?_ (hnulls.mp hok), fun name key herror => ?_⟩
    · cases herror
    · rintro ⟨name, column, herror⟩
      cases herror
    · cases herror
  · refine ⟨fun error herror => ?_, iff_of_false ?_ (hnulls.mp hok), fun name key herror => ?_⟩
    · cases herror
      exact Or.inr ⟨_, rfl⟩
    · rintro ⟨name, column, herror⟩
      cases herror
    · refine ⟨fun hkey => ?_, fun column hcolumn => Bool.eq_false_iff.mpr fun hauto => ?_⟩
      · simp [find?, hkey] at hfind
      · have hnew := find?_rowOf_of_numbered hsound hids h hcolumn hauto
        rw [hrow, hfind] at hnew
        cases hnew

/-! ### Update -/

/-- Updating a row with kept values succeeds. -/
theorem update_of_validate (hsound : table.Sound)
    (h : (RecordRules.of table.schema).validate number item = .ok values) {position : Nat}
    (hposition : position < table.rows.length) :
    ∃ changed, table.update position values = .ok changed := by
  obtain ⟨supplied, hsupplied⟩ := TableSchema.checkValues_of_validate hsound.lawful h
  have hfits := hsound.fits _ (List.getElem_mem hposition)
  have hnulls : table.schema.checkNulls (overwrite table.rows[position] supplied) = .ok () := by
    refine TableSchema.checkNulls_eq_ok_iff.mpr fun column hcolumn hnull => ?_
    have hadmits : column.Admits ((overwrite table.rows[position] supplied).at column) := by
      rcases at_overwrite table.rows[position] supplied column with
        hold | ⟨change, hchange, hindex, hvalue⟩
      · exact hold ▸ hfits.admits column hcolumn
      · obtain ⟨hmem, -, given, hgiven, hfound, hgivenValue⟩ :=
          TableSchema.of_mem_checkValues hsupplied hchange
        obtain ⟨own, hown, href, hadmits⟩ := RecordRules.admits_of_validate h hgiven
        rw [href, ColumnRef.of, hsound.lawful.column?_name hown, Option.some.injEq] at hfound
        rw [hvalue, ← hgivenValue, ← hsound.lawful.eq_of_index hmem hcolumn hindex, ← hfound]
        exact hadmits
    simpa [TableSchema.allowsNull] using hadmits.null hnull
  simp [update, hposition, hsupplied, hnulls, bind, Except.bind, pure, Except.pure]

/-- A row is not found by a value exactly if no key consists of it alone. -/
theorem find?_single_eq_none_iff {value : Value} :
    table.find? ⟨[value]⟩ = none ↔
      ∀ row ∈ table.rows, (table.schema.keyOf row).same ⟨[value]⟩ = false := by
  by_cases hkey : table.schema.primaryKey = []
  · simp [find?, hkey, TableSchema.keyOf, RowKey.same, sameRow]
  · exact find?_eq_none_iff hkey

/-- A row that is found by a key has that key. -/
theorem getElem_of_find? {key : RowKey} {position : Nat} (h : table.find? key = some position) :
    ∃ hlt : position < table.rows.length,
      (table.schema.keyOf table.rows[position]).same key = true := by
  unfold find? at h
  split at h
  · cases h
  · obtain ⟨hlt, hsame, -⟩ := List.findIdx?_eq_some_iff_getElem.mp h
    exact ⟨hlt, hsame⟩

end Table

namespace Transaction

variable {transaction : Transaction} {table : Table} {values : List (ColumnRef × Value)}

/-- In a transaction an insertion ends as its table says. -/
theorem insert_eq_error_iff {statement : InsertStatement}
    (hfound : transaction.engine.table statement.database statement.table = .ok table)
    {error : StoreError} :
    (transaction.insert statement).1 = .error error ↔
      (table.insert statement.values).1 = .error error := by
  rcases transaction.insert_cases statement with
    ⟨_, hother, -⟩ | ⟨found, changed, hother, ⟨_, hinsert, hcase⟩ | ⟨_, hinsert, hcase⟩⟩ <;>
    rw [hfound] at hother <;> cases hother <;> simp [hcase, hinsert]

/-- An update with kept values fails only if no row has the key. -/
theorem update_eq_error_iff_of_validate {statement : UpdateStatement}
    (hfound : transaction.engine.table statement.database statement.table = .ok table)
    (hsound : table.Sound) {number : Nat} {item : WriteItem}
    (h : (RecordRules.of table.schema).validate number item = .ok statement.values)
    {error : StoreError} :
    (transaction.update statement).1 = .error error ↔
      error = .recordNotFound table.schema.qualifiedName ⟨[statement.keyValue]⟩ ∧
        ∀ row ∈ table.rows, (table.schema.keyOf row).same ⟨[statement.keyValue]⟩ = false := by
  rw [← Table.find?_single_eq_none_iff]
  cases hposition : table.find? ⟨[statement.keyValue]⟩ with
  | none => simp [Transaction.update, hfound, hposition, eq_comm]
  | some position =>
    obtain ⟨hlt, -⟩ := Table.getElem_of_find? hposition
    obtain ⟨changed, hupdate⟩ := table.update_of_validate hsound h hlt
    simp [Transaction.update, hfound, hposition, hupdate]

end Transaction

namespace WriteStatement

/-- Records that have been compiled for a lawful table meet a sound table of that schema. An
insertion fails only for a null or for the key. It fails for a null exactly if some column of the
key that is not numbered has no default but null, or some other column that admits no null is left
out and has the default null; it fails for the key only if there is one and no column is numbered.
An update fails only for want of a row, exactly if no row has the key. -/
theorem write_outcome {database : String} {spec : TableSpec} {schema : TableSchema}
    (hschema : TableSchema.ofSpec database spec = .ok schema) {recordId : Option Value}
    {items : List WriteItem} {statements : List WriteStatement}
    (hcompiled : compile schema recordId items = .ok statements) {transaction : Transaction}
    {table : Table}
    (hfound : transaction.engine.table schema.database schema.name = .ok table)
    (hown : table.schema = schema) (hfits : ∀ row ∈ table.rows, schema.Fits row)
    (hkeys : schema.primaryKey ≠ [] → table.KeysDiffer) (hids : table.IdsBelow)
    {statement : WriteStatement} (hstatement : statement ∈ statements) :
    match statement with
    | .insert insertion =>
      (∀ error, (transaction.write statement).1 = .error error →
        (∃ name column, error = .nullValue name column) ∨
        ∃ name key, error = .duplicateKey name key) ∧
      ((∃ name column, (transaction.write statement).1 = .error (.nullValue name column)) ↔
        (∃ column ∈ schema.columns, column.isPrimaryKey = true ∧
          column.isAutoIncrement = false ∧
          ∀ value, column.default = some value → value = .null) ∨
        ∃ column ∈ schema.columns, column.isPrimaryKey = false ∧ column.isNullable = false ∧
          (∀ given ∈ insertion.values, given.1 ≠ .of schema column) ∧
          column.default = some .null) ∧
      ∀ name key, (transaction.write statement).1 = .error (.duplicateKey name key) →
        schema.primaryKey ≠ [] ∧ ∀ column ∈ schema.columns, column.isAutoIncrement = false
    | .update change =>
      ∀ error, (transaction.write statement).1 = .error error ↔
        error = .recordNotFound schema.qualifiedName ⟨[change.keyValue]⟩ ∧
          ∀ row ∈ table.rows, (schema.keyOf row).same ⟨[change.keyValue]⟩ = false := by
  subst hown
  have hsound : table.Sound := ⟨(TableSchema.lawful_of_ofSpec hschema).1, hfits, hkeys⟩
  obtain ⟨key, kept, hkept, rfl, -⟩ := compile_eq_ok hcompiled
  obtain ⟨values, hvalues, rfl⟩ := List.mem_map.mp hstatement
  obtain ⟨number, item, hvalid⟩ := RecordRules.exists_of_mem_kept hkept hvalues
  cases key with
  | none =>
    obtain ⟨herrors, hnull, hkey⟩ := table.insert_outcome_of_validate hsound hids hvalid
    have hinsert {error : StoreError} :
        (transaction.insert ⟨table.schema.database, table.schema.name, values⟩).1 =
          .error error ↔ (table.insert values).1 = .error error :=
      Transaction.insert_eq_error_iff hfound
    simp only [ofValues, Transaction.write, hinsert]
    refine ⟨fun error herror => ?_, ?_, hkey⟩
    · exact (herrors error herror).imp (fun h => ⟨_, h⟩) fun h => ⟨_, h⟩
    · rw [hnull, ← exists_or]
      simp only [← and_or_left, Column.LeftNull]
  | some key =>
    exact fun error => Transaction.update_eq_error_iff_of_validate hfound hsound hvalid

/-- The bookings of a hotel. A record may leave out the room, but the default of the room is null,
which the column does not admit. -/
def bookingSchema : TableSchema where
  database := "hotel"
  name := "bookings"
  columns := [
    ⟨⟨"id", .int, false, true, true, none, none⟩, 0⟩,
    ⟨⟨"room", .int, false, false, false, some .null, none⟩, 1⟩]

/-- A guest who is not there cannot change the name, and a booking without a room is compiled and
then refused for the null. -/
theorem write_outcome_guests :
    let rows : List Row := [[.int 1, .text "Ann", .int 2]]
    let change : UpdateStatement :=
      ⟨"hotel", "guests", guestId, .int 7, [(guestName, .text "Bob")]⟩
    let bookings : Engine := ⟨[⟨"hotel", [.empty bookingSchema]⟩], 0⟩
    let booking : InsertStatement := ⟨"hotel", "bookings", []⟩
    (compile guestSchema (some (.int 7)) [[("name", .text " Bob ")]] = .ok [.update change] ∧
      (∀ row ∈ rows, guestSchema.Fits row) ∧ Table.KeysDiffer ⟨guestSchema, rows, 2⟩ ∧
      Table.IdsBelow ⟨guestSchema, rows, 2⟩ ∧
      ((Transaction.begin (guestEngine rows 2)).write (.update change)).1 =
        .error (.recordNotFound "hotel.guests" ⟨[.int 7]⟩)) ∧
    compile bookingSchema none [[]] = .ok [.insert booking] ∧
      (Table.empty bookingSchema).Sound ∧ (Table.empty bookingSchema).IdsBelow ∧
      ∃ name column, ((Transaction.begin bookings).write (.insert booking)).1 =
        .error (.nullValue name column) := by
  intro rows change bookings booking
  constructor
  · have hschema : TableSchema.ofSpec "hotel"
        ⟨"guests", guestSchema.columns.map (·.toColumnSpec)⟩ = .ok guestSchema := rfl
    have hcompiled : compile guestSchema (some (.int 7)) [[("name", .text " Bob ")]] =
        .ok [.update change] := rfl
    have hfits : ∀ row ∈ rows, guestSchema.Fits row := by
      refine List.forall_mem_singleton.mpr ⟨rfl, ?_⟩
      simp only [guestSchema, List.forall_mem_cons]
      exact ⟨⟨Or.inr rfl, nofun⟩, ⟨Or.inr rfl, nofun⟩, ⟨Or.inr rfl, nofun⟩, by simp⟩
    have hkeys : Table.KeysDiffer ⟨guestSchema, rows, 2⟩ :=
      Table.keysDiffer_iff_pairwise.mpr (List.pairwise_singleton _ _)
    have hids : Table.IdsBelow ⟨guestSchema, rows, 2⟩ := by
      unfold Table.IdsBelow
      simp [guestSchema, rows, Row.at]
    have hfound : (Transaction.begin (guestEngine rows 2)).engine.table guestSchema.database
        guestSchema.name = .ok ⟨guestSchema, rows, 2⟩ := rfl
    have houtcome := write_outcome hschema hcompiled hfound rfl hfits (fun _ => hkeys) hids
      List.mem_cons_self
    exact ⟨hcompiled, hfits, hkeys, hids, (houtcome _).mpr ⟨rfl, by decide +kernel⟩⟩
  · have hschema : TableSchema.ofSpec "hotel"
        ⟨"bookings", bookingSchema.columns.map (·.toColumnSpec)⟩ = .ok bookingSchema := rfl
    have hcompiled : compile bookingSchema none [[]] = .ok [.insert booking] := rfl
    have hsound := Table.Sound.empty (TableSchema.lawful_of_ofSpec hschema).1
    have hids := Table.IdsBelow.empty bookingSchema
    have hfound : (Transaction.begin bookings).engine.table bookingSchema.database
        bookingSchema.name = .ok (.empty bookingSchema) := rfl
    obtain ⟨-, hnull, -⟩ := write_outcome hschema hcompiled hfound rfl hsound.fits hsound.keys hids
      List.mem_cons_self
    refine ⟨hcompiled, hsound, hids, hnull.mpr (Or.inr ?_)⟩
    exact ⟨_, List.mem_cons_of_mem _ List.mem_cons_self, rfl, rfl, List.forall_mem_nil _, rfl⟩

end WriteStatement

end Tabula
