import Tabula.Proofs.Json.Fields
import Tabula.Proofs.Transaction.Rollback
import Tabula.Proofs.Write.Kept

/-!
# Valid records

Which records are valid for a table, and what is written of them, is said column by column and
without the order in which rules are applied and fields are read. Compilation accepts exactly the
valid records, reports the first that is not valid, and writes exactly these values. So the order
of the fields of a record does not matter.
-/

namespace Tabula

/-! ### What is valid and what is written -/

namespace Column

/-- A column takes the value of a field. It takes null if it is nullable or has a default, and any
other value that can be read and converted to its type, where a text may not be too long. -/
structure Takes (column : Column) (json : Json) : Prop where
  null : json = .null → column.isNullable = true ∨ column.hasDefault = true
  value : json ≠ .null → ∃ given converted, Value.ofJson json = .ok given ∧
    given.coerce? column.type = some converted ∧
    ∀ text, converted = .text text →
      ∀ maxLength, column.maxLength = some maxLength → text.length ≤ maxLength.toNat

/-- A column accepts a record, in which it may be left out if it is nullable or has a default. -/
structure Accepts (column : Column) (item : WriteItem) : Prop where
  present : column.isNullable = false → column.hasDefault = false →
    (Json.field? column.name item).isSome = true
  takes : ∀ json, Json.field? column.name item = some json → column.Takes json

/-- What a field stands for in a column: null for null, and any other value converted to the type
of the column. -/
def read? (column : Column) : Json → Option Value
  | .null => some .null
  | json => (Value.ofJson json).toOption.bind (·.coerce? column.type)

/-- What is written to a column of a record that has a field for it, except that a column with a
default is left to that by an empty value other than `false`. -/
def written? (column : Column) (item : WriteItem) : Option Value :=
  ((Json.field? column.name item).bind column.read?).filter fun value =>
    !(column.hasDefault && value.isFalsy && value ≠ .bool false)

end Column

/-- A record is valid for a table if all its fields are columns outside the key and all these
columns accept it. -/
structure WriteItem.Valid (item : WriteItem) (schema : TableSchema) : Prop where
  known : ∀ field ∈ item, ∃ column ∈ schema.columns,
    column.isPrimaryKey = false ∧ column.name = field.1
  accepted : ∀ column ∈ schema.columns, column.isPrimaryKey = false → column.Accepts item

/-- What is written of a record, in the order of the columns. -/
def TableSchema.writtenOf (schema : TableSchema) (item : WriteItem) : List (ColumnRef × Value) :=
  (schema.columns.filter (!·.isPrimaryKey)).filterMap fun column =>
    (column.written? item).map (.of schema column, ·)

/-- The number of the record that a failure is about. -/
def WriteError.item? : WriteError → Option Nat
  | .severalUpdates | .noUpdate | .noSingleKey _ | .recordIdType _ _ => none
  | .unknownField item _ | .missingField item _ | .wrongType item _ _ _
  | .nullNotAllowed item _ | .tooLong item _ _ => some item

/-- The report of a failure that is about a record begins with the number of the record. -/
theorem WriteError.report_of_item? {error : WriteError} {number : Nat}
    (h : error.item? = some number) :
    error.report.kind = .writeValidation ∧
      ∃ reason, error.report.message = "item " ++ toString number ++ ": " ++ reason := by
  cases error with
  | unknownField item field =>
    cases h
    refine ⟨rfl, s!"unknown field {field}", ?_⟩
    simp only [report, String.append_assoc]
    rfl
  | missingField item field =>
    cases h
    refine ⟨rfl, s!"field {field} is required", ?_⟩
    simp only [report, String.append_assoc]
    rfl
  | wrongType item field json expected =>
    cases h
    refine ⟨rfl, s!"invalid value {json.render} for field {field}, expected {expected.name}", ?_⟩
    simp only [report, String.append_assoc]
    rfl
  | nullNotAllowed item field =>
    cases h
    refine ⟨rfl, s!"field {field} cannot be null", ?_⟩
    simp only [report, String.append_assoc]
    rfl
  | tooLong item field maxLength =>
    cases h
    refine ⟨rfl, s!"field {field} exceeds max length {maxLength.toNat}", ?_⟩
    simp only [report, String.append_assoc]
    rfl
  | _ => cases h

/-! ### Rules accept what their columns accept -/

/-- Only null is read as null. -/
theorem Value.isNull_of_ofJson {json : Json} {value : Value} (h : Value.ofJson json = .ok value) :
    value.isNull = true ↔ json = .null := by
  cases json with
  | int number _ =>
    simp only [Value.ofJson] at h
    split at h <;> cases h
    simp [Value.isNull]
  | _ =>
    cases h <;> simp [Value.isNull]

namespace Column

variable {column : Column} {json : Json}

/-- What a column needs to take null. -/
theorem takes_null_iff :
    column.Takes .null ↔ column.isNullable = true ∨ column.hasDefault = true :=
  ⟨fun h => h.null rfl, fun h => ⟨fun _ => h, fun hne => absurd rfl hne⟩⟩

/-- A column accepts a record without a field for it if it is nullable or has a default. -/
theorem accepts_iff_of_none {item : WriteItem} (h : Json.field? column.name item = none) :
    column.Accepts item ↔ column.isNullable = true ∨ column.hasDefault = true := by
  constructor
  · intro haccepts
    by_contra hnot
    obtain ⟨hnullable, hdefault⟩ := not_or.mp hnot
    have hpresent := haccepts.present (Bool.eq_false_iff.mpr hnullable)
      (Bool.eq_false_iff.mpr hdefault)
    rw [h] at hpresent
    cases hpresent
  · intro hoptional
    refine ⟨fun hnullable hdefault => ?_, fun json hjson => ?_⟩
    · simp [hnullable, hdefault] at hoptional
    · rw [h] at hjson
      cases hjson

/-- A column accepts a record with a field for it if it takes that field. -/
theorem accepts_iff_of_some {item : WriteItem} (h : Json.field? column.name item = some json) :
    column.Accepts item ↔ column.Takes json := by
  refine ⟨fun haccepts => haccepts.takes json h, fun htakes => ⟨fun _ _ => ?_, ?_⟩⟩
  · rw [h]
    rfl
  · intro other hother
    rw [h] at hother
    cases hother
    exact htakes

/-- Any other field than null is read and converted. -/
theorem read?_of_ne_null (h : json ≠ .null) :
    column.read? json = (Value.ofJson json).toOption.bind (·.coerce? column.type) := by
  cases json with
  | null => exact absurd rfl h
  | _ => rfl

/-- A column reads what it takes. -/
theorem Takes.exists_read? (h : column.Takes json) : ∃ value, column.read? json = some value := by
  by_cases hnull : json = .null
  · subst hnull
    exact ⟨.null, rfl⟩
  · obtain ⟨given, converted, hgiven, hcoerce, -⟩ := h.value hnull
    refine ⟨converted, ?_⟩
    rw [read?_of_ne_null hnull, hgiven]
    exact hcoerce

end Column

namespace FieldRule

variable {schema : TableSchema} {column : Column} {number : Nat} {json : Json} {value : Value}
  {item : WriteItem}

/-- A value exceeds no bound unless it is a text that is longer than its column takes. -/
theorem exceeds_eq_none_iff :
    (FieldRule.of schema column).exceeds value = none ↔
      ∀ text, value = .text text →
        ∀ maxLength, column.maxLength = some maxLength → text.length ≤ maxLength.toNat := by
  cases value with
  | text text => simp [exceeds_text_eq_none_iff]
  | _ => simp [exceeds]

/-- A rule reads null where its column takes it. -/
theorem valueOf_null_eq_ok_iff :
    (FieldRule.of schema column).valueOf number .null = .ok value ↔
      (column.isNullable = true ∨ column.hasDefault = true) ∧ value = .null := by
  cases hnullable : column.isNullable <;> cases hdefault : column.hasDefault <;>
    simp [valueOf, Value.ofJson, Value.isNull, of, hnullable, hdefault, eq_comm]

/-- A rule reads any other field that can be read and converted. -/
theorem valueOf_eq_ok_iff_of_ne_null (h : json ≠ .null) :
    (FieldRule.of schema column).valueOf number json = .ok value ↔
      ∃ given, Value.ofJson json = .ok given ∧ given.coerce? column.type = some value := by
  cases hgiven : Value.ofJson json with
  | error error => simp [valueOf, hgiven]
  | ok given =>
    have hfull : given.isNull = false :=
      Bool.eq_false_iff.mpr fun hnull => h ((Value.isNull_of_ofJson hgiven).mp hnull)
    have htype : (FieldRule.of schema column).column.type = column.type := rfl
    simp only [valueOf, hgiven, hfull, Bool.false_eq_true, if_false, htype, Except.ok.injEq,
      exists_eq_left']
    cases given.coerce? column.type <;> simp

/-- A rule reads a field, and finds its value short enough, exactly if its column takes the
field. -/
theorem valueOf_eq_ok_iff :
    (FieldRule.of schema column).valueOf number json = .ok value ∧
        (FieldRule.of schema column).exceeds value = none ↔
      column.Takes json ∧ column.read? json = some value := by
  by_cases hnull : json = .null
  · subst hnull
    rw [valueOf_null_eq_ok_iff, Column.takes_null_iff, Column.read?, Option.some.injEq, and_assoc,
      eq_comm (a := value)]
    refine and_congr_right fun _ => and_iff_left_of_imp ?_
    rintro rfl
    rfl
  · rw [valueOf_eq_ok_iff_of_ne_null hnull, exceeds_eq_none_iff, Column.read?_of_ne_null hnull]
    constructor
    · rintro ⟨⟨given, hgiven, hcoerce⟩, hshort⟩
      refine ⟨⟨fun h => absurd h hnull, fun _ => ⟨given, value, hgiven, hcoerce, hshort⟩⟩, ?_⟩
      rw [hgiven]
      exact hcoerce
    · rintro ⟨htakes, hread⟩
      obtain ⟨given, converted, hgiven, hcoerce, hshort⟩ := htakes.value hnull
      rw [hgiven] at hread
      obtain rfl : converted = value := Option.some.inj (hcoerce.symm.trans hread)
      exact ⟨⟨given, hgiven, hcoerce⟩, hshort⟩

/-- A rule accepts the records that its column accepts, and keeps what is written of them. -/
theorem apply_eq_ok_iff {result : Option (ColumnRef × Value)} :
    (FieldRule.of schema column).apply number item = .ok result ↔
      column.Accepts item ∧ result = (column.written? item).map (.of schema column, ·) := by
  have hname : (FieldRule.of schema column).column.name = column.name := rfl
  unfold apply Column.written?
  rw [hname]
  cases hfield : Json.field? column.name item with
  | none =>
    rw [Column.accepts_iff_of_none hfield]
    cases hnullable : column.isNullable <;> cases hdefault : column.hasDefault <;>
      simp [of, hnullable, hdefault, eq_comm]
  | some json =>
    have hleft {value : Value} :
        (((some value).filter fun value =>
          !(column.hasDefault && value.isFalsy && value ≠ .bool false)).map
            fun value => (ColumnRef.of schema column, value)) =
          if (FieldRule.of schema column).leavesToDefault value then none
          else some (.of schema column, value) := by
      change ((some value).filter fun value =>
        !(FieldRule.of schema column).leavesToDefault value).map _ = _
      cases hleaves : (FieldRule.of schema column).leavesToDefault value <;>
        simp [Option.filter, hleaves]
    rw [Column.accepts_iff_of_some hfield, Option.bind_some, bind_eq_ok_iff]
    constructor
    · rintro ⟨value, hvalue, hresult⟩
      split at hresult
      · cases hresult
      · rename_i hshort
        obtain ⟨htakes, hread⟩ := valueOf_eq_ok_iff.mp ⟨hvalue, hshort⟩
        rw [hread, hleft]
        exact ⟨htakes, (Except.ok.inj hresult).symm⟩
    · rintro ⟨htakes, rfl⟩
      obtain ⟨value, hread⟩ := htakes.exists_read?
      obtain ⟨hvalue, hshort⟩ : (FieldRule.of schema column).valueOf number json = .ok value ∧
          (FieldRule.of schema column).exceeds value = none :=
        valueOf_eq_ok_iff.mpr ⟨htakes, hread⟩
      refine ⟨value, hvalue, ?_⟩
      rw [hshort, hread, hleft]
      rfl

/-- What is wrong with a field is reported under the number of the record. -/
theorem item?_of_valueOf {rule : FieldRule} {error : WriteError}
    (h : rule.valueOf number json = .error error) : error.item? = some number := by
  unfold valueOf at h
  split at h
  · cases h
    rfl
  · split at h
    · split at h <;> cases h
      rfl
    · split at h <;> cases h
      rfl

/-- What is wrong by a rule is reported under the number of the record. -/
theorem item?_of_apply {rule : FieldRule} {error : WriteError}
    (h : rule.apply number item = .error error) : error.item? = some number := by
  unfold apply at h
  split at h
  · split at h <;> cases h
    rfl
  · rename_i json hfield
    cases hvalue : rule.valueOf number json with
    | error other =>
      rw [hvalue] at h
      cases h
      exact item?_of_valueOf hvalue
    | ok value =>
      simp only [hvalue, bind, Except.bind] at h
      split at h <;> cases h
      rfl

end FieldRule

/-! ### Records -/

namespace RecordRules

variable {schema : TableSchema} {number : Nat} {item : WriteItem}

/-- There are rules for the columns outside the key. -/
theorem knows_iff {name : String} :
    (RecordRules.of schema).knows name = true ↔
      ∃ column ∈ schema.columns, column.isPrimaryKey = false ∧ column.name = name := by
  simp [knows, of, FieldRule.of, ColumnRef.of]

/-- All rules accept a record if all columns outside the key do, and keep what is written to
them. -/
theorem mapM_apply_eq_ok_iff {results : List (Option (ColumnRef × Value))} :
    (RecordRules.of schema).mapM (fun rule => rule.apply number item) = .ok results ↔
      (∀ column ∈ schema.columns, column.isPrimaryKey = false → column.Accepts item) ∧
        results = (schema.columns.filter (!·.isPrimaryKey)).map fun column =>
          (column.written? item).map (.of schema column, ·) := by
  rw [mapM_eq_ok_iff, of, List.forall₂_map_left_iff]
  simp only [FieldRule.apply_eq_ok_iff, List.forall₂_and_left]
  refine and_congr (by simp) ?_
  rw [eq_comm, ← List.forall₂_eq_eq_eq, List.forall₂_map_left_iff]
  simp only [eq_comm]

/-- Validation accepts exactly the valid records, and keeps what is written of them. -/
theorem validate_eq_ok_iff {values : List (ColumnRef × Value)} :
    (RecordRules.of schema).validate number item = .ok values ↔
      item.Valid schema ∧ values = schema.writtenOf item := by
  unfold validate
  split
  · rename_i field hfield
    have hunknown := List.find?_some hfield
    refine iff_of_false nofun fun h => ?_
    rw [knows_iff.mpr (h.1.known field (List.mem_of_find?_eq_some hfield))] at hunknown
    cases hunknown
  · rename_i hnone
    have hknown : ∀ field ∈ item, ∃ column ∈ schema.columns,
        column.isPrimaryKey = false ∧ column.name = field.1 := fun field hfield =>
      knows_iff.mp (by simpa using List.find?_eq_none.mp hnone field hfield)
    rw [bind_eq_ok_iff]
    simp only [mapM_apply_eq_ok_iff]
    constructor
    · rintro ⟨results, ⟨haccepted, rfl⟩, hvalues⟩
      cases hvalues
      refine ⟨⟨hknown, haccepted⟩, ?_⟩
      rw [List.filterMap_map]
      rfl
    · rintro ⟨hvalid, rfl⟩
      refine ⟨_, ⟨hvalid.accepted, rfl⟩, ?_⟩
      rw [List.filterMap_map]
      rfl

/-- Validation keeps of a valid record what is written of it. -/
theorem validate_writtenOf (h : item.Valid schema) (number : Nat) :
    (RecordRules.of schema).validate number item = .ok (schema.writtenOf item) :=
  validate_eq_ok_iff.mpr ⟨h, rfl⟩

/-- A record that is not valid is reported under its number. -/
theorem item?_of_validate {rules : RecordRules} {error : WriteError}
    (h : rules.validate number item = .error error) : error.item? = some number := by
  unfold validate at h
  split at h
  · cases h
    rfl
  · cases hresults : rules.mapM fun rule => rule.apply number item with
    | ok results =>
      rw [hresults] at h
      cases h
    | error other =>
      rw [hresults] at h
      cases h
      obtain ⟨rule, -, hrule⟩ := exists_of_mapM_eq_error hresults
      exact FieldRule.item?_of_apply hrule

end RecordRules

/-! ### The order of the fields -/

section Order

variable {schema : TableSchema} {item other : WriteItem}

/-- A field is found in whatever order the fields are, if no name repeats. -/
theorem Json.field?_of_perm (hnames : (item.map (·.1)).Nodup) (h : item.Perm other)
    (name : String) : Json.field? name other = Json.field? name item := by
  have hother : (other.map (·.1)).Nodup := (h.map (·.1)).nodup_iff.mp hnames
  refine Option.ext fun json => ?_
  rw [Json.field?, Json.field?, lookup_eq_some_iff_mem hother, lookup_eq_some_iff_mem hnames,
    h.mem_iff]

/-- A record is as valid as it is with its fields in another order. -/
theorem WriteItem.Valid.of_perm (hvalid : item.Valid schema) (hnames : (item.map (·.1)).Nodup)
    (h : item.Perm other) : other.Valid schema where
  known field hfield := hvalid.known field (h.mem_iff.mpr hfield)
  accepted column hcolumn hkey := by
    have hfield := Json.field?_of_perm hnames h column.name
    obtain ⟨hpresent, htakes⟩ := hvalid.accepted column hcolumn hkey
    exact ⟨hfield ▸ hpresent, hfield ▸ htakes⟩

/-- The same is written of a record whatever the order of its fields. -/
theorem TableSchema.writtenOf_of_perm (hnames : (item.map (·.1)).Nodup) (h : item.Perm other) :
    schema.writtenOf other = schema.writtenOf item := by
  simp only [writtenOf, Column.written?, Json.field?_of_perm hnames h]

end Order

/-! ### Statements -/

namespace WriteStatement

variable {schema : TableSchema}

/-- Records are compiled if all are valid, each into the statement that writes it. -/
theorem compileItems_eq_ok_iff_valid {key : Option (ColumnRef × Value)} {number : Nat}
    {items : List WriteItem} {statements : List WriteStatement} :
    compileItems schema key number items = .ok statements ↔
      (∀ item ∈ items, item.Valid schema) ∧
        statements = items.map fun item => ofValues schema key (schema.writtenOf item) := by
  induction items generalizing number statements with
  | nil => simp [compileItems, eq_comm]
  | cons item rest ih =>
    simp only [compileItems, bind_eq_ok_iff, RecordRules.validate_eq_ok_iff, ih,
      List.forall_mem_cons, List.map_cons]
    constructor
    · rintro ⟨_, ⟨hitem, rfl⟩, _, ⟨hrest, rfl⟩, hstatements⟩
      cases hstatements
      exact ⟨⟨hitem, hrest⟩, rfl⟩
    · rintro ⟨⟨hitem, hrest⟩, rfl⟩
      exact ⟨_, ⟨hitem, rfl⟩, _, ⟨hrest, rfl⟩, rfl⟩

/-- If records are not compiled, then the first that is not valid is reported. -/
theorem exists_of_compileItems_eq_error {key : Option (ColumnRef × Value)} {number : Nat}
    {items : List WriteItem} {error : WriteError}
    (h : compileItems schema key number items = .error error) :
    ∃ before item after, items = before ++ item :: after ∧
      (∀ earlier ∈ before, earlier.Valid schema) ∧ ¬ item.Valid schema ∧
      error.item? = some (number + before.length) := by
  induction items generalizing number with
  | nil => cases h
  | cons item rest ih =>
    cases hitem : (RecordRules.of schema).validate number item with
    | error other =>
      simp only [compileItems, hitem, bind, Except.bind, Except.error.injEq] at h
      subst h
      refine ⟨[], item, rest, rfl, List.forall_mem_nil _, fun hvalid => ?_,
        RecordRules.item?_of_validate hitem⟩
      rw [RecordRules.validate_writtenOf hvalid] at hitem
      cases hitem
    | ok values =>
      cases hrest : compileItems schema key (number + 1) rest with
      | ok statements => simp [compileItems, hitem, hrest, bind, Except.bind, pure, Except.pure] at h
      | error other =>
        simp only [compileItems, hitem, hrest, bind, Except.bind, Except.error.injEq] at h
        subst h
        obtain ⟨before, first, after, rfl, hbefore, hfirst, hnumber⟩ := ih hrest
        refine ⟨item :: before, first, after, rfl, ?_, hfirst, ?_⟩
        · exact List.forall_mem_cons.mpr
            ⟨(RecordRules.validate_eq_ok_iff.mp hitem).1, hbefore⟩
        · rw [hnumber, List.length_cons, Nat.add_right_comm, Nat.add_assoc]

/-- Records with their fields in other orders are compiled into the same statements, if any. -/
theorem compileItems_of_perm {key : Option (ColumnRef × Value)} {number : Nat}
    {items others : List WriteItem} {statements : List WriteStatement}
    (h : List.Forall₂ (fun item other => (item.map (·.1)).Nodup ∧ item.Perm other) items others) :
    compileItems schema key number others = .ok statements ↔
      compileItems schema key number items = .ok statements := by
  have hvalid : (∀ other ∈ others, other.Valid schema) ↔ ∀ item ∈ items, item.Valid schema := by
    constructor
    · intro hall item hitem
      obtain ⟨other, hother, hnames, hperm⟩ := exists_of_mem_left h hitem
      exact (hall other hother).of_perm ((hperm.map (·.1)).nodup_iff.mp hnames) hperm.symm
    · intro hall other hother
      obtain ⟨item, hitem, hnames, hperm⟩ := exists_of_mem_right h hother
      exact (hall item hitem).of_perm hnames hperm
  have hwritten : others.map (fun item => ofValues schema key (schema.writtenOf item)) =
      items.map fun item => ofValues schema key (schema.writtenOf item) :=
    map_eq_of_forall₂ (h.imp fun _ _ hpair =>
      congrArg (ofValues schema key) (TableSchema.writtenOf_of_perm hpair.1 hpair.2))
  rw [compileItems_eq_ok_iff_valid, compileItems_eq_ok_iff_valid, hvalid, hwritten]

/-- Records to insert are compiled exactly if all of them are valid, each into the statement that
inserts what is written of it. Otherwise the first that is not valid is reported. The order of the
fields does not matter: of the same records in other orders none are compiled, or the same
statements. -/
theorem compile_iff_valid (schema : TableSchema) (items : List WriteItem) :
    (∀ statements, compile schema none items = .ok statements ↔
      (∀ item ∈ items, item.Valid schema) ∧
        statements = items.map fun item =>
          .insert ⟨schema.database, schema.name, schema.writtenOf item⟩) ∧
    (∀ error, compile schema none items = .error error →
      ∃ before item after, items = before ++ item :: after ∧
        (∀ earlier ∈ before, earlier.Valid schema) ∧ ¬ item.Valid schema ∧
        error.item? = some before.length ∧ error.report.kind = .writeValidation ∧
        ∃ reason, error.report.message = "item " ++ toString before.length ++ ": " ++ reason) ∧
    ∀ others, List.Forall₂ (fun item other => (item.map (·.1)).Nodup ∧ item.Perm other)
        items others →
      ∀ statements, compile schema none others = .ok statements ↔
        compile schema none items = .ok statements := by
  refine ⟨fun statements => compileItems_eq_ok_iff_valid, fun error herror => ?_,
    fun others hothers statements => ?_⟩
  · obtain ⟨before, item, after, hitems, hbefore, hitem, hnumber⟩ :=
      exists_of_compileItems_eq_error herror
    rw [Nat.zero_add] at hnumber
    obtain ⟨hkind, hmessage⟩ := WriteError.report_of_item? hnumber
    exact ⟨before, item, after, hitems, hbefore, hitem, hnumber, hkind, hmessage⟩
  · exact compileItems_of_perm hothers

/-- A record is kept with its name trimmed and without the nights, which are zero and so left to
their default. -/
example : compile guestSchema none [[("nights", .ofInt64 0), ("name", .text " Ann ")]] =
    .ok [.insert ⟨"hotel", "guests", [(guestName, .text "Ann")]⟩] := rfl

end WriteStatement

end Tabula
