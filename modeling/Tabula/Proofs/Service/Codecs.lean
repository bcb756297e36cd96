import Tabula.Query.RequestJson
import Tabula.Settings.Codec
import Tabula.Proofs.Json.Records
import Tabula.Proofs.Value.Json

/-!
# Requests and settings through JSON

Requests and settings are read back from the JSON that is written for them, part by part. Their
values must be plain: JSON has no dates, and floating-point numbers are left out here.
-/

namespace Tabula

variable {depth : Nat}

/-! ### Words -/

/-- An unsigned word is the word that its number is. -/
theorem unsignedWord?_toNat (n : UInt64) : unsignedWord? n.toNat = some n := by
  have hlt := n.toNat_lt
  rw [unsignedWord?, if_pos (by omega), Int.toNat_natCast, UInt64.ofNat_toNat]

/-- A short word is the word that its number is. -/
theorem shortWord?_toNat (n : UInt32) : shortWord? n.toNat = some n := by
  have hlt := n.toNat_lt
  rw [shortWord?, if_pos (by omega), Int.toNat_natCast, UInt32.ofNat_toNat]

namespace Decoder.Restores

/-- A signed word is read back. -/
theorem int64 (n : Int64) : Decoder.int64.Restores depth (.ofInt64 n) n :=
  .word _ (signedWord?_toInt n)

/-- A size is read back. -/
theorem size (n : UInt64) : Decoder.size.Restores depth (.ofUInt64 n) n :=
  .word _ (unsignedWord?_toNat n)

/-- A short word is read back. -/
theorem uint32 (n : UInt32) : Decoder.uint32.Restores depth (.ofUInt32 n) n :=
  .word _ (by rw [UInt32.toNat_toUInt64, shortWord?_toNat])

end Decoder.Restores

/-! ### Values -/

namespace Value

/-- The value is neither a floating-point number nor a date. -/
def IsPlain : Value → Prop
  | .float _ | .date _ => False
  | _ => True

variable {value : Value}

/-- A plain value is read back. -/
theorem restores (h : value.IsPlain) : Decoder.Restores decode depth value.toJson value where
  isExact := by
    cases value with
    | null => exact .null
    | bool value => exact .bool value
    | int n => exact .int n.toInt _
    | text value => exact .text value
    | float number => exact h.elim
    | date day => exact h.elim
  isSound := by
    cases value with
    | float number => exact h.elim
    | _ => rfl
  decoded := by
    cases value with
    | float number => exact h.elim
    | date day => exact h.elim
    | _ => exact decode_toJson trivial

/-- A plain value other than null is read back from a tree other than null. -/
theorem restores_of_ne_null (h : value.IsPlain ∧ value ≠ .null) :
    Decoder.Restores decode depth value.toJson value ∧ value.toJson ≠ .null := by
  obtain ⟨hplain, hne⟩ := h
  refine ⟨restores hplain, ?_⟩
  cases value with
  | null => exact absurd rfl hne
  | float number => exact hplain.elim
  | _ => exact nofun

end Value

/-! ### Names of cases -/

/-- An operator is found by its name. -/
theorem FilterOperator.ofName?_name (operator : FilterOperator) :
    ofName? operator.name = some operator := by
  cases operator <;> decide

/-- A junction is found by its name. -/
theorem Junction.ofName?_name (junction : Junction) : ofName? junction.name = some junction := by
  cases junction <;> decide

/-- A direction is found by its name. -/
theorem SortDirection.ofName?_name (direction : SortDirection) :
    ofName? direction.name = some direction := by
  cases direction <;> decide

/-- A type is found by its name. -/
theorem ScalarType.ofName?_name (type : ScalarType) : ofName? type.name = some type := by
  cases type <;> decide

/-! ### Requests -/

/-- All values of the condition are plain. -/
def FilterItem.IsPlain (item : FilterItem) : Prop := ∀ value ∈ item.values, value.IsPlain

/-- A condition with plain values is read back. -/
theorem FilterItem.restores {item : FilterItem} (h : item.IsPlain) :
    Decoder.Restores decode (depth + 2) item.toJson item :=
  .record (.refl _) (by decide) <|
    Fields.Restore.map FilterItem.mk (.required rfl (.enumeration item.operator.ofName?_name))
      |>.seq (.required rfl (.text item.field))
      |>.seq (.required rfl (.list fun value hvalue => Value.restores (h value hvalue)))
      |>.seq (.defaulted rfl (.enumeration item.joinToNext.ofName?_name))

/-- A join is read back. -/
theorem JoinRequest.restores (join : JoinRequest) :
    Decoder.Restores decode (depth + 1) join.toJson join :=
  .record (.refl _) (by decide) <|
    Fields.Restore.map JoinRequest.mk (.required rfl (.text join.left))
      |>.seq (.required rfl (.text join.right))

/-- A sort is read back. -/
theorem SortRequest.restores (sort : SortRequest) :
    Decoder.Restores decode (depth + 1) sort.toJson sort :=
  .record (.refl _) (by decide) <|
    Fields.Restore.map SortRequest.mk (.required rfl (.text sort.field))
      |>.seq (.defaulted rfl (.enumeration sort.direction.ofName?_name))

namespace FetchRequest

/-- All values of the conditions are plain. -/
def IsPlain (request : FetchRequest) : Prop := ∀ item ∈ request.filters, item.IsPlain

/-- A fetch request with plain values is read back. -/
theorem restores {request : FetchRequest} (h : request.IsPlain) :
    Decoder.Restores decode (depth + 4) request.toJson request :=
  .record (.refl _) (by decide) <|
    Fields.Restore.map FetchRequest.mk (.required rfl (.text request.database))
      |>.seq (.required rfl (.text request.table))
      |>.seq (.required rfl (.list fun field _ => .text field))
      |>.seq (.defaulted rfl (.list fun item hitem => FilterItem.restores (h item hitem)))
      |>.seq (.defaulted rfl (.list fun join _ => join.restores))
      |>.seq (.defaulted rfl (.int64 request.pageNumber))
      |>.seq (.defaulted rfl (.int64 request.pageSize))
      |>.seq (.defaulted rfl (.optional fun sort _ => ⟨sort.restores, nofun⟩))
      |>.seq (.defaulted rfl (.bool request.distinct))

end FetchRequest

namespace DeleteRequest

/-- All values of the conditions are plain. -/
def IsPlain (request : DeleteRequest) : Prop := ∀ item ∈ request.filters, item.IsPlain

/-- A delete request with plain values is read back. -/
theorem restores {request : DeleteRequest} (h : request.IsPlain) :
    Decoder.Restores decode (depth + 4) request.toJson request :=
  .record (.refl _) (by decide) <|
    Fields.Restore.map DeleteRequest.mk (.required rfl (.text request.database))
      |>.seq (.required rfl (.text request.table))
      |>.seq (.defaulted rfl (.list fun item hitem => FilterItem.restores (h item hitem)))

end DeleteRequest

/-- A record to write that is exact and not nested too deeply is read back. -/
theorem WriteItem.restores {item : WriteItem} (hexact : (Json.record item).IsExact)
    (hsound : (Json.record item).isSound depth = true) :
    Decoder.Restores decode depth (.record item) item where
  isExact := hexact
  isSound := hsound
  decoded := by
    have hmerged := hexact.mergeRepeated_eq
    rw [Json.mergeRepeated, Json.record.injEq] at hmerged
    exact congrArg Except.ok hmerged

namespace WriteRequest

/-- The key is plain and not null. The records are exact, and they are nested so deep at most that
the whole request can be read. -/
structure IsPlain (request : WriteRequest) : Prop where
  recordId : ∀ value ∈ request.recordId, value.IsPlain ∧ value ≠ .null
  exact : ∀ item ∈ request.items, (Json.record item).IsExact
  shallow : ∀ item ∈ request.items, (Json.record item).isSound (Json.maxDepth - 2) = true

/-- A write request of plain parts is read back. -/
theorem restores {request : WriteRequest} (h : request.IsPlain) :
    Decoder.Restores decode Json.maxDepth request.toJson request :=
  .record (.refl _) (by decide) <|
    Fields.Restore.map WriteRequest.mk (.required rfl (.text request.database))
      |>.seq (.required rfl (.text request.table))
      |>.seq (.defaulted rfl (.optional fun value hvalue =>
        Value.restores_of_ne_null (h.recordId value hvalue)))
      |>.seq (.required rfl (.list fun item hitem =>
        WriteItem.restores (h.exact item hitem) (h.shallow item hitem)))

end WriteRequest

/-! ### Settings -/

variable {dialect : Dialect}

namespace ColumnSpec

/-- The names of the fields of the description of a column, in their order. -/
def declaredNames : List String :=
  ["name", "type", "nullable", "primary_key", "auto_increment", "default", "max_len"]

/-- The default is plain and not null. -/
def IsPlain (spec : ColumnSpec) : Prop := ∀ value ∈ spec.default, value.IsPlain ∧ value ≠ .null

/-- The description of a column is read back if its default is plain and not null. -/
theorem restores {spec : ColumnSpec} (h : spec.IsPlain) :
    (decode dialect).Restores (depth + 1) spec.toJson spec := by
  refine .record ?names (show declaredNames.Nodup by decide) ?fields
  case names =>
    change List.Sublist _ declaredNames
    cases spec.default <;> cases spec.maxLength <;> simp [declaredNames]
  case fields =>
    exact Fields.Restore.map ColumnSpec.mk (.required rfl (.text spec.name))
      |>.seq (.required rfl (.enumeration spec.type.ofName?_name))
      |>.seq (.defaulted rfl (.bool spec.isNullable))
      |>.seq (.defaulted rfl (.bool spec.isPrimaryKey))
      |>.seq (.defaulted rfl (.bool spec.isAutoIncrement))
      |>.seq (.skipped (by cases spec.default <;> cases spec.maxLength <;> rfl)
        fun value hvalue => Value.restores_of_ne_null (h value hvalue))
      |>.seq (.skipped (by cases spec.default <;> cases spec.maxLength <;> rfl)
        fun length _ => ⟨.uint32 length, nofun⟩)

end ColumnSpec

/-- The description of a table is read back if the defaults of its columns are plain and not
null. -/
theorem TableSpec.restores {spec : TableSpec} (h : ∀ column ∈ spec.columns, column.IsPlain) :
    (decode dialect).Restores (depth + 3) spec.toJson spec :=
  .record (.refl _) (show ["name", "columns"].Nodup by decide) <|
    Fields.Restore.map TableSpec.mk (.required rfl (.text spec.name))
      |>.seq (.required rfl (.list fun column hcolumn => ColumnSpec.restores (h column hcolumn)))

/-- The settings of a database are read back if the defaults of all columns are plain and not
null. -/
theorem DatabaseSettings.restores {settings : DatabaseSettings}
    (h : ∀ table ∈ settings.tables, ∀ column ∈ table.columns, column.IsPlain) :
    (decode dialect).Restores (depth + 5) settings.toJson settings :=
  .record (.refl _) (show ["name", "tables"].Nodup by decide) <|
    Fields.Restore.map DatabaseSettings.mk (.required rfl (.text settings.name))
      |>.seq (.defaulted rfl (.list fun table htable => TableSpec.restores (h table htable)))

namespace ServiceSettings

/-- All defaults of columns are plain and not null. -/
def IsPlain (settings : ServiceSettings) : Prop :=
  ∀ database ∈ settings.engine.databases, ∀ table ∈ database.tables, ∀ column ∈ table.columns,
    column.IsPlain

/-- The settings of a service are read back if all defaults are plain and not null. -/
theorem restores {settings : ServiceSettings} (h : settings.IsPlain) :
    (decode dialect).Restores (depth + 8) settings.toJson settings := by
  have hengine : (EngineSettings.decode dialect).Restores (depth + 7) settings.engine.toJson
      settings.engine :=
    .record (.refl _) (show ["databases"].Nodup by decide) <|
      .map EngineSettings.mk (.defaulted rfl (.list fun database hdatabase =>
        DatabaseSettings.restores (h database hdatabase)))
  have hsave : (SaveSettings.decode dialect).Restores (depth + 7) settings.save.toJson
      settings.save :=
    .record (.refl _) (show ["create_batch_size"].Nodup by decide) <|
      .map SaveSettings.mk (.defaulted rfl (.size settings.save.batchSize))
  exact .record (.refl _) (show ["engine", "save"].Nodup by decide) <|
    Fields.Restore.map ServiceSettings.mk (.defaulted rfl hengine)
      |>.seq (.defaulted rfl hsave)

end ServiceSettings

/-! ### Texts -/

/-- Requests and settings of plain parts are read back from the texts that are written for them. -/
theorem read_back_of_isPlain :
    (∀ request : FetchRequest, request.IsPlain →
      FetchRequest.decode.ofText request.toJson.render = .ok request) ∧
    (∀ request : DeleteRequest, request.IsPlain →
      DeleteRequest.decode.ofText request.toJson.render = .ok request) ∧
    (∀ request : WriteRequest, request.IsPlain →
      WriteRequest.decode.ofText request.toJson.render = .ok request) ∧
    ∀ settings : ServiceSettings, settings.IsPlain →
      ServiceSettings.ofJsonText settings.toJson.render = .ok settings := by
  refine ⟨fun request h => ?_, fun request h => ?_, fun request h => ?_, fun settings h => ?_⟩
  · exact (FetchRequest.restores h).ofText
  · exact (DeleteRequest.restores h).ofText
  · exact (WriteRequest.restores h).ofText
  · exact (ServiceSettings.restores h).ofSpelledText

/-- The second page of the guests of some names, sorted. -/
def guestPage : FetchRequest :=
  (((FetchRequest.all "hotel" "guests" ["name"]).filtered
    ⟨.oneOf, "name", [.text "Ann \"Annie\"", .null], .or⟩).sortedBy "name" .descending).onPage 2 5

/-- The departure of one guest. -/
def guestDeparture : DeleteRequest := ⟨"hotel", "guests", [⟨.equal, "id", [.int (-7)], .and⟩]⟩

/-- A new name for a guest, and a nested list that is not looked at. -/
def guestRenaming : WriteRequest :=
  .update "hotel" "guests" (.int 7)
    [("name", .text "Zoë\n"), ("notes", .list [.null, .record [("vip", .bool true)]])]

/-- A hotel whose guests are nameless at first. -/
def guestBook : ServiceSettings :=
  ⟨⟨[⟨"hotel", [⟨"guests", [⟨"id", .int, false, true, true, none, none⟩,
    ⟨"name", .text, true, false, false, some (.text ""), some 20⟩]⟩]⟩]⟩, .standard⟩

/-- The requests and the settings of a hotel are read back. -/
theorem read_back_of_isPlain_guests :
    (guestPage.IsPlain ∧
      FetchRequest.decode.ofText guestPage.toJson.render = .ok guestPage) ∧
    (guestDeparture.IsPlain ∧
      DeleteRequest.decode.ofText guestDeparture.toJson.render = .ok guestDeparture) ∧
    (guestRenaming.IsPlain ∧
      WriteRequest.decode.ofText guestRenaming.toJson.render = .ok guestRenaming) ∧
    guestBook.IsPlain ∧
      ServiceSettings.ofJsonText guestBook.toJson.render = .ok guestBook := by
  have hpage : guestPage.IsPlain := by
    simp [guestPage, FetchRequest.all, FetchRequest.filtered, FetchRequest.sortedBy,
      FetchRequest.onPage, FetchRequest.IsPlain, FilterItem.IsPlain, Value.IsPlain]
  have hdeparture : guestDeparture.IsPlain := by
    simp [guestDeparture, DeleteRequest.IsPlain, FilterItem.IsPlain, Value.IsPlain]
  have hrenaming : guestRenaming.IsPlain := by
    have hnotes : (Json.list [.null, .record [("vip", .bool true)]]).IsExact := by
      refine .list (List.forall_mem_cons.mpr ⟨.null, List.forall_mem_singleton.mpr ?_⟩)
      exact .record (by decide) (List.forall_mem_singleton.mpr (.bool true))
    refine ⟨?_, List.forall_mem_singleton.mpr ?_, List.forall_mem_singleton.mpr rfl⟩
    · simp [guestRenaming, WriteRequest.update, Value.IsPlain]
    · exact .record (by decide)
        (List.forall_mem_cons.mpr ⟨.text _, List.forall_mem_singleton.mpr hnotes⟩)
  have hbook : guestBook.IsPlain := by
    simp [guestBook, ServiceSettings.IsPlain, ColumnSpec.IsPlain, Value.IsPlain]
  obtain ⟨hfetch, hdelete, hwrite, hsettings⟩ := read_back_of_isPlain
  exact ⟨⟨hpage, hfetch _ hpage⟩, ⟨hdeparture, hdelete _ hdeparture⟩,
    ⟨hrenaming, hwrite _ hrenaming⟩, hbook, hsettings _ hbook⟩

end Tabula
