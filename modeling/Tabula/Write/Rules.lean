import Tabula.Query.Request

/-!
# Rules for records

The rules that a record to write must obey, derived from the schema of its table. Key columns are
never written. Nullable columns and columns with a default may be left out, all others are
required. A record that obeys the rules yields the values to write, in the order of the columns;
an empty value other than `false` on a column with a default is left out, so that the default
applies.
-/

namespace Tabula

/-- The rule of one column. -/
structure FieldRule where
  column : ColumnRef
  required : Bool
  nullable : Bool
  hasDefault : Bool
  maxLength : Option UInt32
deriving DecidableEq

/-- Failures of compiling records. The number of an item counts from zero. -/
inductive WriteError where
  | severalUpdates
  | noUpdate
  | noSingleKey (table : String)
  | recordIdType (value : Value) (expected : ScalarType)
  | unknownField (item : Nat) (field : String)
  | missingField (item : Nat) (field : String)
  | wrongType (item : Nat) (field : String) (json : Json) (expected : ScalarType)
  | nullNotAllowed (item : Nat) (field : String)
  | tooLong (item : Nat) (field : String) (maxLength : UInt32)

/-- The report of a failure. -/
def WriteError.report : WriteError → Report
  | .severalUpdates => ⟨.validation, "only one record may be updated at a time", none⟩
  | .noUpdate => ⟨.validation, "a record is required for update", none⟩
  | .noSingleKey table =>
    ⟨.schema, s!"table {table} has no single-column primary key to update by", none⟩
  | .recordIdType value expected =>
    ⟨.validation, s!"invalid record id {value.literal}, expected {expected.name}", none⟩
  | .unknownField item field =>
    ⟨.writeValidation, s!"item {item}: unknown field {field}", some field⟩
  | .missingField item field =>
    ⟨.writeValidation, s!"item {item}: field {field} is required", some field⟩
  | .wrongType item field json expected =>
    ⟨.writeValidation,
      s!"item {item}: invalid value {json.render} for field {field}, expected {expected.name}",
      some field⟩
  | .nullNotAllowed item field =>
    ⟨.writeValidation, s!"item {item}: field {field} cannot be null", some field⟩
  | .tooLong item field maxLength =>
    ⟨.writeValidation,
      s!"item {item}: field {field} exceeds max length {maxLength.toNat}", some field⟩

namespace FieldRule

/-- The rule of a column. -/
def of (schema : TableSchema) (column : Column) : FieldRule where
  column := .of schema column
  required := !column.isNullable && !column.hasDefault
  nullable := column.isNullable
  hasDefault := column.hasDefault
  maxLength := column.maxLength

/-- Whether a value is a text of more characters than the rule admits. -/
def exceeds (rule : FieldRule) : Value → Option UInt32
  | .text value => rule.maxLength.filter fun maxLength => maxLength.toNat < value.length
  | _ => none

/-- Reads the value of a field, which may be null where the rule admits it. -/
def valueOf (rule : FieldRule) (item : Nat) (json : Json) : Except WriteError Value :=
  let mismatch := WriteError.wrongType item rule.column.name json rule.column.type
  match Value.ofJson json with
  | .error _ => .error mismatch
  | .ok value =>
    if value.isNull then
      if !rule.nullable && !rule.hasDefault then
        .error (.nullNotAllowed item rule.column.name)
      else .ok value
    else match value.coerce? rule.column.type with
    | none => .error mismatch
    | some coerced => .ok coerced

/-- Whether a value is left out because the default of the column stands for it. -/
def leavesToDefault (rule : FieldRule) (value : Value) : Bool :=
  rule.hasDefault && value.isFalsy && value ≠ .bool false

/-- Applies the rule to a record: the value to write, if there is one. -/
def apply (rule : FieldRule) (number : Nat) (item : WriteItem) :
    Except WriteError (Option (ColumnRef × Value)) :=
  match Json.field? rule.column.name item with
  | none =>
    if rule.required then .error (.missingField number rule.column.name) else .ok none
  | some json => do
    let value ← rule.valueOf number json
    match rule.exceeds value with
    | some maxLength => throw (.tooLong number rule.column.name maxLength)
    | none => return if rule.leavesToDefault value then none else some (rule.column, value)

end FieldRule

/-- The rules of a table, in the order of its columns. -/
abbrev RecordRules := List FieldRule

namespace RecordRules

/-- The rules for the columns outside the key. -/
def of (schema : TableSchema) : RecordRules :=
  (schema.columns.filter (!·.isPrimaryKey)).map (FieldRule.of schema)

/-- Whether there is a rule for a field. -/
def knows (rules : RecordRules) (field : String) : Bool :=
  rules.any (·.column.name == field)

/-- Validates a record and gives the values to write. Unknown fields are reported before all
else. -/
def validate (rules : RecordRules) (number : Nat) (item : WriteItem) :
    Except WriteError (List (ColumnRef × Value)) :=
  match item.find? fun field => !rules.knows field.1 with
  | some field => .error (.unknownField number field.1)
  | none => do
    let values ← rules.mapM fun rule => rule.apply number item
    return values.filterMap id

end RecordRules

end Tabula
