import Tabula.Filter.Predicate

/-!
# Filters of a request

A request lists conditions in order, each with the way it is joined to the next one. They are
compiled into one predicate strictly from left to right, so that `a OR b AND c` means
`(a OR b) AND c`.
-/

namespace Tabula

/-- The operators of a condition. -/
inductive FilterOperator where
  | equal
  | oneOf
  | unequal
  | greater
  | less
  | like
  | likeAnyCase
deriving DecidableEq, Repr

namespace FilterOperator

/-- The name of an operator in requests. -/
def name : FilterOperator → String
  | equal => "eq"
  | oneOf => "in"
  | unequal => "not"
  | greater => "gt"
  | less => "lt"
  | like => "like"
  | likeAnyCase => "ilike"

/-- All operators. -/
def all : List FilterOperator := [equal, oneOf, unequal, greater, less, like, likeAnyCase]

/-- The operator with the given name. -/
def ofName? (name : String) : Option FilterOperator := all.find? (·.name == name)

/-- Whether the operator takes more than one value. -/
def isMultiValued : FilterOperator → Bool
  | oneOf => true
  | _ => false

end FilterOperator

/-- How a condition is joined to the next one. -/
inductive Junction where
  | and
  | or
deriving DecidableEq, Repr

namespace Junction

/-- All junctions. -/
def all : List Junction := [and, or]

/-- The name of a junction in requests. -/
def name : Junction → String
  | and => "and"
  | or => "or"

/-- The junction with the given name. -/
def ofName? (name : String) : Option Junction := all.find? (·.name == name)

/-- Joins two predicates. -/
def join : Junction → Predicate → Predicate → Predicate
  | and => .and
  | or => .or

end Junction

/-- One condition of a request. -/
structure FilterItem where
  operator : FilterOperator
  field : String
  values : List Value
  joinToNext : Junction
deriving DecidableEq

/-- Failures of compiling conditions. -/
inductive FilterError where
  | unknownField (table field : String)
  | noValues (field : String)
  | severalValues (field : String) (operator : FilterOperator)
  | wrongType (field : String) (value : Value) (expected : ScalarType)
deriving DecidableEq

/-- The report of a failure. -/
def FilterError.report : FilterError → Report
  | .unknownField table field =>
    ⟨.schema, s!"invalid name in filters, {field} is not a column of {table}", some field⟩
  | .noValues field =>
    ⟨.validation, s!"filter on {field} must have at least one value", some field⟩
  | .severalValues field operator =>
    ⟨.validation,
      s!"multiple values not supported for operator '{operator.name}' on {field}", some field⟩
  | .wrongType field value expected =>
    ⟨.validation,
      s!"invalid value for filter: [{field}={value.literal}], expected {expected.name}",
      some field⟩

namespace FilterItem

/-- The values of a condition, cast to the type of its column. -/
def castValues (field : String) (type : ScalarType) :
    List Value → Except FilterError (List Value)
  | [] => .ok []
  | value :: rest =>
    match value.cast? type with
    | none => .error (.wrongType field value type)
    | some cast => do
      let values ← castValues field type rest
      return cast :: values

/-- The predicate of an operator on a column, given at least one value. Operators of a single
value take the first. -/
def predicateOf (column : ColumnRef) (operator : FilterOperator) (value : Value)
    (rest : List Value) : Predicate :=
  match operator with
  | .equal => .compare column .equal value
  | .unequal => .compare column .unequal value
  | .greater => .compare column .greater value
  | .less => .compare column .less value
  | .oneOf => .oneOf column (value :: rest)
  | .like => .like column value.plainText false
  | .likeAnyCase => .like column value.plainText true

/-- Compiles one condition on a table. -/
def compile (schema : TableSchema) (item : FilterItem) : Except FilterError Predicate :=
  match schema.column? item.field with
  | none => .error (.unknownField schema.qualifiedName item.field)
  | some column =>
    if item.values.isEmpty then .error (.noValues item.field)
    else if 1 < item.values.length && !item.operator.isMultiValued then
      .error (.severalValues item.field item.operator)
    else do
      match ← castValues item.field column.type item.values with
      | [] => .error (.noValues item.field)
      | value :: rest => return predicateOf (ColumnRef.of schema column) item.operator value rest

/-- Joins further conditions to a predicate, the first of them by `junction`. -/
def compileAfter (schema : TableSchema) (predicate : Predicate) (junction : Junction) :
    List FilterItem → Except FilterError Predicate
  | [] => .ok predicate
  | item :: rest => do
    let condition ← item.compile schema
    compileAfter schema (junction.join predicate condition) item.joinToNext rest

/-- Compiles the conditions on a table, from left to right. Without conditions there is no
predicate, and the junction of the last condition does not matter. -/
def compileAll (schema : TableSchema) :
    List FilterItem → Except FilterError (Option Predicate)
  | [] => .ok none
  | item :: rest => do
    let predicate ← item.compile schema
    some <$> compileAfter schema predicate item.joinToNext rest

end FilterItem

end Tabula
