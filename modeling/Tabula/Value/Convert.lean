import Tabula.Text.Blank
import Tabula.Value.Basic

/-!
# Conversion of values

Two conversions to the type of a column. `Value.cast?` is strict and is used for filters and
keys; `Value.coerce?` also widens integers and trims texts and is used for records to write.
Since JSON has no dates, both take the written form of a date for a date.
-/

namespace Tabula

namespace Value

/-- The strict conversion: a value keeps its type, except that a written date becomes a date.
Null has no type and is never converted. -/
def cast? : Value → ScalarType → Option Value
  | .text value, .date => (Date.ofText? value).map .date
  | value, type => if value.hasType type then some value else none

/-- The lax conversion: integers widen to floating-point numbers and texts lose the blanks around
them; for the rest it is strict. -/
def coerce? : Value → ScalarType → Option Value
  | .int value, .float => some (.float (widen value))
  | .text value, .text => some (.text (trim value))
  | .text value, .date => (Date.ofText? (trim value)).map .date
  | value, type => value.cast? type

end Value

/-- Why a JSON tree is no value. -/
inductive ValueError where
  /-- Lists and records are not scalars. -/
  | notScalar (json : Json)
  /-- Integers beyond the signed words have no value. -/
  | outOfRange (value : Int)

/-- The wording of the reason. -/
def ValueError.message : ValueError → String
  | .notScalar json => s!"unsupported value {json.render}, expected a scalar"
  | .outOfRange value => s!"integer {value} out of range"

namespace Value

/-- The value of a JSON tree. -/
def ofJson : Json → Except ValueError Value
  | .null => .ok .null
  | .bool value => .ok (.bool value)
  | .int value _ =>
    match signedWord? value with
    | some word => .ok (.int word)
    | none => .error (.outOfRange value)
  | .float value => .ok (.float value)
  | .text value => .ok (.text value)
  | json => .error (.notScalar json)

/-- The value of a JSON tree inside a request. -/
def decode : Decoder Value
  | .null => .ok .null
  | .bool value => .ok (.bool value)
  | .int value _ =>
    match signedWord? value with
    | some word => .ok (.int word)
    | none => .error (.outOfRange value)
  | .float value => .ok (.float value)
  | .text value => .ok (.text value)
  | json => .error (.wrongForm json "a scalar value")

/-- The JSON tree of a value. Dates become texts; numbers that are not finite become null. -/
def toJson : Value → Json
  | .null => .null
  | .bool value => .bool value
  | .int value => .ofInt64 value
  | .float value => if value.isFinite then .float value else .null
  | .text value => .text value
  | .date value => .text value.text

/-- The JSON text of a value, written without forming a tree. -/
def jsonChars : Value → List Char
  | .null => "null".toList
  | .bool value => (boolText value).toList
  | .int value => integerChars value.toInt
  | .float value => (value.exchangeText?.getD "null").toList
  | .text value => Json.Token.quoted value
  | .date value => Json.Token.quoted value.text

end Value

end Tabula
