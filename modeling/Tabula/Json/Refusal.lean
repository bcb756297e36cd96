import Tabula.Json.Text
import Tabula.Text.Quoted

/-!
# Refusals

Why a text cannot be read as a value of the wanted kind, and the wording of each reason.
-/

namespace Tabula

/-- Why a text is refused. -/
inductive Refusal where
  /-- The text is not well formed, or a form of it that only syntax could tell apart is not. -/
  | malformed
  | missingField (name : String)
  | unknownField (name : String) (known : List String)
  | duplicateField (name : String)
  | unknownCase (name : String) (known : List String)
  /-- Something else stands where a value of the expected form should. -/
  | wrongForm (found : Json) (expected : String)
  /-- An integer is outside the range of the expected words. -/
  | outOfWords (value : Int) (expected : String)
  /-- A list that stands for a record ends too early. -/
  | tooShort (length : Nat) (expected : String)
  /-- An integer is too large for an integer value. -/
  | outOfRange (value : Int)

namespace Refusal

/-- Names the form of a tree, with the value itself for scalars. A text with a flaw in it is refused
as malformed, so that a flaw is never named to anyone. -/
def formOf : Json → String
  | .null => "null"
  | .bool value => s!"boolean `{value}`"
  | .int value _ => s!"integer `{value}`"
  | .float value => s!"floating point `{(Json.float value).render}`"
  | .text value => s!"string {quoted value}"
  | .list _ => "sequence"
  | .record _ => "map"
  | .flawed => "flaw"

/-- A name between marks. -/
def marked (name : String) : String := s!"`{name}`"

/-- Lists the names that would have been right. -/
def alternatives : List String → String
  | [] => "expected nothing"
  | [name] => s!"expected {marked name}"
  | [first, second] => s!"expected {marked first} or {marked second}"
  | names => "expected one of " ++ ", ".intercalate (names.map marked)

/-- The wording of a refusal. -/
def message : Refusal → String
  | .malformed => "<syntax>"
  | .missingField name => s!"missing field {marked name}"
  | .unknownField name known => s!"unknown field {marked name}, {alternatives known}"
  | .duplicateField name => s!"duplicate field {marked name}"
  | .unknownCase name known => s!"unknown variant {marked name}, {alternatives known}"
  | .wrongForm found expected => s!"invalid type: {formOf found}, expected {expected}"
  | .outOfWords value expected => s!"invalid value: integer `{value}`, expected {expected}"
  | .tooShort length expected => s!"invalid length {length}, expected {expected}"
  | .outOfRange value => s!"integer {value} out of range"

end Refusal

end Tabula
