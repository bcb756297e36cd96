import Tabula.Number.Layout
import Tabula.Number.Word

/-!
# JSON trees

A JSON text denotes a tree. Records keep their fields in the order of the text, with a repeated
name kept as often as it was written; `Json.mergeRepeated` settles repetitions. Numbers are
either integers of a fixed range or double-precision numbers, told apart by how they are
written.

A part of a text may be well spelled and yet denote nothing: a number that is too large, or a
string that no characters make up. Such a part is flawed, and so is a record with such a name. The
tree of a whole text must be sound: without flaws and not nested too deeply. Only what a reader
passes over may be flawed.
-/

namespace Tabula

/-- The integers that a JSON number can denote exactly: signed and unsigned words of 64 bits. -/
def IsWireInt (n : Int) : Prop := -9223372036854775808 ≤ n ∧ n < 18446744073709551616

instance (n : Int) : Decidable (IsWireInt n) := inferInstanceAs (Decidable (_ ∧ _))

/-- A JSON tree. -/
inductive Json where
  | null
  | bool (value : Bool)
  | int (value : Int) (isWireInt : IsWireInt value)
  | float (value : Double)
  | text (value : String)
  | list (items : List Json)
  | record (fields : List (String × Json))
  /-- A part that is well spelled and denotes nothing. -/
  | flawed

namespace Json

/-- A signed word as a JSON integer. -/
def ofInt64 (n : Int64) : Json :=
  .int n.toInt ⟨n.le_toInt, Int.lt_trans n.toInt_lt (by decide)⟩

/-- An unsigned word as a JSON integer. -/
def ofUInt64 (n : UInt64) : Json :=
  .int n.toNat ⟨Int.le_trans (by decide) (Int.natCast_nonneg _), Int.ofNat_lt.mpr n.toNat_lt⟩

/-- An unsigned word of 32 bits as a JSON integer. -/
def ofUInt32 (n : UInt32) : Json := ofUInt64 n.toUInt64

/-- A text, or null where there is none. -/
def ofText? (text : Option String) : Json := (text.map Json.text).getD .null

/-- Puts a field into a record: a name that is there already keeps its place and takes the new
value. -/
def putField {A : Type} (name : String) (value : A) : List (String × A) → List (String × A)
  | [] => [(name, value)]
  | (other, old) :: rest =>
    if other = name then (other, value) :: rest else (other, old) :: putField name value rest

/-- The fields with each name once: at its first place, with its last value. -/
def lastOfEach {A : Type} (fields : List (String × A)) : List (String × A) :=
  fields.foldl (fun merged field => putField field.1 field.2 merged) []

mutual

/-- The tree in which every record has each name once. -/
def mergeRepeated : Json → Json
  | .list items => .list (mergeItems items)
  | .record fields => .record (lastOfEach (mergeFields fields))
  | .null => .null
  | .bool value => .bool value
  | .int value h => .int value h
  | .float value => .float value
  | .text value => .text value
  | .flawed => .flawed

/-- Merges in every tree of a list. -/
def mergeItems : List Json → List Json
  | [] => []
  | item :: rest => mergeRepeated item :: mergeItems rest

/-- Merges in the value of every field. -/
def mergeFields : List (String × Json) → List (String × Json)
  | [] => []
  | (name, value) :: rest => (name, mergeRepeated value) :: mergeFields rest

end

mutual

/-- Whether a tree has no flaw and its lists and records are nested at most `depth` deep. -/
def isSound (depth : Nat) : Json → Bool
  | .list items =>
    match depth with
    | 0 => false
    | depth + 1 => itemsSound depth items
  | .record fields =>
    match depth with
    | 0 => false
    | depth + 1 => fieldsSound depth fields
  | .flawed => false
  | _ => true

/-- Whether every tree of a list is sound. -/
def itemsSound (depth : Nat) : List Json → Bool
  | [] => true
  | item :: rest => item.isSound depth && itemsSound depth rest

/-- Whether the value of every field is sound. -/
def fieldsSound (depth : Nat) : List (String × Json) → Bool
  | [] => true
  | (_, value) :: rest => value.isSound depth && fieldsSound depth rest

end

/-- The value of the first field with the given name. -/
def field? (name : String) (fields : List (String × Json)) : Option Json := fields.lookup name

end Json

end Tabula
