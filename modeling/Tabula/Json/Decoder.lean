import Tabula.Json.Refusal

/-!
# Decoders

Reading a JSON tree as a value of a fixed form: scalars, lists, records with named fields, and
enumerations. A tree is checked in the order of its text and the first offence is reported; only
then are missing fields looked for, in the order in which the record declares them.

A record is described once, by `Fields`: the same description checks a written record, takes a
list as the fields in their declared order, and builds the value.
-/

namespace Tabula

/-- Reads a tree as a value, or says why not. -/
abbrev Decoder (A : Type) := Json → Except Refusal A

/-- The liberties that a text format takes in writing records and enumerations. -/
structure Dialect where
  /-- A list that stands for a record may have more items than the record has fields. -/
  surplusItems : Bool
  /-- The trees that may stand beside the name of a case of an enumeration. -/
  isUnit : Json → Bool

namespace Decoder

/-! ### Scalars and lists -/

/-- A text. -/
def text : Decoder String
  | .text value => .ok value
  | json => .error (.wrongForm json "a string")

/-- A truth value. -/
def bool : Decoder Bool
  | .bool value => .ok value
  | json => .error (.wrongForm json "a boolean")

/-- An integer that is a word of the expected kind. -/
def word {A : Type} (expected : String) (ofInt? : Int → Option A) : Decoder A
  | .int value _ =>
    match ofInt? value with
    | some word => .ok word
    | none => .error (.outOfWords value expected)
  | json => .error (.wrongForm json expected)

/-- A signed word of 64 bits. -/
def int64 : Decoder Int64 := word "i64" signedWord?

/-- An unsigned word of 32 bits. -/
def uint32 : Decoder UInt32 := word "u32" shortWord?

/-- A size: an unsigned word of 64 bits. -/
def size : Decoder UInt64 := word "usize" unsignedWord?

/-- A value that may be null. -/
def optional {A : Type} (decode : Decoder A) : Decoder (Option A)
  | .null => .ok none
  | json => some <$> decode json

/-- A list, item by item. -/
def list {A : Type} (decode : Decoder A) : Decoder (List A)
  | .list items => items.mapM decode
  | json => .error (.wrongForm json "a sequence")

/-- A record with any fields. -/
def freeRecord : Decoder (List (String × Json))
  | .record fields => .ok fields
  | json => .error (.wrongForm json "a map")

/-! ### Enumerations -/

/-- A case of an enumeration by its name, where `ofName?` knows the cases named in `known`. -/
def caseNamed {A : Type} (known : List String) (ofName? : String → Option A) (name : String) :
    Except Refusal A :=
  match ofName? name with
  | some value => .ok value
  | none => .error (.unknownCase name known)

/-- A case of an enumeration: its name, or a record whose only field has that name and nothing
of interest in it. -/
def enumeration {A : Type} (dialect : Dialect) (known : List String)
    (ofName? : String → Option A) : Decoder A
  | .text name => caseNamed known ofName? name
  | .record ((name, inner) :: rest) => do
    let value ← caseNamed known ofName? name
    unless dialect.isUnit inner do throw (.wrongForm inner "unit")
    unless rest.isEmpty do throw .malformed
    return value
  | _ => .error .malformed

end Decoder

/-- JSON: nothing surplus, and null beside the name of a case. -/
def Dialect.json : Dialect where
  surplusItems := false
  isUnit
    | .null => true
    | _ => false

/-! ### Records -/

/-- A declared field of a record. -/
structure Field where
  name : String
  /-- The field may be left out. -/
  hasDefault : Bool
  /-- Whether a tree can be the value of the field. -/
  check : Json → Except Refusal Unit

/-- The declared fields of a record, and how the record is built from the trees found under their
names. -/
structure Fields (A : Type) where
  declared : List Field
  build : List (String × Json) → Except Refusal A

instance : Applicative Fields where
  pure a := ⟨[], fun _ => .ok a⟩
  seq f x := ⟨f.declared ++ (x ()).declared, fun named => f.build named <*> (x ()).build named⟩

namespace Fields

/-- A field that must be there. -/
def required {A : Type} (name : String) (decode : Decoder A) : Fields A where
  declared := [⟨name, false, fun json => (fun _ => ()) <$> decode json⟩]
  build named :=
    match Json.field? name named with
    | some json => decode json
    | none => .error (.missingField name)

/-- A field that may be left out and then has the given value. -/
def defaulted {A : Type} (name : String) (decode : Decoder A) (default : A) : Fields A where
  declared := [⟨name, true, fun json => (fun _ => ()) <$> decode json⟩]
  build named :=
    match Json.field? name named with
    | some json => decode json
    | none => .ok default

end Fields

namespace Decoder

/-- Checks written fields in their order, where the names in `seen` have been written before.
Unless the record is `closed`, unknown fields are passed over. -/
def checkFields (declared : List Field) (closed : Bool) :
    (seen : List String) → List (String × Json) → Except Refusal Unit
  | _, [] => .ok ()
  | seen, (name, json) :: rest =>
    match declared.find? (·.name == name) with
    | none =>
      if closed then .error (.unknownField name (declared.map (·.name)))
      else checkFields declared closed seen rest
    | some field =>
      if seen.contains name then .error (.duplicateField name)
      else do
        field.check json
        checkFields declared closed (name :: seen) rest

/-- The wording for a record that is written as a list. -/
def lengthWording (title : String) (count : Nat) : String :=
  s!"struct {title} with {count} " ++ if count = 1 then "element" else "elements"

/-- Names the items of a list by the declared fields in their order, from the field at
`position` on. -/
def nameItems (dialect : Dialect) (expected : String) :
    (position : Nat) → List Field → List Json → Except Refusal (List (String × Json))
  | _, [], [] => .ok []
  | _, [], _ :: _ => if dialect.surplusItems then .ok [] else .error .malformed
  | position, field :: fields, [] =>
    if field.hasDefault then nameItems dialect expected (position + 1) fields []
    else .error (.tooShort position expected)
  | position, field :: fields, item :: items => do
    field.check item
    let named ← nameItems dialect expected (position + 1) fields items
    return (field.name, item) :: named

/-- A record of the given description. -/
def record {A : Type} (dialect : Dialect) (title : String) (closed : Bool) (fields : Fields A) :
    Decoder A
  | .record written => do
    checkFields fields.declared closed [] written
    fields.build written
  | .list items => do
    let expected := lengthWording title fields.declared.length
    let named ← nameItems dialect expected 0 fields.declared items
    fields.build named
  | json => .error (.wrongForm json s!"struct {title}")

/-- Reads a whole JSON text. -/
def ofText {A : Type} (decode : Decoder A) (text : String) : Except Refusal A :=
  match Json.parse? text with
  | some json => decode json
  | none => .error .malformed

/-- Reads a JSON text of which the decoder may pass over parts. These only have to be well spelled;
but where the decoder refuses the tree, a text that is not well formed is refused as such. -/
def ofSpelledText {A : Type} (decode : Decoder A) (text : String) : Except Refusal A :=
  match Json.spelled? text with
  | none => .error .malformed
  | some json => (decode json).mapError fun refusal =>
    if json.isSound Json.maxDepth then refusal else .malformed

end Decoder

end Tabula
