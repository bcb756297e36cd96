import Tabula.Toml.Scalar
import Tabula.Toml.Table

/-!
# Keys and values of TOML

Keys are parts separated by dots. Values are scalars, lists and inline tables, read by a machine
whose state is the list of lists and inline tables that are still open.
-/

namespace Tabula.Toml

/-- Repeats a step until it yields a result. Every step has to take at least one character off the
text; a step that does not is taken for a failure, so that reading always ends. -/
def iterate {S A : Type} (step : S → List Char → Option ((S ⊕ A) × List Char)) (state : S)
    (chars : List Char) : Option (A × List Char) :=
  match step state chars with
  | none => none
  | some (.inr result, rest) => some (result, rest)
  | some (.inl state, rest) =>
    if rest.length < chars.length then iterate step state rest else none
termination_by chars.length

/-- Paths and nesting stay below this number of parts. -/
def maxParts : Nat := 80

/-! ### Keys -/

/-- The characters of keys without quotes. -/
def isKeyChar (c : Char) : Bool := c.isAlphanum || c == '_' || c == '-'

/-- Reads one part of a key. -/
def keyPart? (chars : List Char) : Option (String × List Char) :=
  let bare := chars.takeWhile isKeyChar
  if bare.isEmpty then (lineString? chars).map fun (part, rest) => (String.ofList part, rest)
  else some (String.ofList bare, chars.drop bare.length)

/-- Reads one part of a key with the blanks around it, and the dot after it if there is one. -/
def keyStep (before : List String) (chars : List Char) :
    Option ((List String ⊕ List String) × List Char) := do
  let (part, rest) ← keyPart? (skipBlanks chars)
  match skipBlanks rest with
  | '.' :: rest => some (.inl (before ++ [part]), rest)
  | rest => some (.inr (before ++ [part]), rest)

/-- Reads a key with the blanks around it. -/
def key? (chars : List Char) : Option (List String × List Char) := do
  let (path, rest) ← iterate keyStep [] chars
  if path.length < maxParts then some (path, rest) else none

/-- Reads a key and the sign of equality after it. -/
def keyEquals? (chars : List Char) : Option (List String × List Char) := do
  let (path, rest) ← key? chars
  match rest with
  | '=' :: rest => some (path, skipBlanks rest)
  | _ => none

/-! ### Values -/

/-- A list or an inline table that is still open, around the value that is being read. -/
inductive Frame where
  | list (before : List Json)
  | table (before : Items) (path : List String)

/-- What has to come next. The frames are the open lists and tables, the innermost first. -/
inductive Reader where
  | value (frames : List Frame)
  | listStart (before : List Json) (frames : List Frame)
  | tableStart (frames : List Frame)
  | tableKey (before : Items) (frames : List Frame)
  | afterItem (before : List Json) (frames : List Frame)
  | afterField (before : Items) (frames : List Frame)

namespace Reader

/-- Hands a complete value to the innermost open list or table, or ends. -/
def deliver (json : Json) : List Frame → Option (Reader ⊕ Json)
  | [] => some (.inr json)
  | .list before :: frames => some (.inl (.afterItem (before ++ [json]) frames))
  | .table before path :: frames =>
    (assign path json before).map fun fields => .inl (.afterField fields frames)

/-- Reads the beginning of a value, or all of a scalar. -/
def beginValue (frames : List Frame) (chars : List Char) :
    Option ((Reader ⊕ Json) × List Char) :=
  match chars with
  | '[' :: rest =>
    if frames.length + 1 < maxParts then some (.inl (.listStart [] frames), rest) else none
  | '{' :: rest =>
    if frames.length + 1 < maxParts then some (.inl (.tableStart frames), rest) else none
  | c :: _ => do
    let (json, rest) ←
      if c == '"' || c == '\'' then
        (string? chars).map fun (text, rest) => (Json.text (String.ofList text), rest)
      else scalar? chars
    return (← deliver json frames, rest)
  | [] => none

/-- Ends a list or an inline table. -/
def close (json : Json) (frames : List Frame) (rest : List Char) :
    Option ((Reader ⊕ Json) × List Char) :=
  (deliver json frames).map (·, rest)

/-- Reads a key of an inline table. -/
def readKey (before : Items) (frames : List Frame) (chars : List Char) :
    Option ((Reader ⊕ Json) × List Char) :=
  (keyEquals? chars).map fun (path, rest) => (.inl (.value (.table before path :: frames)), rest)

/-- Reads the next lexeme. Lists may go over several lines and end with a comma, inline tables may
not. -/
def step (reader : Reader) (chars : List Char) : Option ((Reader ⊕ Json) × List Char) :=
  match reader with
  | value frames => beginValue frames chars
  | listStart before frames =>
    match skipTrivia chars with
    | ']' :: rest => close (.list before) frames rest
    | chars => beginValue (.list before :: frames) chars
  | afterItem before frames =>
    match skipTrivia chars with
    | ',' :: rest => some (.inl (.listStart before frames), rest)
    | ']' :: rest => close (.list before) frames rest
    | _ => none
  | tableStart frames =>
    match skipBlanks chars with
    | '}' :: rest => close (.record []) frames rest
    | chars => readKey [] frames chars
  | tableKey before frames => readKey before frames chars
  | afterField before frames =>
    match skipBlanks chars with
    | ',' :: rest => some (.inl (.tableKey before frames), rest)
    | '}' :: rest => close (.record (fieldsToJson before)) frames rest
    | _ => none

end Reader

/-- Reads a value. -/
def value? (chars : List Char) : Option (Json × List Char) :=
  iterate Reader.step (.value []) chars

end Tabula.Toml
