import Tabula.Json.Token

/-!
# JSON texts

`Json.render` writes a tree as its tokens without blanks. `Json.spelled?` reads the tree that a
text spells, flawed parts included, and `Json.parse?` the tree that it denotes, which has to be
sound. Reading folds a machine over the tokens: its state is the list of lists and records that are
still open, with what has been read of each.
-/

namespace Tabula.Json

/-! ### Writing -/

mutual

/-- The tokens of a tree. -/
def tokens : Json → List Token
  | .text value => [.text (some value)]
  | .list items => .beginList :: (itemTokens items ++ [.endList])
  | .record fields => .beginRecord :: (fieldTokens fields ++ [.endRecord])
  | .null => [.scalar .null]
  | .bool value => [.scalar (.bool value)]
  | .int value h => [.scalar (.int value h)]
  | .float value => [.scalar (.float value)]
  | .flawed => [.scalar .flawed]

/-- The tokens of the trees of a list, separated by commas. -/
def itemTokens : List Json → List Token
  | [] => []
  | [item] => tokens item
  | item :: rest => tokens item ++ .comma :: itemTokens rest

/-- The tokens of the fields of a record, separated by commas. -/
def fieldTokens : List (String × Json) → List Token
  | [] => []
  | [(name, value)] => .text (some name) :: .colon :: tokens value
  | (name, value) :: rest => .text (some name) :: .colon :: (tokens value ++ .comma :: fieldTokens rest)

end

/-- The text of a tree, without blanks. -/
def render (json : Json) : String := String.ofList (json.tokens.flatMap Token.chars)

/-! ### Reading -/

/-- A record from its fields, the latest first. A name that denotes nothing makes it flawed. -/
def ofFieldsBackward (fields : List (Option String × Json)) : Json :=
  match fields.reverse.mapM fun (name, json) => name.map (·, json) with
  | some fields => .record fields
  | none => .flawed

/-- A list or record that is still open, around the value that is being read. What was read of it
comes latest first. -/
inductive Frame where
  | list (before : List Json)
  | record (before : List (Option String × Json)) (name : Option String)

/-- Where the reader stands between two tokens. The frames are the open lists and records, the
innermost first. -/
inductive Reader where
  | value (frames : List Frame)
  | listStart (frames : List Frame)
  | recordStart (frames : List Frame)
  | name (before : List (Option String × Json)) (frames : List Frame)
  | colon (before : List (Option String × Json)) (name : Option String) (frames : List Frame)
  | afterItem (before : List Json) (frames : List Frame)
  | afterField (before : List (Option String × Json)) (frames : List Frame)
  | done (value : Json)

namespace Reader

/-- Hands a complete value to the innermost open list or record. -/
def deliver (json : Json) : List Frame → Reader
  | [] => .done json
  | .list before :: frames => .afterItem (json :: before) frames
  | .record before label :: frames => .afterField ((label, json) :: before) frames

/-- Reads the first token of a value. -/
def beginValue? (frames : List Frame) : Token → Option Reader
  | .scalar json => some (deliver json frames)
  | .text content => some (deliver ((content.map Json.text).getD .flawed) frames)
  | .beginList => some (.listStart frames)
  | .beginRecord => some (.recordStart frames)
  | _ => none

/-- Reads one token. -/
def step? : Reader → Token → Option Reader
  | .value frames, token => beginValue? frames token
  | .listStart frames, .endList => some (deliver (.list []) frames)
  | .listStart frames, token => beginValue? (.list [] :: frames) token
  | .recordStart frames, .endRecord => some (deliver (.record []) frames)
  | .recordStart frames, .text label => some (.colon [] label frames)
  | .name before frames, .text label => some (.colon before label frames)
  | .colon before label frames, .colon => some (.value (.record before label :: frames))
  | .afterItem before frames, .comma => some (.value (.list before :: frames))
  | .afterItem before frames, .endList => some (deliver (.list before.reverse) frames)
  | .afterField before frames, .comma => some (.name before frames)
  | .afterField before frames, .endRecord => some (deliver (ofFieldsBackward before) frames)
  | _, _ => none

/-- The value read, once nothing is open. -/
def result? : Reader → Option Json
  | .done json => some json
  | _ => none

end Reader

/-- The tree that a sequence of tokens spells out. -/
def ofTokens? (tokens : List Token) : Option Json :=
  (tokens.foldlM Reader.step? (.value [])).bind Reader.result?

/-- The tree that the whole of a text spells, or `none` if the text is not well spelled. -/
def spelled? (text : String) : Option Json := (Token.scan? text.toList).bind ofTokens?

/-- How deep lists and records may be nested. -/
def maxDepth : Nat := 127

/-- The tree that the whole of a text denotes, or `none` if the text is not well formed. -/
def parse? (text : String) : Option Json := (spelled? text).filter (isSound maxDepth)

end Tabula.Json
