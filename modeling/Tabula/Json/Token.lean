import Tabula.Json.Number

/-!
# JSON tokens

A JSON text is a sequence of tokens with blanks between them. `Token.scan?` splits a text into
tokens and `Token.chars` writes one token, without blanks. Strings are read with all the escapes
of JSON; the surrogates of a character beyond the basic plane must come as a pair, otherwise the
string is well spelled but denotes no text. Strings are written with as few escapes as possible.
-/

namespace Tabula.Json

/-- The smallest pieces of a JSON text. Values other than strings, lists and records are scalar
tokens. -/
inductive Token where
  | beginList
  | endList
  | beginRecord
  | endRecord
  | comma
  | colon
  /-- A string, with the text that it denotes, if any. -/
  | text (value : Option String)
  | scalar (value : Json)

namespace Token

/-- The blanks between tokens. -/
def isBlank (c : Char) : Bool := c == ' ' || c == '\t' || c == '\n' || c == '\r'

/-- The token that a single character stands for. -/
def ofPunctuation? : Char → Option Token
  | '[' => some .beginList
  | ']' => some .endList
  | '{' => some .beginRecord
  | '}' => some .endRecord
  | ',' => some .comma
  | ':' => some .colon
  | _ => none

/-- Characters of names and numerals: all but blanks, punctuation and quotes. -/
def isWordChar (c : Char) : Bool := !isBlank c && (ofPunctuation? c).isNone && c != '"'

/-- The value that a word stands for. -/
def ofWord? (word : List Char) : Option Json :=
  match String.ofList word with
  | "null" => some .null
  | "true" => some (.bool true)
  | "false" => some (.bool false)
  | _ => Number.ofChars? word

/-! ### Strings -/

/-- The value of a hexadecimal digit. -/
def hexDigit? (c : Char) : Option Nat :=
  if '0' ≤ c ∧ c ≤ '9' then some (c.toNat - '0'.toNat)
  else if 'a' ≤ c ∧ c ≤ 'f' then some (c.toNat - 'a'.toNat + 10)
  else if 'A' ≤ c ∧ c ≤ 'F' then some (c.toNat - 'A'.toNat + 10)
  else none

/-- The number that four hexadecimal digits denote. -/
def codeUnit? (a b c d : Char) : Option Nat := do
  return (((← hexDigit? a) * 16 + (← hexDigit? b)) * 16 + (← hexDigit? c)) * 16 + (← hexDigit? d)

/-- The character that stands after a backslash in an escape of two characters. -/
def ofEscape? : Char → Option Char
  | '"' => some '"'
  | '\\' => some '\\'
  | '/' => some '/'
  | 'b' => some '\x08'
  | 'f' => some '\x0c'
  | 'n' => some '\n'
  | 'r' => some '\r'
  | 't' => some '\t'
  | _ => none

/-- A piece of a string: a character, or one half of a character that is escaped in two halves. -/
inductive Piece where
  | char (value : Char)
  | surrogate (unit : Nat)

/-- The piece that an escaped code unit stands for. -/
def Piece.ofUnit (unit : Nat) : Piece :=
  if 0xd800 ≤ unit ∧ unit ≤ 0xdfff then .surrogate unit else .char (Char.ofNat unit)

/-- The characters that pieces make up. The halves of a character must follow each other, the high
one first. -/
def joinPieces? : List Piece → Option (List Char)
  | [] => some []
  | .char c :: rest => (joinPieces? rest).map (c :: ·)
  | .surrogate high :: .surrogate low :: rest =>
    if high < 0xdc00 ∧ 0xdc00 ≤ low then
      let code := 0x10000 + (high - 0xd800) * 0x400 + (low - 0xdc00)
      (joinPieces? rest).map (Char.ofNat code :: ·)
    else none
  | _ => none

/-- Reads the rest of a string after its opening quote: its pieces, and what follows the closing
quote. -/
def readText? : List Char → Option (List Piece × List Char)
  | [] => none
  | '"' :: rest => some ([], rest)
  | '\\' :: 'u' :: a :: b :: c :: d :: rest =>
    match codeUnit? a b c d with
    | none => none
    | some unit => (readText? rest).map fun (pieces, after) => (.ofUnit unit :: pieces, after)
  | '\\' :: c :: rest =>
    match ofEscape? c with
    | none => none
    | some escaped => (readText? rest).map fun (pieces, after) => (.char escaped :: pieces, after)
  | c :: rest =>
    if c.toNat < 0x20 ∨ c = '\\' then none
    else (readText? rest).map fun (pieces, after) => (.char c :: pieces, after)

/-- What follows a string is shorter than the text it was read from. -/
theorem length_lt_of_readText? {chars after : List Char} {pieces : List Piece}
    (h : readText? chars = some (pieces, after)) : after.length < chars.length := by
  fun_induction readText? chars generalizing pieces after <;> simp_all <;> grind

/-- Splits a text into tokens. -/
def scan? : List Char → Option (List Token)
  | [] => some []
  | c :: rest =>
    if isBlank c then scan? rest
    else match ofPunctuation? c with
    | some token => (scan? rest).map (token :: ·)
    | none =>
      if c = '"' then
        match _h : readText? rest with
        | none => none
        | some (pieces, after) =>
          (scan? after).map (.text ((joinPieces? pieces).map String.ofList) :: ·)
      else
        match ofWord? (c :: rest.takeWhile isWordChar) with
        | none => none
        | some value => (scan? (rest.dropWhile isWordChar)).map (.scalar value :: ·)
termination_by chars => chars.length
decreasing_by
  · simp
  · simp
  · have := length_lt_of_readText? _h
    simp only [List.length_cons]; omega
  · have := (List.dropWhile_sublist isWordChar (l := rest)).length_le
    simp only [List.length_cons]; omega

/-! ### Writing -/

/-- A hexadecimal digit, in lower case. -/
def hexDigitChar (n : Nat) : Char := Nat.digitChar n

/-- A character inside a written string. Quotes, backslashes and controls are escaped, controls
without a short escape by their number. -/
def escaped (c : Char) : List Char :=
  if c = '"' then ['\\', '"']
  else if c = '\\' then ['\\', '\\']
  else if c = '\x08' then ['\\', 'b']
  else if c = '\x0c' then ['\\', 'f']
  else if c = '\n' then ['\\', 'n']
  else if c = '\r' then ['\\', 'r']
  else if c = '\t' then ['\\', 't']
  else if c.toNat < 0x20 then
    ['\\', 'u', '0', '0', hexDigitChar (c.toNat / 16), hexDigitChar (c.toNat % 16)]
  else [c]

/-- A string between quotes. -/
def quoted (text : String) : List Char := '"' :: text.toList.flatMap escaped ++ ['"']

/-- A scalar as a word. Numbers that are not finite have no spelling and are written as null, as
flawed parts are; lists, records and strings are not scalars and are never written here. -/
def scalarChars : Json → List Char
  | .bool true => "true".toList
  | .bool false => "false".toList
  | .int n _ => integerChars n
  | .float x => (x.exchangeText?.getD "null").toList
  | _ => "null".toList

/-- The written form of a token. A string that denotes no text is never written. -/
def chars : Token → List Char
  | .beginList => ['[']
  | .endList => [']']
  | .beginRecord => ['{']
  | .endRecord => ['}']
  | .comma => [',']
  | .colon => [':']
  | .text value => quoted (value.getD "")
  | .scalar value => scalarChars value

end Token

end Tabula.Json
