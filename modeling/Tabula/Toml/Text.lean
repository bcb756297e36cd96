import Tabula.Json.Token

/-!
# Blanks, comments and strings of TOML

The parts of a TOML text that are read character by character: what may stand between two
lexemes, and the four kinds of strings. Every reader gives what it has read and the rest of the
text.
-/

namespace Tabula.Toml

/-- Spaces and tabs, which never end a line. -/
def isBlank (c : Char) : Bool := c == ' ' || c == '\t'

/-- Drops the blanks at the front. -/
def skipBlanks (chars : List Char) : List Char := chars.dropWhile isBlank

/-- Takes a line end off a text. A carriage return alone is none. -/
def newline? : List Char → Option (List Char)
  | '\n' :: rest => some rest
  | '\r' :: '\n' :: rest => some rest
  | _ => none

/-- What follows a line end is shorter than the text. -/
theorem length_lt_of_newline? {chars rest : List Char} (h : newline? chars = some rest) :
    rest.length < chars.length := by
  unfold newline? at h
  split at h
  · cases h
    simp
  · cases h
    simp only [List.length_cons]; omega
  · cases h

/-- The characters of comments and strings: all but controls, of which the tab is admitted. -/
def isTextChar (c : Char) : Bool := c == '\t' || (0x20 ≤ c.toNat && c.toNat ≠ 0x7f)

/-- Takes a comment off a text, up to the end of its line. -/
def skipComment : List Char → List Char
  | '#' :: rest => rest.dropWhile isTextChar
  | chars => chars

/-- Reads to the end of a line on which nothing but a comment may follow. -/
def lineEnd? (chars : List Char) : Option (List Char) :=
  match skipComment (skipBlanks chars) with
  | [] => some []
  | rest => newline? rest

/-- Drops blanks, line ends and whole comments at the front. A comment without a line end stays. -/
def skipTrivia : List Char → List Char
  | '\n' :: rest => skipTrivia rest
  | '\r' :: '\n' :: rest => skipTrivia rest
  | '#' :: rest =>
    match _h : newline? (rest.dropWhile isTextChar) with
    | some after => skipTrivia after
    | none => '#' :: rest
  | c :: rest => if isBlank c then skipTrivia rest else c :: rest
  | [] => []
termination_by chars => chars.length
decreasing_by
  · simp
  · simp only [List.length_cons]; omega
  · have shorter := length_lt_of_newline? _h
    have kept := (List.dropWhile_sublist isTextChar (l := rest)).length_le
    simp only [List.length_cons]; omega
  · simp

/-! ### Strings -/

/-- The character that stands after a backslash in an escape of two characters. -/
def ofEscape? : Char → Option Char
  | 'b' => some '\x08'
  | 'f' => some '\x0c'
  | 'n' => some '\n'
  | 'r' => some '\r'
  | 't' => some '\t'
  | '"' => some '"'
  | '\\' => some '\\'
  | _ => none

/-- The character whose number is written in hexadecimal digits, if there is one. -/
def ofNumber? (digits : List Char) : Option Char := do
  let values ← digits.mapM Json.Token.hexDigit?
  let code := values.foldl (fun code digit => 16 * code + digit) 0
  if code.isValidChar then some (Char.ofNat code) else none

/-- Puts a character before what was read. -/
def cons (c : Char) : List Char × List Char → List Char × List Char
  | (chars, rest) => (c :: chars, rest)

/-- Reads the rest of a string on one line after its opening quote. -/
def basicBody? : List Char → Option (List Char × List Char)
  | [] => none
  | '"' :: rest => some ([], rest)
  | '\\' :: 'u' :: a :: b :: c :: d :: rest =>
    match ofNumber? [a, b, c, d] with
    | some char => (basicBody? rest).map (cons char)
    | none => none
  | '\\' :: 'U' :: a :: b :: c :: d :: e :: f :: g :: h :: rest =>
    match ofNumber? [a, b, c, d, e, f, g, h] with
    | some char => (basicBody? rest).map (cons char)
    | none => none
  | '\\' :: c :: rest =>
    match ofEscape? c with
    | some char => (basicBody? rest).map (cons char)
    | none => none
  | c :: rest => if isTextChar c && c != '\\' then (basicBody? rest).map (cons c) else none

/-- Whether only blanks are left on the line. -/
def restIsBlank (chars : List Char) : Bool := (newline? (skipBlanks chars)).isSome

/-- The one or two quotes that may stand before the three closing quotes of a string, given what
follows three quotes. -/
def closingQuotes (quote : Char) : List Char → List Char × List Char
  | c :: d :: rest =>
    if c == quote then if d == quote then ([c, d], rest) else ([c], d :: rest)
    else ([], c :: d :: rest)
  | [c] => if c == quote then ([c], []) else ([], [c])
  | [] => ([], [])

/-- Reads the rest of a string of several lines. While `trimming`, blanks and line ends are left
out: a backslash at the end of a line joins it to the next text. -/
def multilineBody? (trimming : Bool) : List Char → Option (List Char × List Char)
  | [] => none
  | '"' :: '"' :: '"' :: rest => some (closingQuotes '"' rest)
  | '\\' :: 'u' :: a :: b :: c :: d :: rest =>
    match ofNumber? [a, b, c, d] with
    | some char => (multilineBody? false rest).map (cons char)
    | none => none
  | '\\' :: 'U' :: a :: b :: c :: d :: e :: f :: g :: h :: rest =>
    match ofNumber? [a, b, c, d, e, f, g, h] with
    | some char => (multilineBody? false rest).map (cons char)
    | none => none
  | '\r' :: '\n' :: rest =>
    if trimming then multilineBody? true rest
    else (multilineBody? false rest).map (cons '\n')
  | '\\' :: c :: rest =>
    if restIsBlank (c :: rest) then multilineBody? true (c :: rest)
    else match ofEscape? c with
    | some char => (multilineBody? false rest).map (cons char)
    | none => none
  | c :: rest =>
    if trimming && (isBlank c || c == '\n') then multilineBody? true rest
    else if c == '\n' || (isTextChar c && c != '\\') then
      (multilineBody? false rest).map (cons c)
    else none

/-- Reads the rest of a literal string of several lines. -/
def multilineLiteralBody? : List Char → Option (List Char × List Char)
  | [] => none
  | '\'' :: '\'' :: '\'' :: rest => some (closingQuotes '\'' rest)
  | '\r' :: '\n' :: rest => (multilineLiteralBody? rest).map (cons '\n')
  | c :: rest =>
    if c == '\n' || isTextChar c then (multilineLiteralBody? rest).map (cons c) else none

/-- Reads the rest of a literal string on one line. -/
def literalBody? (chars : List Char) : Option (List Char × List Char) :=
  let inside (c : Char) : Bool := isTextChar c && c != '\''
  match chars.dropWhile inside with
  | '\'' :: rest => some (chars.takeWhile inside, rest)
  | _ => none

/-- Drops the line end right after the opening quotes of a string of several lines. -/
def skipFirstNewline (chars : List Char) : List Char := (newline? chars).getD chars

/-- Reads a string on one line, which is what a key may be. -/
def lineString? : List Char → Option (List Char × List Char)
  | '"' :: rest => basicBody? rest
  | '\'' :: rest => literalBody? rest
  | _ => none

/-- Reads a string. -/
def string? : List Char → Option (List Char × List Char)
  | '"' :: '"' :: '"' :: rest => multilineBody? false (skipFirstNewline rest)
  | '\'' :: '\'' :: '\'' :: rest => multilineLiteralBody? (skipFirstNewline rest)
  | chars => lineString? chars

end Tabula.Toml
