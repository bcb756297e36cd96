import Tabula.Json.Decoder
import Tabula.Toml.Value

/-!
# TOML documents

A document is a sequence of headers and assignments, one a line at least, that build a tree of
tables. `Toml.parse?` reads it as a tree of the same kind that JSON denotes.
-/

namespace Tabula.Toml

/-- One line of a document, with the lines that its value goes on for. -/
inductive Statement where
  | assign (path : List String) (value : Json)
  | header (path : List String)
  | nextHeader (path : List String)

/-- A document while it is read: its tables, and the path of the header that assignments belong
to. -/
structure Document where
  items : Items
  current : List String

namespace Document

/-- A document of which nothing is read. -/
def empty : Document := ⟨[], []⟩

/-- Takes a statement into account. -/
def add? (document : Document) : Statement → Option Document
  | .assign path value =>
    (assignUnder document.current path value document.items).map (⟨·, document.current⟩)
  | .header path => (define path document.items).map (⟨·, path⟩)
  | .nextHeader path => (defineNext path document.items).map (⟨·, path⟩)

/-- The tree of the document. -/
def toJson (document : Document) : Json := .record (fieldsToJson document.items)

end Document

/-- Reads a statement without the end of its line. -/
def statement? (chars : List Char) : Option (Statement × List Char) :=
  match chars with
  | '[' :: '[' :: rest => do
    let (path, rest) ← key? rest
    match rest with
    | ']' :: ']' :: rest => some (.nextHeader path, rest)
    | _ => none
  | '[' :: rest => do
    let (path, rest) ← key? rest
    match rest with
    | ']' :: rest => some (.header path, rest)
    | _ => none
  | chars => do
    let (path, rest) ← keyEquals? chars
    let (value, rest) ← value? rest
    return (.assign path value, rest)

/-- Reads the next line that is not empty, or ends with the text. -/
def lineStep (document : Document) (chars : List Char) :
    Option ((Document ⊕ Document) × List Char) :=
  match skipTrivia chars with
  | [] => some (.inr document, [])
  | '#' :: rest => (lineEnd? ('#' :: rest)).map (.inl document, ·)
  | chars => do
    let (statement, rest) ← statement? chars
    let rest ← lineEnd? rest
    let document ← document.add? statement
    return (.inl document, rest)

/-- Reads a document from the whole of a text, which may begin with a byte order mark. -/
def parse? (text : String) : Option Json :=
  let chars := match text.toList with
    | '\ufeff' :: rest => rest
    | chars => chars
  (iterate lineStep .empty chars).map fun (document, _) => document.toJson

/-- TOML: a list that stands for a record may be longer, and an empty list or table stands beside
the name of a case. -/
def dialect : Dialect where
  surplusItems := true
  isUnit
    | .list [] => true
    | .record [] => true
    | _ => false

end Tabula.Toml
