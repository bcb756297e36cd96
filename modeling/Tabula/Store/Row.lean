import Tabula.Value.Convert

/-!
# Rows, keys and records

A row holds one value for each column. A key consists of the values of a row in the columns of the
primary key. A record is a row of an answer under the names of the requested fields.
-/

namespace Tabula

/-- The values of a row, in the order of the columns. -/
abbrev Row := List Value

/-- Whether two rows are equal, value by value. -/
def sameRow : Row → Row → Bool
  | [], [] => true
  | a :: rest, b :: rest' => a.same b && sameRow rest rest'
  | _, _ => false

/-- The key of a row. -/
structure RowKey where
  values : List Value
deriving DecidableEq

namespace RowKey

/-- Whether two keys are equal, value by value. -/
def same (a b : RowKey) : Bool := sameRow a.values b.values

/-- The JSON form of a key: the value itself for a key of one column, a list otherwise. -/
def toJson (key : RowKey) : Json :=
  match key.values with
  | [value] => value.toJson
  | values => .list (values.map Value.toJson)

/-- A key as it is written in messages. -/
def literal (key : RowKey) : String :=
  match key.values with
  | [value] => value.literal
  | values => "(" ++ Value.literals values ++ ")"

end RowKey

/-- A row of an answer under the names of its fields, each name once. -/
abbrev Record := List (String × Value)

namespace Record

/-- Names the values of a row. A repeated name keeps its first place and has the last value. -/
def ofRow (fields : List String) (row : Row) : Record := Json.lastOfEach (fields.zip row)

/-- The JSON form of a record. -/
def toJson (record : Record) : Json :=
  .record (record.map fun field => (field.1, field.2.toJson))

end Record

end Tabula
