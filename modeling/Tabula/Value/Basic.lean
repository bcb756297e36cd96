import Tabula.Calendar.Date
import Tabula.Json.Decoder
import Tabula.Number.Layout
import Tabula.Report

/-!
# Values

A column holds scalars of one of five types, or null. Values have a partial order in which an
integer and a floating-point number compare by size, and values of unrelated types do not
compare at all. A row is sorted by a total version of it, with null before everything.
-/

namespace Tabula

/-- The type of the values of a column. -/
inductive ScalarType where
  | int
  | float
  | bool
  | text
  | date
deriving DecidableEq, Repr

/-- The content of one field of a row. -/
inductive Value where
  | null
  | bool (value : Bool)
  | int (value : Int64)
  | float (value : Double)
  | text (value : String)
  | date (value : Date)
deriving DecidableEq

namespace ScalarType

/-- The name of a type in descriptions of tables and in messages. -/
def name : ScalarType → String
  | .int => "int"
  | .float => "float"
  | .bool => "bool"
  | .text => "str"
  | .date => "date"

/-- All types. -/
def all : List ScalarType := [.int, .float, .bool, .text, .date]

/-- The type with the given name. -/
def ofName? (name : String) : Option ScalarType := all.find? (·.name == name)

/-- A type by its name. -/
def decode (dialect : Dialect) : Decoder ScalarType :=
  .enumeration dialect (all.map name) ofName?

end ScalarType

namespace Value

/-- The type of a value; null has none. -/
def type? : Value → Option ScalarType
  | .null => none
  | .bool _ => some .bool
  | .int _ => some .int
  | .float _ => some .float
  | .text _ => some .text
  | .date _ => some .date

/-- Whether the value has exactly the given type. -/
def hasType (value : Value) (type : ScalarType) : Bool := value.type? == some type

/-- Whether the value is null. -/
def isNull : Value → Bool
  | .null => true
  | _ => false

/-- Whether the value counts as empty: null, false, zero and the empty text. Dates never do. -/
def isFalsy : Value → Bool
  | .null => true
  | .bool value => !value
  | .int value => value == 0
  | .float value => value.isZero
  | .text value => value.isEmpty
  | .date _ => false

/-- An integer as a floating-point number, rounded to the nearest. -/
def widen (n : Int64) : Double := .ofInt n.toInt

/-- The order of two values, or `none` where they do not compare. Two nulls are equal here; it is
for conditions on rows to treat null apart. -/
def compare? : Value → Value → Option Ordering
  | .null, .null => some .eq
  | .bool a, .bool b => some (Ord.compare a b)
  | .int a, .int b => some (Ord.compare a.toInt b.toInt)
  | .int a, .float b => (widen a).compare? b
  | .float a, .int b => a.compare? (widen b)
  | .float a, .float b => a.compare? b
  | .text a, .text b => some (Ord.compare a b)
  | .date a, .date b => some (a.compare b)
  | _, _ => none

/-- Whether two values are equal in their order. A value that is not a number equals nothing. -/
def same (a b : Value) : Bool := a.compare? b == some .eq

/-- The order for sorting: null first, and values that do not compare count as equal. -/
def sortOrder : Value → Value → Ordering
  | .null, .null => .eq
  | .null, _ => .lt
  | _, .null => .gt
  | a, b => (a.compare? b).getD .eq

/-- A truth value as a word. -/
def boolText (value : Bool) : String := if value then "true" else "false"

/-- The plain text of a value, on which text patterns are matched. -/
def plainText : Value → String
  | .null => ""
  | .bool value => boolText value
  | .int value => String.ofList (integerChars value.toInt)
  | .float value => value.plainText
  | .text value => value
  | .date value => value.text

/-- A value as it is written in statements and messages. Texts stand between quotes as they
are. -/
def literal : Value → String
  | .null => "null"
  | .text value => "'" ++ value ++ "'"
  | .date value => "'" ++ value.text ++ "'"
  | value => value.plainText

/-- Several values as they are written in statements. -/
def literals (values : List Value) : String := ", ".intercalate (values.map literal)

end Value

end Tabula
