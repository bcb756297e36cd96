import Tabula.Filter.Pattern
import Tabula.Schema.Basic

/-!
# Predicates on rows

Conditions on the columns of a row, joined by `AND` and `OR`. A row is given by the value of each
column, which may be absent. Null and absent values satisfy no condition, not even that of being
unequal.
-/

namespace Tabula

/-- A column of a certain table, with its position and type. -/
structure ColumnRef where
  database : String
  table : String
  name : String
  index : Nat
  type : ScalarType
deriving DecidableEq, Repr

namespace ColumnRef

/-- A column of a table. -/
def of (schema : TableSchema) (column : Column) : ColumnRef :=
  ⟨schema.database, schema.name, column.name, column.index, column.type⟩

/-- Whether the column belongs to a table. -/
def belongsTo (ref : ColumnRef) (schema : TableSchema) : Bool :=
  schema.isOf ref.database ref.table

/-- The column as it is written in statements. -/
def text (ref : ColumnRef) : String := ref.table ++ "." ++ ref.name

end ColumnRef

/-- Comparisons with a single value. -/
inductive Comparison where
  | equal
  | unequal
  | greater
  | less
deriving DecidableEq, Repr

namespace Comparison

/-- The sign of a comparison in statements. -/
def symbol : Comparison → String
  | .equal => "="
  | .unequal => "!="
  | .greater => ">"
  | .less => "<"

/-- Whether a value compares so with another. Values that do not compare are unequal. -/
def holds : Comparison → Value → Value → Bool
  | .equal, a, b => a.same b
  | .unequal, a, b => !a.same b
  | .greater, a, b => a.compare? b == some .gt
  | .less, a, b => a.compare? b == some .lt

end Comparison

/-- A condition on rows. -/
inductive Predicate where
  | compare (column : ColumnRef) (comparison : Comparison) (value : Value)
  | oneOf (column : ColumnRef) (values : List Value)
  | like (column : ColumnRef) (pattern : String) (ignoreCase : Bool)
  | and (left right : Predicate)
  | or (left right : Predicate)
deriving DecidableEq

/-- The values of the columns of a row, as far as it has them. -/
abbrev RowView := ColumnRef → Option Value

namespace Predicate

/-- Whether a column has a value other than null and that value passes a test. -/
def onValue (row : RowView) (column : ColumnRef) (test : Value → Bool) : Bool :=
  match row column with
  | none => false
  | some value => !value.isNull && test value

/-- Whether a row satisfies a predicate. -/
def eval (row : RowView) : Predicate → Bool
  | compare column comparison value =>
    onValue row column fun found => comparison.holds found value
  | oneOf column values => onValue row column fun found => values.any (·.same found)
  | like column pattern ignoreCase =>
    onValue row column fun found => Pattern.coversText pattern found.plainText ignoreCase
  | and left right => left.eval row && right.eval row
  | or left right => left.eval row || right.eval row

/-- The text of a predicate in statements. -/
def text : Predicate → String
  | compare column comparison value =>
    column.text ++ " " ++ comparison.symbol ++ " " ++ value.literal
  | oneOf column values => column.text ++ " IN (" ++ Value.literals values ++ ")"
  | like column pattern ignoreCase =>
    column.text ++ (if ignoreCase then " ILIKE '" else " LIKE '") ++ pattern ++ "'"
  | and left right => "(" ++ left.text ++ " AND " ++ right.text ++ ")"
  | or left right => "(" ++ left.text ++ " OR " ++ right.text ++ ")"

end Predicate

end Tabula
