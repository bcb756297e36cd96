import Tabula.Query.Delete
import Tabula.Store.Engine

/-!
# Reading rows

A select plan is carried out on the rows that its tables have now, in a fixed order: the filter on
the first table, the joins in their order, the sort, the projection, the removal of repeated rows,
and the page.
-/

namespace Tabula

/-- The database and the name of a table. -/
abbrev TableName := String × String

/-- A row of each table that has come into a query, in the order in which they came. -/
abbrev JoinedRow := List (TableName × Row)

/-- The value of a column, from the first table of its name. -/
def JoinedRow.value? (joined : JoinedRow) (column : ColumnRef) : Option Value :=
  match joined.find? (·.1 == (column.database, column.table)) with
  | some (_, row) => row[column.index]?
  | none => none

/-- The order of two rows by the sort of a plan. Rows without the column count as equal. -/
def OrderBy.compare (order : OrderBy) (a b : JoinedRow) : Ordering :=
  match a.value? order.column, b.value? order.column with
  | some a, some b => if order.descending then (a.sortOrder b).swap else a.sortOrder b
  | _, _ => .eq

namespace SelectPlan

/-- The name under which the rows of a table come into a query. -/
def nameOf (schema : TableSchema) : TableName := (schema.database, schema.name)

/-- The rows of the first table that satisfy the filter. -/
def firstRows (plan : SelectPlan) (rows : List Row) : List JoinedRow :=
  (rows.map fun row => [(nameOf plan.table, row)]).filter fun joined =>
    plan.filter.all (·.eval joined.value?)

/-- The rows of a joined table that go with a row of the query. Null goes with nothing. -/
def partners (join : JoinPlan) (rows : List Row) (joined : JoinedRow) : List Row :=
  match joined.value? join.left with
  | none => []
  | some value =>
    if value.isNull then []
    else rows.filter fun row => row[join.right.index]?.any (·.same value)

/-- Brings in one more table. -/
def joinRows (join : JoinPlan) (rows : List Row) (joined : List JoinedRow) : List JoinedRow :=
  joined.flatMap fun before =>
    (partners join rows before).map fun row => before ++ [(nameOf join.table, row)]

/-- Brings in further tables, each with its rows. -/
def joinAll (joined : List JoinedRow) (tables : List (JoinPlan × List Row)) : List JoinedRow :=
  tables.foldl (fun joined (join, rows) => joinRows join rows joined) joined

/-- The rows in the order of the sort; rows that are equal in it keep their order. -/
def sortRows (order : Option OrderBy) (joined : List JoinedRow) : List JoinedRow :=
  match order with
  | none => joined
  | some order => joined.mergeSort fun a b => order.compare a b != .gt

/-- The requested values of a row. -/
def project (columns : List ColumnRef) (joined : JoinedRow) : Row :=
  columns.map fun column => (joined.value? column).getD .null

/-- The rows that are not equal to an earlier one. -/
def distinctRows (rows : List Row) : List Row :=
  rows.foldl (fun kept row => if kept.any (sameRow · row) then kept else kept ++ [row]) []

/-- The rows of an answer from the joined rows. -/
def answer (plan : SelectPlan) (joined : List JoinedRow) : List Row :=
  let rows := (sortRows plan.order joined).map (project plan.projection)
  let rows := if plan.distinct then distinctRows rows else rows
  match plan.page with
  | none => rows
  | some page => page.cut rows

/-- The joined rows of a plan, given the rows of the first and of the joined tables. -/
def joinedRows (plan : SelectPlan) (rows : List Row) (joinedTables : List (List Row)) :
    List JoinedRow :=
  joinAll (plan.firstRows rows) (plan.joins.zip joinedTables)

/-- The rows that the table of a schema has now. -/
def rowsNow (engine : Engine) (schema : TableSchema) : Except StoreError (List Row) := do
  let table ← (engine.table schema.database schema.name).mapError StoreError.schema
  return table.rows

/-- Carries out a plan on the rows that the tables have now. -/
def run (plan : SelectPlan) (engine : Engine) : Except StoreError (List Row) := do
  let rows ← rowsNow engine plan.table
  let joinedTables ← plan.joins.mapM fun join => rowsNow engine join.table
  return plan.answer (plan.joinedRows rows joinedTables)

end SelectPlan

end Tabula
