import Tabula.Query.Page
import Tabula.Schema.Registry

/-!
# Select plans

A fetch request becomes a plan in which every name is bound to a column of a table. Filter and
sort belong to the first table. Every join brings in one more table by the equality of one of its
columns with a column that is there already. The plan has a text in the manner of SQL.
-/

namespace Tabula

/-- One more table, joined on the equality of two columns. -/
structure JoinPlan where
  table : TableSchema
  /-- A column of an earlier table. -/
  left : ColumnRef
  /-- A column of the joined table. -/
  right : ColumnRef
deriving DecidableEq

/-- The sort of a plan. -/
structure OrderBy where
  column : ColumnRef
  descending : Bool
deriving DecidableEq

/-- A query with all names bound. -/
structure SelectPlan where
  table : TableSchema
  projection : List ColumnRef
  filter : Option Predicate
  joins : List JoinPlan
  order : Option OrderBy
  page : Option PageWindow
  distinct : Bool
deriving DecidableEq

namespace SelectPlan

/-- The plan that reads columns of the rows of one table. -/
def scan (table : TableSchema) (projection : List ColumnRef) (filter : Option Predicate) :
    SelectPlan :=
  ⟨table, projection, filter, [], none, none, false⟩

/-- The tables of the query, in the order in which they come in. -/
def tables (plan : SelectPlan) : List TableSchema := plan.table :: plan.joins.map (·.table)

/-! ### Text -/

/-- The text of a join. -/
def joinText (join : JoinPlan) : String :=
  " JOIN " ++ join.table.qualifiedName ++ " ON " ++ join.left.text ++ " = " ++ join.right.text

/-- The text of a sort. -/
def orderText (order : OrderBy) : String :=
  " ORDER BY " ++ order.column.text ++ (if order.descending then " DESC" else " ASC")

/-- The text of a page. -/
def pageText (page : PageWindow) : String := s!" LIMIT {page.limit} OFFSET {page.offset}"

/-- The text of a plan. -/
def text (plan : SelectPlan) : String :=
  "SELECT " ++ (if plan.distinct then "DISTINCT " else "") ++
    ", ".intercalate (plan.projection.map ColumnRef.text) ++
    " FROM " ++ plan.table.qualifiedName ++
    "".intercalate (plan.joins.map joinText) ++
    (plan.filter.map fun filter => " WHERE " ++ filter.text).getD "" ++
    (plan.order.map orderText).getD "" ++
    (plan.page.map pageText).getD ""

/-! ### Planning -/

/-- Whether a table is among the given ones. -/
def hasTable (tables : List TableSchema) (schema : TableSchema) : Bool :=
  tables.any (·.isOf schema.database schema.name)

/-- Binds one join, given the tables that are in the query. -/
def bindJoin (tables : List TableSchema) (join : JoinRequest) (left right : ResolvedField) :
    Except QueryError JoinPlan :=
  if !hasTable tables left.table then .error (.joinOutsideQuery join.left)
  else if hasTable tables right.table then .error (.tableRepeated right.table.qualifiedName)
  else if left.column.type ≠ right.column.type then
    .error (.joinTypes join.left left.column.type join.right right.column.type)
  else
    .ok ⟨right.table, ColumnRef.of left.table left.column,
      ColumnRef.of right.table right.column⟩

/-- Binds the joins in their order, given the tables that are in the query and those that were
looked up before. -/
def bindJoins (registry : Registry) : TableMemo → List TableSchema → List JoinRequest →
    Except QueryError (List JoinPlan)
  | _, _, [] => .ok []
  | memo, tables, join :: rest => do
    let (left, memo) := memo.resolveField registry join.left
    let left ← left.mapError QueryError.schema
    let (right, memo) := memo.resolveField registry join.right
    let right ← right.mapError QueryError.schema
    let bound ← bindJoin tables join left right
    let others ← bindJoins registry memo (tables ++ [bound.table]) rest
    return bound :: others

/-- The column of a table under the name that a requested field gives. -/
def columnFor (schema : TableSchema) (field name : String) : Except QueryError ColumnRef :=
  match schema.column? name with
  | some column => .ok (ColumnRef.of schema column)
  | none => .error (.unknownField field)

/-- Binds a requested field. A name without a dot is a column of the first table; a path leads to
the first table of the query that it fits. -/
def bindField (first : TableSchema) (tables : List TableSchema) (field : String) :
    Except QueryError ColumnRef :=
  if '.' ∉ field.toList then columnFor first field field
  else do
    let path ← (FieldPath.ofText field).mapError QueryError.schema
    let fits (schema : TableSchema) : Bool :=
      schema.name == path.table && path.database.all (· == schema.database)
    match tables.find? fits with
    | some schema => columnFor schema field path.column
    | none => throw (.unknownField field)

/-- Binds the sort to a column of the first table. -/
def bindSort (first : TableSchema) (sort : SortRequest) : Except QueryError OrderBy :=
  match first.column? sort.field with
  | some column => .ok ⟨ColumnRef.of first column, sort.direction == .descending⟩
  | none => .error (.unknownSortField sort.field)

/-- Plans a fetch request. The page is checked before anything is looked up. -/
def ofRequest (registry : Registry) (request : FetchRequest) : Except QueryError SelectPlan := do
  let page ← PageWindow.ofPage request.pageNumber request.pageSize
  if request.fields.isEmpty then throw .noFields
  let (table, memo) := TableMemo.empty.resolve registry request.database request.table
  let table ← table.mapError QueryError.schema
  let filter ← (FilterItem.compileAll table request.filters).mapError QueryError.filter
  let joins ← bindJoins registry memo [table] request.joins
  let tables := table :: joins.map (·.table)
  let projection ← request.fields.mapM (bindField table tables)
  let order ← request.sort.mapM (bindSort table)
  return ⟨table, projection, filter, joins, order, some page, request.distinct⟩

end SelectPlan

end Tabula
