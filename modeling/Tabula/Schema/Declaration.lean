import Tabula.Schema.Basic

/-!
# Declared tables

A user declares a table column by column, each with four marks. One of them says whether the column
has a default, and it may be wrong. `TableDescription.ofDeclaration` takes the columns in order,
sets this mark anew and notes the positions of the key columns.

A `TableSchema` has the same columns without what can be read off them: the mark of the default and
the positions of the key.
-/

namespace Tabula

/-- The marks of a column. -/
structure ColumnMarks where
  isNullable : Bool
  isPrimaryKey : Bool
  hasDefault : Bool
  isAutoIncrement : Bool
deriving DecidableEq

/-- A column as a user declares it. -/
structure ColumnDeclaration where
  name : String
  type : ScalarType
  marks : ColumnMarks
  /-- The value of rows for which none is given, which may be null. -/
  default : Option Value
  /-- The greatest number of characters of a text to write. -/
  maxLength : Option UInt32
deriving DecidableEq

/-- A table as a user declares it. -/
structure TableDeclaration where
  name : String
  columns : List ColumnDeclaration
deriving DecidableEq

/-- A column of a described table, with its position in the rows. -/
structure DescribedColumn extends ColumnDeclaration where
  index : Nat
deriving DecidableEq

/-- The description of a table of a database, with the positions of its key columns. -/
structure TableDescription where
  database : String
  name : String
  columns : List DescribedColumn
  primaryKey : List Nat
deriving DecidableEq

/-! ### From a declaration to a description -/

/-- The column with the mark of its default set as it has one. -/
def ColumnDeclaration.settled (declared : ColumnDeclaration) : ColumnDeclaration :=
  { declared with marks := { declared.marks with hasDefault := declared.default.isSome } }

/-- A description as far as the columns have been taken. -/
structure DescriptionDraft where
  columns : List DescribedColumn
  primaryKey : List Nat

namespace DescriptionDraft

/-- No columns yet. -/
def empty : DescriptionDraft := ⟨[], []⟩

/-- The draft with one column more at the end. -/
def append (draft : DescriptionDraft) (column : ColumnDeclaration) : DescriptionDraft :=
  let index := draft.columns.length
  { columns := draft.columns ++ [⟨column, index⟩]
    primaryKey :=
      if column.marks.isPrimaryKey then draft.primaryKey ++ [index] else draft.primaryKey }

/-- Takes the next column, if it is lawful. -/
def add (draft : DescriptionDraft) (declared : ColumnDeclaration) :
    Except SchemaError DescriptionDraft :=
  let column := declared.settled
  if draft.columns.any (·.name == column.name) then .error (.duplicateColumn column.name)
  else if column.marks.isAutoIncrement && (column.type != .int || !column.marks.isPrimaryKey) then
    .error (.invalidColumn column.name .autoIncrementOffKey)
  else if column.default.any fun value => !value.isNull && !value.hasType column.type then
    .error (.invalidColumn column.name .defaultOfOtherType)
  else .ok (draft.append column)

end DescriptionDraft

namespace TableDescription

/-- The description of a declared table, if that is lawful. The first unlawful column is reported;
a composite key with a numbered column is a fault of the table and reported under its name. -/
def ofDeclaration (database : String) (declaration : TableDeclaration) :
    Except SchemaError TableDescription := do
  let draft ← declaration.columns.foldlM DescriptionDraft.add .empty
  if 1 < draft.primaryKey.length && draft.columns.any (·.marks.isAutoIncrement) then
    throw (.invalidColumn declaration.name .autoIncrementOnCompositeKey)
  return ⟨database, declaration.name, draft.columns, draft.primaryKey⟩

/-- The columns of the primary key, in order. -/
def keyColumns (description : TableDescription) : List DescribedColumn :=
  description.primaryKey.filterMap (description.columns[·]?)

/-- The only column of the primary key, if it has just one. -/
def singleKey? (description : TableDescription) : Option DescribedColumn :=
  match description.primaryKey with
  | [index] => description.columns[index]?
  | _ => none

end TableDescription

/-! ### Declarations and schemas -/

/-- The column without the mark of its default. -/
def ColumnDeclaration.spec (declared : ColumnDeclaration) : ColumnSpec where
  name := declared.name
  type := declared.type
  isNullable := declared.marks.isNullable
  isPrimaryKey := declared.marks.isPrimaryKey
  isAutoIncrement := declared.marks.isAutoIncrement
  default := declared.default
  maxLength := declared.maxLength

/-- The table without the marks of the defaults. -/
def TableDeclaration.spec (declaration : TableDeclaration) : TableSpec :=
  ⟨declaration.name, declaration.columns.map ColumnDeclaration.spec⟩

/-- The column with a mark for its default. -/
def Column.described (column : Column) : DescribedColumn where
  name := column.name
  type := column.type
  marks := ⟨column.isNullable, column.isPrimaryKey, column.hasDefault, column.isAutoIncrement⟩
  default := column.default
  maxLength := column.maxLength
  index := column.index

/-- The description with what can be read off the columns of a schema. -/
def TableSchema.described (schema : TableSchema) : TableDescription :=
  ⟨schema.database, schema.name, schema.columns.map Column.described,
    schema.primaryKey.map (·.index)⟩

end Tabula
