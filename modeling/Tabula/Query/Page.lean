import Tabula.Query.Request

/-!
# Pages

A page is a window on the rows of an answer. Its offset is the product of two words; where that
does not fit a signed word, the greatest offset stands for it, which no answer reaches.
-/

namespace Tabula

/-- Failures of planning a query. -/
inductive QueryError where
  | schema (error : SchemaError)
  | filter (error : FilterError)
  | pageNumber (number : Int64)
  | pageSize (size : Int64)
  | noFields
  | unknownField (field : String)
  | unknownSortField (field : String)
  /-- The left side of a join is in a table that is not in the query. -/
  | joinOutsideQuery (path : String)
  /-- A join brings in a table that is in the query. -/
  | tableRepeated (table : String)
  | joinTypes (left : String) (leftType : ScalarType) (right : String) (rightType : ScalarType)
deriving DecidableEq

/-- The report of a failure. -/
def QueryError.report : QueryError → Report
  | .schema error => error.report
  | .filter error => error.report
  | .pageNumber number =>
    ⟨.validation, s!"page number must be at least 1, got {number.toInt}", none⟩
  | .pageSize size =>
    ⟨.validation, s!"page size must be between 1 and 100, got {size.toInt}", none⟩
  | .noFields => ⟨.validation, "fields must not be empty", none⟩
  | .unknownField field => ⟨.schema, s!"invalid field in fields, {field}", some field⟩
  | .unknownSortField field => ⟨.schema, s!"invalid field for sort, {field}", some field⟩
  | .joinOutsideQuery path =>
    ⟨.validation,
      s!"join reference {path} does not belong to a table already in the query", some path⟩
  | .tableRepeated table => ⟨.validation, s!"table {table} is already part of the query", none⟩
  | .joinTypes left leftType right rightType =>
    ⟨.validation,
      s!"cannot join {left} ({leftType.name}) with {right} ({rightType.name})", some right⟩

/-- A window on the rows of an answer: how many are skipped, and how many are taken at most. -/
structure PageWindow where
  offset : Nat
  limit : Nat
deriving DecidableEq, Repr

namespace PageWindow

/-- The greatest size of a page. -/
def maxSize : Int := 100

/-- The offset of pages that begin beyond the signed words. -/
def maxOffset : Nat := 18446744073709551615

/-- The window of a page, counted from one. -/
def ofPage (number size : Int64) : Except QueryError PageWindow :=
  if number.toInt < 1 then .error (.pageNumber number)
  else if size.toInt < 1 ∨ maxSize < size.toInt then .error (.pageSize size)
  else
    let offset := (number.toInt - 1) * size.toInt
    .ok ⟨if offset ≤ 9223372036854775807 then offset.toNat else maxOffset, size.toInt.toNat⟩

/-- The rows in the window. -/
def cut {A : Type} (window : PageWindow) (rows : List A) : List A :=
  (rows.drop window.offset).take window.limit

end PageWindow

end Tabula
