import Tabula.Query.Request

/-!
# Requests as JSON

The JSON forms of the requests and of their parts. Requests know all their fields and refuse
others; writing a request shows all of its fields in their declared order.
-/

namespace Tabula

namespace FilterItem

/-- Reads a condition. -/
def decode : Decoder FilterItem :=
  .record .json "FilterItem" true
    (FilterItem.mk
      <$> .required "operator"
        (.enumeration .json (FilterOperator.all.map FilterOperator.name) FilterOperator.ofName?)
      <*> .required "field" .text
      <*> .required "values" (.list Value.decode)
      <*> .defaulted "joinToNext"
        (.enumeration .json (Junction.all.map Junction.name) Junction.ofName?) .and)

/-- The JSON form of a condition. -/
def toJson (item : FilterItem) : Json :=
  .record [
    ("operator", .text item.operator.name),
    ("field", .text item.field),
    ("values", .list (item.values.map Value.toJson)),
    ("joinToNext", .text item.joinToNext.name)]

end FilterItem

namespace JoinRequest

/-- Reads a join. -/
def decode : Decoder JoinRequest :=
  .record .json "JoinSpec" true
    (JoinRequest.mk <$> .required "leftRef" .text <*> .required "rightRef" .text)

/-- The JSON form of a join. -/
def toJson (join : JoinRequest) : Json :=
  .record [("leftRef", .text join.left), ("rightRef", .text join.right)]

end JoinRequest

namespace SortRequest

/-- Reads a sort. -/
def decode : Decoder SortRequest :=
  .record .json "SortSpec" true
    (SortRequest.mk
      <$> .required "field" .text
      <*> .defaulted "direction"
        (.enumeration .json (SortDirection.all.map SortDirection.name) SortDirection.ofName?)
        .ascending)

/-- The JSON form of a sort. -/
def toJson (sort : SortRequest) : Json :=
  .record [("field", .text sort.field), ("direction", .text sort.direction.name)]

end SortRequest

namespace FetchRequest

/-- Reads a fetch request. Without further fields it is the first page of ten rows. -/
def decode : Decoder FetchRequest :=
  .record .json "FetchSpec" true
    (FetchRequest.mk
      <$> .required "dbName" .text
      <*> .required "tableName" .text
      <*> .required "fields" (.list .text)
      <*> .defaulted "filters" (.list FilterItem.decode) []
      <*> .defaulted "joins" (.list JoinRequest.decode) []
      <*> .defaulted "pageNumber" .int64 1
      <*> .defaulted "pageSize" .int64 10
      <*> .defaulted "sort" (.optional SortRequest.decode) none
      <*> .defaulted "distinct" .bool false)

/-- The JSON form of a fetch request. -/
def toJson (request : FetchRequest) : Json :=
  .record [
    ("dbName", .text request.database),
    ("tableName", .text request.table),
    ("fields", .list (request.fields.map .text)),
    ("filters", .list (request.filters.map FilterItem.toJson)),
    ("joins", .list (request.joins.map JoinRequest.toJson)),
    ("pageNumber", .ofInt64 request.pageNumber),
    ("pageSize", .ofInt64 request.pageSize),
    ("sort", (request.sort.map SortRequest.toJson).getD .null),
    ("distinct", .bool request.distinct)]

end FetchRequest

namespace DeleteRequest

/-- Reads a delete request. -/
def decode : Decoder DeleteRequest :=
  .record .json "DeleteSpec" true
    (DeleteRequest.mk
      <$> .required "dbName" .text
      <*> .required "tableName" .text
      <*> .defaulted "filters" (.list FilterItem.decode) [])

/-- The JSON form of a delete request. -/
def toJson (request : DeleteRequest) : Json :=
  .record [
    ("dbName", .text request.database),
    ("tableName", .text request.table),
    ("filters", .list (request.filters.map FilterItem.toJson))]

end DeleteRequest

/-- Reads a record to write, in which every name stands once. -/
def WriteItem.decode : Decoder WriteItem := fun json => do
  let fields ← Decoder.freeRecord json
  return Json.lastOfEach (Json.mergeFields fields)

namespace WriteRequest

/-- Reads a write request. -/
def decode : Decoder WriteRequest :=
  .record .json "WriteSpec" true
    (WriteRequest.mk
      <$> .required "dbName" .text
      <*> .required "tableName" .text
      <*> .defaulted "recId" (.optional Value.decode) none
      <*> .required "items" (.list WriteItem.decode))

/-- The JSON form of a write request. -/
def toJson (request : WriteRequest) : Json :=
  .record [
    ("dbName", .text request.database),
    ("tableName", .text request.table),
    ("recId", (request.recordId.map Value.toJson).getD .null),
    ("items", .list (request.items.map .record))]

end WriteRequest

end Tabula
