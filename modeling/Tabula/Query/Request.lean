import Tabula.Filter.Item

/-!
# Requests

What callers ask for: rows to fetch, rows to delete, and records to write. The page of a fetch
request is counted from one.
-/

namespace Tabula

/-- A join of one more table, on the equality of two fields given by their paths. -/
structure JoinRequest where
  left : String
  right : String
deriving DecidableEq, Repr

/-- The direction of a sort. -/
inductive SortDirection where
  | ascending
  | descending
deriving DecidableEq, Repr

namespace SortDirection

/-- All directions. -/
def all : List SortDirection := [ascending, descending]

/-- The name of a direction in requests. -/
def name : SortDirection → String
  | ascending => "asc"
  | descending => "desc"

/-- The direction with the given name. -/
def ofName? (name : String) : Option SortDirection := all.find? (·.name == name)

end SortDirection

/-- The sort of the rows by one field. -/
structure SortRequest where
  field : String
  direction : SortDirection
deriving DecidableEq, Repr

/-- A request for rows. -/
structure FetchRequest where
  database : String
  table : String
  fields : List String
  filters : List FilterItem
  joins : List JoinRequest
  pageNumber : Int64
  pageSize : Int64
  sort : Option SortRequest
  distinct : Bool
deriving DecidableEq

/-- A request to delete rows. -/
structure DeleteRequest where
  database : String
  table : String
  filters : List FilterItem
deriving DecidableEq

/-- The fields of a record to write, by name. -/
abbrev WriteItem := List (String × Json)

/-- A request to write records: to insert them all, or to update the one row with the given
key. -/
structure WriteRequest where
  database : String
  table : String
  recordId : Option Value
  items : List WriteItem

namespace FetchRequest

/-- The first page of the given fields of all rows, ten rows long. -/
def all (database table : String) (fields : List String) : FetchRequest where
  database := database
  table := table
  fields := fields
  filters := []
  joins := []
  pageNumber := 1
  pageSize := 10
  sort := none
  distinct := false

/-- The request with one more condition. -/
def filtered (request : FetchRequest) (item : FilterItem) : FetchRequest :=
  { request with filters := request.filters ++ [item] }

/-- The request with one more join. -/
def joined (request : FetchRequest) (left right : String) : FetchRequest :=
  { request with joins := request.joins ++ [⟨left, right⟩] }

/-- The request with the rows sorted by a field. -/
def sortedBy (request : FetchRequest) (field : String) (direction : SortDirection) :
    FetchRequest :=
  { request with sort := some ⟨field, direction⟩ }

/-- The request for another page. -/
def onPage (request : FetchRequest) (number size : Int64) : FetchRequest :=
  { request with pageNumber := number, pageSize := size }

/-- The request for rows that differ from each other. -/
def unrepeated (request : FetchRequest) : FetchRequest := { request with distinct := true }

end FetchRequest

namespace WriteRequest

/-- The request to insert records. -/
def insert (database table : String) (items : List WriteItem) : WriteRequest :=
  ⟨database, table, none, items⟩

/-- The request to update the row with the given key. -/
def update (database table : String) (recordId : Value) (item : WriteItem) : WriteRequest :=
  ⟨database, table, some recordId, [item]⟩

end WriteRequest

end Tabula
