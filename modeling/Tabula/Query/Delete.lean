import Tabula.Query.Select

/-!
# Delete plans

A delete request becomes a plan that first reads the keys of the matching rows. Only tables with
a primary key admit it.
-/

namespace Tabula

/-- The rows to delete, and the query for their keys. -/
structure DeletePlan where
  table : TableSchema
  key : List ColumnRef
  filter : Option Predicate
  keyProbe : SelectPlan
deriving DecidableEq

/-- Plans a delete request. -/
def DeletePlan.ofRequest (registry : Registry) (request : DeleteRequest) :
    Except QueryError DeletePlan := do
  let table ← (registry.resolve request.database request.table).mapError QueryError.schema
  if table.primaryKey.isEmpty then throw (.schema (.noPrimaryKey table.qualifiedName))
  let filter ← (FilterItem.compileAll table request.filters).mapError QueryError.filter
  let key := table.primaryKey.map (ColumnRef.of table)
  return ⟨table, key, filter, .scan table key filter⟩

end Tabula
