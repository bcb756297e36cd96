import Tabula.Proofs.Filter.Compile
import Tabula.Proofs.Strict.Basic
import Tabula.Query.Delete
import Tabula.Store.Select

/-!
# Positions in plans and queries

To compile a condition is to take the first of its values for an operator that wants just one. To
carry out a plan is to take, for each table, the rows and the part of the layout at its number. These
positions are in range for any request and any plan.
-/

namespace Tabula

namespace Strict

/-! ### Definitions -/

/-- The predicate of an operator on a column. Operators of a single value take the first, which must
be there. -/
def predicateOf (column : ColumnRef) (values : List Value) : FilterOperator → Option Predicate
  | .equal => (readAt values 0).map (.compare column .equal)
  | .unequal => (readAt values 0).map (.compare column .unequal)
  | .greater => (readAt values 0).map (.compare column .greater)
  | .less => (readAt values 0).map (.compare column .less)
  | .oneOf => some (.oneOf column values)
  | .like => (readAt values 0).map fun value => .like column value.plainText false
  | .likeAnyCase => (readAt values 0).map fun value => .like column value.plainText true

/-- Compiles one condition on a table. -/
def compile (schema : TableSchema) (item : FilterItem) : ExceptT FilterError Option Predicate :=
  match schema.column? item.field with
  | none => throw (.unknownField schema.qualifiedName item.field)
  | some column =>
    if item.values.isEmpty then throw (.noValues item.field)
    else if 1 < item.values.length && !item.operator.isMultiValued then
      throw (.severalValues item.field item.operator)
    else do
      let values ← liftExcept (FilterItem.castValues item.field column.type item.values)
      liftM (predicateOf (.of schema column) values item.operator)

/-- Joins further conditions to a predicate, the first of them by `junction`. -/
def compileAfter (schema : TableSchema) (predicate : Predicate) (junction : Junction) :
    List FilterItem → ExceptT FilterError Option Predicate
  | [] => return predicate
  | item :: rest => do
    let condition ← compile schema item
    compileAfter schema (junction.join predicate condition) item.joinToNext rest

/-- Compiles the conditions on a table, from left to right. -/
def compileAll (schema : TableSchema) :
    List FilterItem → ExceptT FilterError Option (Option Predicate)
  | [] => return none
  | item :: rest => do
    let predicate ← compile schema item
    return some (← compileAfter schema predicate item.joinToNext rest)

/-- Plans a fetch request. -/
def selectPlan (registry : Registry) (request : FetchRequest) :
    ExceptT QueryError Option SelectPlan := do
  let page ← liftExcept (PageWindow.ofPage request.pageNumber request.pageSize)
  if request.fields.isEmpty then throw .noFields
  let (table, memo) := TableMemo.empty.resolve registry request.database request.table
  let table ← liftExcept (table.mapError QueryError.schema)
  let filter ← (compileAll table request.filters).adapt QueryError.filter
  let joins ← liftExcept (SelectPlan.bindJoins registry memo [table] request.joins)
  let tables := table :: joins.map (·.table)
  let projection ← liftExcept (request.fields.mapM (SelectPlan.bindField table tables))
  let order ← liftExcept (request.sort.mapM (SelectPlan.bindSort table))
  return ⟨table, projection, filter, joins, order, some page, request.distinct⟩

/-- Plans a delete request. -/
def deletePlan (registry : Registry) (request : DeleteRequest) :
    ExceptT QueryError Option DeletePlan := do
  let table ← liftExcept
    ((registry.resolve request.database request.table).mapError QueryError.schema)
  if table.primaryKey.isEmpty then throw (.schema (.noPrimaryKey table.qualifiedName))
  let filter ← (compileAll table request.filters).adapt QueryError.filter
  let key := table.primaryKey.map (ColumnRef.of table)
  return ⟨table, key, filter, .scan table key filter⟩

/-- A row of a query: the names of the tables that have come in, and a row of each. -/
structure Tuple where
  names : List TableName
  rows : List Row

/-- The rows under the names of their tables. -/
def Tuple.joined (tuple : Tuple) : JoinedRow := tuple.names.zip tuple.rows

/-- Brings in the table of a number, given the names of all tables and the rows of each. -/
def joinTable (layout : List TableName) (snapshots : List (List Row)) (number : Nat)
    (join : JoinPlan) (tuples : List Tuple) : Option (List Tuple) := do
  let rows ← readAt snapshots number
  let names ← upTo layout (number + 1)
  return tuples.flatMap fun tuple =>
    (SelectPlan.partners join rows tuple.joined).map fun row => ⟨names, tuple.rows ++ [row]⟩

/-- Brings in tables from a number on. -/
def joinTables (layout : List TableName) (snapshots : List (List Row)) :
    Nat → List JoinPlan → List Tuple → Option (List Tuple)
  | _, [], tuples => some tuples
  | number, join :: rest, tuples => do
    joinTables layout snapshots (number + 1) rest
      (← joinTable layout snapshots number join tuples)

/-- Carries out a plan on the rows that the tables have now. -/
def run (plan : SelectPlan) (engine : Engine) : ExceptT StoreError Option (List Row) := do
  let snapshots ← liftExcept (plan.tables.mapM (SelectPlan.rowsNow engine))
  let layout := plan.tables.map SelectPlan.nameOf
  let rows ← liftM (readAt snapshots 0)
  let names ← liftM (upTo layout 1)
  let first := (rows.map fun row => Tuple.mk names [row]).filter fun tuple =>
    plan.filter.all (·.eval tuple.joined.value?)
  let tuples ← liftM (joinTables layout snapshots 1 plan.joins first)
  return plan.answer (tuples.map Tuple.joined)

/-! ### Plans -/

/-- The first value is there for every operator that takes it. -/
theorem predicateOf_cons (column : ColumnRef) (value : Value) (rest : List Value)
    (operator : FilterOperator) :
    predicateOf column (value :: rest) operator =
      some (FilterItem.predicateOf column operator value rest) := by
  cases operator <;> rfl

/-- A condition can be compiled. -/
theorem compile_eq (schema : TableSchema) (item : FilterItem) :
    compile schema item = inRange (item.compile schema) := by
  unfold compile FilterItem.compile
  cases schema.column? item.field with
  | none => rfl
  | some column =>
    simp only
    split
    · rfl
    · rename_i hvalues
      split
      · rfl
      · rw [liftExcept_eq]
        cases hcasts : FilterItem.castValues item.field column.type item.values with
        | error error => rfl
        | ok casts =>
          cases casts with
          | nil =>
            have hnil := FilterItem.castValues_eq_ok_iff.mp hcasts
            simp only [List.map_nil, List.map_eq_nil_iff] at hnil
            exact absurd (by rw [hnil]; rfl) hvalues
          | cons value rest =>
            rw [inRange_ok_bind, predicateOf_cons]
            rfl

/-- Further conditions can be compiled. -/
theorem compileAfter_eq (schema : TableSchema) (predicate : Predicate) (junction : Junction)
    (items : List FilterItem) :
    compileAfter schema predicate junction items =
      inRange (FilterItem.compileAfter schema predicate junction items) := by
  induction items generalizing predicate junction with
  | nil => rfl
  | cons item rest ih =>
    rw [compileAfter, compile_eq]
    exact inRange_bind fun condition => ih (junction.join predicate condition) item.joinToNext

/-- Conditions can be compiled. -/
theorem compileAll_eq (schema : TableSchema) (items : List FilterItem) :
    compileAll schema items = inRange (FilterItem.compileAll schema items) := by
  cases items with
  | nil => rfl
  | cons item rest =>
    rw [compileAll, compile_eq]
    refine inRange_bind fun predicate => ?_
    rw [compileAfter_eq]
    cases FilterItem.compileAfter schema predicate item.joinToNext rest <;> rfl

/-- A fetch request can be planned. -/
theorem selectPlan_eq (registry : Registry) (request : FetchRequest) :
    selectPlan registry request = inRange (SelectPlan.ofRequest registry request) := by
  simp only [selectPlan, liftExcept_eq, compileAll_eq, adapt_inRange]
  refine inRange_bind fun page => ?_
  split
  · rfl
  · refine inRange_bind fun table => inRange_bind fun filter => inRange_bind fun joins => ?_
    exact inRange_bind fun projection => inRange_bind fun order => rfl

/-- A delete request can be planned. -/
theorem deletePlan_eq (registry : Registry) (request : DeleteRequest) :
    deletePlan registry request = inRange (DeletePlan.ofRequest registry request) := by
  simp only [deletePlan, liftExcept_eq, compileAll_eq, adapt_inRange]
  refine inRange_bind fun table => ?_
  split
  · rfl
  · exact inRange_bind fun filter => rfl

/-! ### Queries -/

/-- The tables of joins can be brought in after others, which leads to the same rows. -/
theorem joinTables_eq {joins : List JoinPlan} {more earlier : List (List Row)}
    {names : List TableName} {tuples : List Tuple} (hmore : more.length = joins.length)
    (hearlier : earlier.length = names.length)
    (htuples : ∀ tuple ∈ tuples, tuple.names = names ∧ tuple.rows.length = names.length) :
    ∃ joined,
      joinTables (names ++ joins.map fun join => SelectPlan.nameOf join.table) (earlier ++ more)
        names.length joins tuples = some joined ∧
      joined.map Tuple.joined = SelectPlan.joinAll (tuples.map Tuple.joined) (joins.zip more) := by
  induction joins generalizing more earlier names tuples with
  | nil => exact ⟨tuples, rfl, rfl⟩
  | cons join rest ih =>
    obtain ⟨rows, more, rfl⟩ := List.exists_cons_of_length_eq_add_one hmore
    have hrows : readAt (earlier ++ rows :: more) names.length = some rows := by
      rw [readAt, ← hearlier, List.getElem?_append_right (Nat.le_refl _), Nat.sub_self,
        List.getElem?_cons_zero]
    have hnames := upTo_append (names ++ [SelectPlan.nameOf join.table])
      (rest.map fun join => SelectPlan.nameOf join.table)
    simp only [List.append_assoc, List.singleton_append, List.length_append,
      List.length_singleton] at hnames
    let next := tuples.flatMap fun tuple =>
      (SelectPlan.partners join rows tuple.joined).map fun row =>
        Tuple.mk (names ++ [SelectPlan.nameOf join.table]) (tuple.rows ++ [row])
    have hjoin : next.map Tuple.joined = SelectPlan.joinRows join rows (tuples.map Tuple.joined) := by
      rw [SelectPlan.joinRows, List.flatMap_map, List.map_flatMap]
      refine List.flatMap_congr fun tuple htuple => ?_
      obtain ⟨hown, hlength⟩ := htuples tuple htuple
      rw [List.map_map]
      refine List.map_congr_left fun row _ => ?_
      simp only [Function.comp_apply, Tuple.joined, hown]
      rw [List.zip_append hlength.symm]
      rfl
    have hnext : ∀ tuple ∈ next, tuple.names = names ++ [SelectPlan.nameOf join.table] ∧
        tuple.rows.length = (names ++ [SelectPlan.nameOf join.table]).length := by
      intro tuple htuple
      obtain ⟨before, hbefore, htuple⟩ := List.mem_flatMap.mp htuple
      obtain ⟨row, -, rfl⟩ := List.mem_map.mp htuple
      exact ⟨rfl, by simp [(htuples before hbefore).2]⟩
    obtain ⟨joined, hjoined, hall⟩ := @ih more (earlier ++ [rows])
      (names ++ [SelectPlan.nameOf join.table]) next (by simpa using hmore)
      (by simp [hearlier]) hnext
    simp only [List.append_assoc, List.singleton_append, List.length_append,
      List.length_singleton] at hjoined
    refine ⟨joined, ?_, ?_⟩
    · rw [List.map_cons, joinTables, joinTable, hrows, hnames]
      exact hjoined
    · rw [hall, hjoin]
      rfl

/-- A plan can be carried out. -/
theorem run_eq (plan : SelectPlan) (engine : Engine) :
    run plan engine = inRange (plan.run engine) := by
  have hsnapshots : plan.tables.mapM (SelectPlan.rowsNow engine) =
      SelectPlan.rowsNow engine plan.table >>= fun rows =>
        (plan.joins.mapM fun join => SelectPlan.rowsNow engine join.table) >>= fun more =>
          pure (rows :: more) := by
    rw [SelectPlan.tables, List.mapM_cons, List.mapM_map]
    rfl
  rw [run, SelectPlan.run, liftExcept_eq, hsnapshots]
  cases SelectPlan.rowsNow engine plan.table with
  | error error => rfl
  | ok rows =>
    cases hmore : plan.joins.mapM fun join => SelectPlan.rowsNow engine join.table with
    | error error => rfl
    | ok more =>
      have hlength : more.length = plan.joins.length := (mapM_eq_ok_iff.mp hmore).length_eq.symm
      let first := (rows.map fun row => Tuple.mk [SelectPlan.nameOf plan.table] [row]).filter
        fun tuple => plan.filter.all (·.eval tuple.joined.value?)
      have hfirst : first.map Tuple.joined = plan.firstRows rows := by
        simp only [first, SelectPlan.firstRows, List.filter_map, List.map_map]
        rfl
      obtain ⟨joined, hjoined, hall⟩ := @joinTables_eq plan.joins more [rows]
        [SelectPlan.nameOf plan.table] first hlength rfl (by simp [first])
      have hlayout : plan.tables.map SelectPlan.nameOf = [SelectPlan.nameOf plan.table] ++
          plan.joins.map fun join => SelectPlan.nameOf join.table := by
        rw [SelectPlan.tables, List.map_cons, List.map_map]
        rfl
      have hnames := upTo_append [SelectPlan.nameOf plan.table]
        (plan.joins.map fun join => SelectPlan.nameOf join.table)
      rw [← hlayout, List.length_singleton] at hjoined hnames
      rw [List.singleton_append] at hjoined
      have hzero : readAt (rows :: more) 0 = some rows := rfl
      change inRange (.ok (rows :: more)) >>= _ = _
      simp only [inRange_ok_bind, hzero, liftM_some_bind, hnames]
      rw [hjoined, liftM_some_bind, hall, hfirst]
      rfl

end Strict

end Tabula
