import Tabula.Proofs.Filter.Compile
import Tabula.Proofs.Schema.Lookup
import Tabula.Store.Select

/-!
# Well-formed plans

Planning binds every name of a request to a column of a table of the query, or it fails. In an
accepted plan all tables differ, a join compares a column of an earlier table with one of its own of
the same type, and filter and sort stay with the first table. Every reference to a column has the
position, the name and the type that the column has in its table.
-/

namespace Tabula

/-- A reference to a column of the table: at the position that it gives, the table has a column of
the name and the type that it gives. -/
def ColumnRef.RefersTo (ref : ColumnRef) (schema : TableSchema) : Prop :=
  ∃ column, schema.columns[ref.index]? = some column ∧ ref = .of schema column

/-- A column of a lawful table is what its reference refers to. -/
theorem ColumnRef.refersTo_of {schema : TableSchema} (hlawful : schema.Lawful) {column : Column}
    (hcolumn : column ∈ schema.columns) : (ColumnRef.of schema column).RefersTo schema :=
  ⟨column, hlawful.getElem?_index hcolumn, rfl⟩

/-- A column that is found in a lawful table is what its reference refers to. -/
theorem ColumnRef.refersTo_of_column? {schema : TableSchema} (hlawful : schema.Lawful)
    {name : String} {column : Column} (hcolumn : schema.column? name = some column) :
    (ColumnRef.of schema column).RefersTo schema ∧ column.name = name := by
  have hname := List.find?_some hcolumn
  exact ⟨refersTo_of hlawful (List.mem_of_find?_eq_some hcolumn), eq_of_beq hname⟩

/-! ### Filters -/

/-- The columns that a predicate reads. -/
def Predicate.columns : Predicate → List ColumnRef
  | compare column _ _ | oneOf column _ | like column _ _ => [column]
  | and left right | or left right => left.columns ++ right.columns

/-- A predicate reads nothing but its columns. -/
theorem Predicate.eval_congr {predicate : Predicate} {row other : RowView}
    (h : ∀ column ∈ predicate.columns, row column = other column) :
    predicate.eval row = predicate.eval other := by
  induction predicate with
  | compare column comparison value => simp only [eval, onValue, h column List.mem_cons_self]
  | oneOf column values => simp only [eval, onValue, h column List.mem_cons_self]
  | like column pattern ignoreCase => simp only [eval, onValue, h column List.mem_cons_self]
  | and left right ihLeft ihRight | or left right ihLeft ihRight =>
    obtain ⟨hleft, hright⟩ := List.forall_mem_append.mp h
    rw [eval, eval, ihLeft hleft, ihRight hright]

namespace FilterItem

variable {schema : TableSchema} {item : FilterItem} {items : List FilterItem}
  {predicate compiled : Predicate}

/-- Joined predicates read the columns of both. -/
theorem columns_join (junction : Junction) (left right : Predicate) :
    (junction.join left right).columns = left.columns ++ right.columns := by
  cases junction <;> rfl

/-- A compiled condition reads a column of its table only. -/
theorem refersTo_of_compile (hlawful : schema.Lawful) (h : item.compile schema = .ok predicate) :
    ∀ column ∈ predicate.columns, column.RefersTo schema := by
  rcases compile_cases schema item with
    ⟨_, -, hcompile⟩ | ⟨column, value, rest, hcolumn, -, -, hcompile⟩ <;>
    rw [h] at hcompile <;> cases hcompile
  have hcolumns : (predicateOf (.of schema column) item.operator value rest).columns =
      [.of schema column] := by
    cases item.operator <;> rfl
  rw [hcolumns]
  exact List.forall_mem_singleton.mpr (ColumnRef.refersTo_of_column? hlawful hcolumn).1

/-- Further conditions read columns of their table only. -/
theorem refersTo_of_compileAfter (hlawful : schema.Lawful) {junction : Junction}
    (hpredicate : ∀ column ∈ predicate.columns, column.RefersTo schema)
    (h : compileAfter schema predicate junction items = .ok compiled) :
    ∀ column ∈ compiled.columns, column.RefersTo schema := by
  induction items generalizing predicate junction with
  | nil =>
    cases h
    exact hpredicate
  | cons item rest ih =>
    obtain ⟨condition, hcondition, h⟩ := bind_eq_ok_iff.mp h
    refine ih ?_ h
    rw [columns_join]
    exact List.forall_mem_append.mpr ⟨hpredicate, refersTo_of_compile hlawful hcondition⟩

/-- Compiled conditions read columns of their table only. -/
theorem refersTo_of_compileAll (hlawful : schema.Lawful)
    (h : compileAll schema items = .ok (some predicate)) :
    ∀ column ∈ predicate.columns, column.RefersTo schema := by
  cases items with
  | nil => cases h
  | cons item rest =>
    obtain ⟨condition, hcondition, h⟩ := bind_eq_ok_iff.mp h
    cases hafter : compileAfter schema condition item.joinToNext rest with
    | error error => simp [hafter, Functor.map, Except.map] at h
    | ok compiled =>
      simp only [hafter, Functor.map, Except.map, Except.ok.injEq, Option.some.injEq] at h
      subst h
      exact refersTo_of_compileAfter hlawful (refersTo_of_compile hlawful hcondition) hafter

end FilterItem

/-! ### Joins -/

/-- A column belongs to a table that bears the names of its reference. -/
theorem ColumnRef.belongsTo_iff {ref : ColumnRef} {schema : TableSchema} :
    ref.belongsTo schema = true ↔ SelectPlan.nameOf schema = (ref.database, ref.table) := by
  simp [belongsTo, TableSchema.isOf, SelectPlan.nameOf]

/-- A reference to a column of a table belongs to the table. -/
theorem ColumnRef.RefersTo.belongsTo {ref : ColumnRef} {schema : TableSchema}
    (h : ref.RefersTo schema) : ref.belongsTo schema = true := by
  obtain ⟨column, -, rfl⟩ := h
  exact belongsTo_iff.mpr rfl

/-- Of the tables of a registry, a column belongs only to the one to which its reference refers. -/
theorem ColumnRef.RefersTo.eq_of_belongsTo {ref : ColumnRef} {schema other : TableSchema}
    (h : ref.RefersTo schema) {registry : Registry} (hschema : registry.Has schema)
    (hother : registry.Has other) (hbelongs : ref.belongsTo other = true) : other = schema := by
  have hnames := (belongsTo_iff.mp hbelongs).trans (belongsTo_iff.mp h.belongsTo).symm
  rw [SelectPlan.nameOf, SelectPlan.nameOf, Prod.mk.injEq] at hnames
  exact hother.eq hschema hnames.1 hnames.2

/-- A join brings in a new table, by the equality of one of its columns with a column of one of the
given tables. -/
structure JoinPlan.Extends (tables : List TableSchema) (join : JoinPlan) : Prop where
  left : ∃ schema ∈ tables, join.left.belongsTo schema = true
  right : join.right.belongsTo join.table = true
  types : join.left.type = join.right.type
  new : SelectPlan.nameOf join.table ∉ tables.map SelectPlan.nameOf

/-- Each of the joins extends the given tables together with those of the joins before it. -/
def JoinPlan.Chain : List TableSchema → List JoinPlan → Prop
  | _, [] => True
  | tables, join :: rest => join.Extends tables ∧ Chain (tables ++ [join.table]) rest

namespace JoinPlan.Chain

variable {tables : List TableSchema} {joins : List JoinPlan}

/-- A join extends the tables before it. -/
theorem extends_take (h : Chain tables joins) {k : Nat} {join : JoinPlan}
    (hjoin : joins[k]? = some join) :
    join.Extends (tables ++ (joins.take k).map (·.table)) := by
  induction joins generalizing tables k with
  | nil => simp at hjoin
  | cons first rest ih =>
    cases k with
    | zero =>
      cases hjoin
      simpa using h.1
    | succ k => simpa using ih h.2 hjoin

/-- The first joins of a chain are a chain. -/
theorem take (h : Chain tables joins) (k : Nat) : Chain tables (joins.take k) := by
  induction joins generalizing tables k with
  | nil => simpa using h
  | cons first rest ih =>
    cases k with
    | zero => trivial
    | succ k => exact ⟨h.1, ih h.2 k⟩

/-- Tables that differ still differ with one more that is new. -/
theorem nodup_append_table (htables : (tables.map SelectPlan.nameOf).Nodup) {join : JoinPlan}
    (h : join.Extends tables) : ((tables ++ [join.table]).map SelectPlan.nameOf).Nodup := by
  rw [List.map_append]
  exact List.nodup_append.mpr ⟨htables, List.nodup_singleton _, fun name hname other hother =>
    fun heq => h.new (by rwa [← List.mem_singleton.mp hother, ← heq])⟩

/-- Tables that differ still differ when those of the joins have come in. -/
theorem nodup (h : Chain tables joins) (htables : (tables.map SelectPlan.nameOf).Nodup) :
    ((tables ++ joins.map (·.table)).map SelectPlan.nameOf).Nodup := by
  induction joins generalizing tables with
  | nil => simpa using htables
  | cons join rest ih =>
    have hrest := ih h.2 (nodup_append_table htables h.1)
    rwa [List.append_assoc] at hrest

end JoinPlan.Chain

namespace SelectPlan

variable {registry : Registry} {tables : List TableSchema}

/-- Whether a table is among others is a matter of names. -/
theorem hasTable_iff {schema : TableSchema} :
    hasTable tables schema = true ↔ nameOf schema ∈ tables.map nameOf := by
  simp [hasTable, TableSchema.isOf, nameOf]

/-- A join that is bound compares the two fields, and extends the tables of the query. -/
theorem bindJoin_eq_ok {join : JoinRequest} {left right : ResolvedField} {bound : JoinPlan}
    (h : bindJoin tables join left right = .ok bound) :
    bound = ⟨right.table, .of left.table left.column, .of right.table right.column⟩ ∧
      bound.Extends tables := by
  unfold bindJoin at h
  split at h
  · cases h
  · rename_i hinside
    split at h
    · cases h
    · rename_i hnew
      split at h
      · cases h
      · rename_i htypes
        cases h
        have hmem : nameOf left.table ∈ tables.map nameOf :=
          hasTable_iff.mp (by simpa using hinside)
        obtain ⟨schema, hschema, hname⟩ := List.mem_map.mp hmem
        exact ⟨rfl, ⟨schema, hschema, ColumnRef.belongsTo_iff.mpr hname⟩,
          ColumnRef.belongsTo_iff.mpr rfl, not_not.mp htypes,
          fun hold => hnew (hasTable_iff.mpr hold)⟩

/-- Joins are bound if both fields of the first are found, it is bound, and the rest is. -/
theorem bindJoins_cons_eq_ok {memo : TableMemo} {join : JoinRequest} {rest : List JoinRequest}
    {bound : List JoinPlan} (h : bindJoins registry memo tables (join :: rest) = .ok bound) :
    ∃ left right first others,
      (memo.resolveField registry join.left).1 = .ok left ∧
      ((memo.resolveField registry join.left).2.resolveField registry join.right).1 = .ok right ∧
      bindJoin tables join left right = .ok first ∧
      bindJoins registry
        ((memo.resolveField registry join.left).2.resolveField registry join.right).2
        (tables ++ [first.table]) rest = .ok others ∧
      bound = first :: others := by
  simp only [bindJoins] at h
  obtain ⟨left, hleft, h⟩ := bind_eq_ok_iff.mp h
  obtain ⟨right, hright, h⟩ := bind_eq_ok_iff.mp h
  obtain ⟨first, hfirst, h⟩ := bind_eq_ok_iff.mp h
  obtain ⟨others, hothers, h⟩ := bind_eq_ok_iff.mp h
  cases h
  exact ⟨left, right, first, others, mapError_eq_ok_iff.mp hleft, mapError_eq_ok_iff.mp hright,
    hfirst, hothers, rfl⟩

/-- Joins that are bound extend the tables of the query one after the other. -/
theorem chain_of_bindJoins {memo : TableMemo} {joins : List JoinRequest} {bound : List JoinPlan}
    (h : bindJoins registry memo tables joins = .ok bound) : JoinPlan.Chain tables bound := by
  induction joins generalizing memo tables bound with
  | nil =>
    cases h
    trivial
  | cons join rest ih =>
    obtain ⟨left, right, first, others, -, -, hfirst, hothers, rfl⟩ := bindJoins_cons_eq_ok h
    exact ⟨(bindJoin_eq_ok hfirst).2, ih hothers⟩

/-- Joins that are bound compare columns of tables of the registry. -/
theorem refersTo_of_bindJoins (hregistry : registry.Lawful) {memo : TableMemo}
    (hmemo : memo.Agrees registry) {joins : List JoinRequest} {bound : List JoinPlan}
    (h : bindJoins registry memo tables joins = .ok bound) :
    ∀ join ∈ bound, registry.Has join.table ∧ join.right.RefersTo join.table ∧
      ∃ schema, registry.Has schema ∧ join.left.RefersTo schema := by
  induction joins generalizing memo tables bound with
  | nil =>
    cases h
    simp
  | cons join rest ih =>
    obtain ⟨hleftField, hmemo⟩ := hmemo.resolveField join.left
    obtain ⟨hrightField, hmemo⟩ := hmemo.resolveField join.right
    obtain ⟨left, right, first, others, hleft, hright, hfirst, hothers, rfl⟩ :=
      bindJoins_cons_eq_ok h
    obtain ⟨hhasLeft, hlawfulLeft, hcolumnLeft⟩ :=
      hregistry.of_resolveField (hleftField.symm.trans hleft)
    obtain ⟨hhasRight, hlawfulRight, hcolumnRight⟩ :=
      hregistry.of_resolveField (hrightField.symm.trans hright)
    refine List.forall_mem_cons.mpr ⟨?_, ih hmemo hothers⟩
    rw [(bindJoin_eq_ok hfirst).1]
    exact ⟨hhasRight, ColumnRef.refersTo_of hlawfulRight hcolumnRight, left.table, hhasLeft,
      ColumnRef.refersTo_of hlawfulLeft hcolumnLeft⟩

/-! ### Fields -/

/-- A requested field names a column: by its name alone a column of the first table, by a path a
column of any table of the query that bears the names of the path. -/
def FieldNames (first : TableSchema) (tables : List TableSchema) (field : String)
    (column : ColumnRef) : Prop :=
  (∃ schema ∈ tables, column.RefersTo schema) ∧
    (('.' ∉ field.toList ∧ column.RefersTo first ∧ column.name = field) ∨
      ∃ path, '.' ∈ field.toList ∧ FieldPath.ofText field = .ok path ∧
        column.table = path.table ∧ column.name = path.column ∧
        ∀ database, path.database = some database → column.database = database)

/-- A field is bound to a column of the table by its name. -/
theorem columnFor_eq_ok {schema : TableSchema} (hlawful : schema.Lawful) {field name : String}
    {column : ColumnRef} (h : columnFor schema field name = .ok column) :
    column.RefersTo schema ∧ column.name = name ∧
      (column.database, column.table) = nameOf schema := by
  unfold columnFor at h
  split at h
  · rename_i own hown
    cases h
    obtain ⟨hrefers, hname⟩ := ColumnRef.refersTo_of_column? hlawful hown
    exact ⟨hrefers, hname, rfl⟩
  · cases h

/-- A field that is bound names its column. -/
theorem fieldNames_of_bindField {first : TableSchema} (hfirst : first ∈ tables)
    (hlawful : ∀ schema ∈ tables, schema.Lawful) {field : String} {column : ColumnRef}
    (h : bindField first tables field = .ok column) : FieldNames first tables field column := by
  unfold bindField at h
  split at h
  · rename_i hplain
    obtain ⟨hrefers, hname, -⟩ := columnFor_eq_ok (hlawful first hfirst) h
    exact ⟨⟨first, hfirst, hrefers⟩, Or.inl ⟨hplain, hrefers, hname⟩⟩
  · rename_i hdot
    obtain ⟨path, hpath, h⟩ := bind_eq_ok_iff.mp h
    simp only at h
    split at h
    · rename_i schema hfind
      have hschema := List.mem_of_find?_eq_some hfind
      have hfits := List.find?_some hfind
      obtain ⟨hrefers, hname, hnames⟩ := columnFor_eq_ok (hlawful schema hschema) h
      rw [nameOf, Prod.mk.injEq] at hnames
      simp only [Bool.and_eq_true, beq_iff_eq, Option.all_eq_true] at hfits
      refine ⟨⟨schema, hschema, hrefers⟩, Or.inr ⟨path, not_not.mp hdot,
        mapError_eq_ok_iff.mp hpath, hnames.2.trans hfits.1, hname, fun database hdatabase => ?_⟩⟩
      rw [hnames.1, ← hfits.2 database hdatabase]
    · cases h

/-- A requested sort names a column of the first table, and gives the direction. -/
def SortNames (first : TableSchema) (sort : SortRequest) (order : OrderBy) : Prop :=
  order.column.RefersTo first ∧ order.column.name = sort.field ∧
    order.descending = (sort.direction == .descending)

/-- A sort that is bound names its column. -/
theorem sortNames_of_bindSort {first : TableSchema} (hlawful : first.Lawful) {sort : SortRequest}
    {order : OrderBy} (h : bindSort first sort = .ok order) : SortNames first sort order := by
  unfold bindSort at h
  split at h
  · rename_i column hcolumn
    cases h
    obtain ⟨hrefers, hname⟩ := ColumnRef.refersTo_of_column? hlawful hcolumn
    exact ⟨hrefers, hname, rfl⟩
  · cases h

/-- A plan has a sort if the request has one, and the sort names its column. -/
theorem sortNames_of_mapM_bindSort {first : TableSchema} (hlawful : first.Lawful)
    {sort : Option SortRequest} {order : Option OrderBy}
    (h : sort.mapM (bindSort first) = .ok order) : Option.Rel (SortNames first) sort order := by
  cases sort with
  | none =>
    cases h
    exact Option.Rel.none
  | some sort =>
    cases hbind : bindSort first sort with
    | error error => simp [hbind, Functor.map, Except.map] at h
    | ok bound =>
      simp only [Option.mapM_some, hbind, Functor.map, Except.map, Except.ok.injEq] at h
      exact h ▸ Option.Rel.some (sortNames_of_bindSort hlawful hbind)

/-! ### Accepted plans -/

/-- An accepted request has its table looked up, its conditions compiled, and its joins, fields and
sort bound. -/
theorem ofRequest_eq_ok {request : FetchRequest} {plan : SelectPlan}
    (h : ofRequest registry request = .ok plan) :
    registry.resolve request.database request.table = .ok plan.table ∧
      FilterItem.compileAll plan.table request.filters = .ok plan.filter ∧
      (∃ memo : TableMemo, memo.Agrees registry ∧
        bindJoins registry memo [plan.table] request.joins = .ok plan.joins) ∧
      List.Forall₂ (fun field column => bindField plan.table plan.tables field = .ok column)
        request.fields plan.projection ∧
      request.sort.mapM (bindSort plan.table) = .ok plan.order := by
  obtain ⟨hresolve, hmemo⟩ :=
    (TableMemo.agrees_empty registry).resolve request.database request.table
  obtain ⟨page, -, h⟩ := bind_eq_ok_iff.mp h
  cases hfields : request.fields.isEmpty with
  | true =>
    simp only [hfields, if_pos] at h
    cases h
  | false =>
    simp only [hfields, Bool.false_eq_true, if_false] at h
    rcases TableMemo.empty.resolve registry request.database request.table with ⟨found, memo⟩
    obtain ⟨table, htable, h⟩ := bind_eq_ok_iff.mp h
    obtain ⟨filter, hfilter, h⟩ := bind_eq_ok_iff.mp h
    obtain ⟨joins, hjoins, h⟩ := bind_eq_ok_iff.mp h
    obtain ⟨projection, hprojection, h⟩ := bind_eq_ok_iff.mp h
    obtain ⟨order, horder, h⟩ := bind_eq_ok_iff.mp h
    cases h
    rw [mapError_eq_ok_iff, hresolve] at htable
    exact ⟨htable, mapError_eq_ok_iff.mp hfilter, ⟨_, hmemo, hjoins⟩,
      mapM_eq_ok_iff.mp hprojection, horder⟩

/-- What holds of every plan of a request. -/
structure WellFormed (registry : Registry) (request : FetchRequest) (plan : SelectPlan) :
    Prop where
  /-- The first table is the one that is asked for. -/
  first : registry.resolve request.database request.table = .ok plan.table
  /-- All tables are as the registry has them under their own names. -/
  known : ∀ schema ∈ plan.tables, registry.Has schema
  /-- No two tables have the same names. -/
  tables : (plan.tables.map nameOf).Nodup
  /-- A join compares a column of an earlier table with one of its own, of the same type. -/
  joins : ∀ (k : Nat) (join : JoinPlan), plan.joins[k]? = some join →
    (∃ schema ∈ plan.tables.take (k + 1), join.left.RefersTo schema) ∧
      join.right.RefersTo join.table ∧ join.left.type = join.right.type
  /-- The filter reads the first table only. -/
  filter : ∀ predicate ∈ plan.filter, ∀ column ∈ predicate.columns, column.RefersTo plan.table
  /-- There is a sort by a column of the first table if one is requested. -/
  order : Option.Rel (SortNames plan.table) request.sort plan.order
  /-- There is a column for each of the requested fields, in their order. -/
  projection : List.Forall₂ (FieldNames plan.table plan.tables) request.fields plan.projection

/-- The joins of an accepted plan extend its first table one after the other. -/
theorem chain_of_ofRequest {request : FetchRequest} {plan : SelectPlan}
    (h : ofRequest registry request = .ok plan) : JoinPlan.Chain [plan.table] plan.joins := by
  obtain ⟨-, -, ⟨_, -, hjoins⟩, -⟩ := ofRequest_eq_ok h
  exact chain_of_bindJoins hjoins

/-- The tables of an accepted plan differ. -/
theorem nodup_of_ofRequest {request : FetchRequest} {plan : SelectPlan}
    (h : ofRequest registry request = .ok plan) : (plan.tables.map nameOf).Nodup :=
  (chain_of_ofRequest h).nodup (List.nodup_singleton _)

/-- A plan that is accepted for a lawful registry is well formed. -/
theorem wellFormed_of_ofRequest (hregistry : registry.Lawful) {request : FetchRequest}
    {plan : SelectPlan} (h : ofRequest registry request = .ok plan) :
    plan.WellFormed registry request := by
  obtain ⟨hfirst, hfilter, ⟨memo, hmemo, hjoins⟩, hprojection, horder⟩ := ofRequest_eq_ok h
  have hbound := refersTo_of_bindJoins hregistry hmemo hjoins
  have hknown : ∀ schema ∈ plan.tables, registry.Has schema := by
    refine List.forall_mem_cons.mpr ⟨hregistry.has_of_resolve hfirst, ?_⟩
    exact List.forall_mem_map.mpr fun join hjoin => (hbound join hjoin).1
  have hlawful : ∀ schema ∈ plan.tables, schema.Lawful := fun schema hschema =>
    (hregistry.of_resolve (hknown schema hschema)).1
  have htable : plan.table.Lawful := hlawful plan.table List.mem_cons_self
  refine ⟨hfirst, hknown, nodup_of_ofRequest h, fun k join hjoin => ?_, fun predicate hpredicate =>
    ?_, sortNames_of_mapM_bindSort htable horder, hprojection.imp fun field column hbind => ?_⟩
  · obtain ⟨hhas, hright, schema, hschema, hleft⟩ := hbound join (List.mem_of_getElem? hjoin)
    have hextends := (chain_of_ofRequest h).extends_take hjoin
    obtain ⟨other, hother, hbelongs⟩ := hextends.left
    have hmem : other ∈ plan.tables.take (k + 1) := by
      simpa [SelectPlan.tables, List.map_take] using hother
    have hsame : other = schema :=
      hleft.eq_of_belongsTo hschema (hknown other (List.mem_of_mem_take hmem)) hbelongs
    exact ⟨⟨schema, hsame ▸ hmem, hleft⟩, hright, hextends.types⟩
  · rw [Option.mem_def] at hpredicate
    rw [hpredicate] at hfilter
    exact FilterItem.refersTo_of_compileAll htable hfilter
  · exact fieldNames_of_bindField List.mem_cons_self hlawful hbind

end SelectPlan

end Tabula
