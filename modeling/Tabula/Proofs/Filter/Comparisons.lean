import Tabula.Proofs.Select.Lookups
import Tabula.Proofs.Table.Integrity
import Tabula.Proofs.Value.Sorting

/-!
# The algebra of comparisons

Values of different types do not compare, and would count as unequal. No condition gets to compare
such: a value that it is given is cast to the type of the column or refused, and a row that fits the
schema has null or a value of that type there. So a number, a text and so on in a row is less than,
equal to or greater than the value of a condition, and just one of these. Null is none of them, and
is not unequal either.
-/

namespace Tabula

/-- What is converted is not a number only if it was none before. -/
theorem Value.isNaN_of_cast? {value result : Value} {type : ScalarType}
    (h : value.cast? type = some result) (hvalue : value.isNaN = false) : result.isNaN = false := by
  unfold cast? at h
  split at h
  · obtain ⟨date, -, rfl⟩ := Option.map_eq_some_iff.mp h
    rfl
  · split at h
    · cases h
      exact hvalue
    · cases h

/-- A row that fits a schema has its value of a column at the position of the column. -/
theorem TableSchema.Fits.getElem?_index {schema : TableSchema} (hlawful : schema.Lawful)
    {row : Row} (h : schema.Fits row) {column : Column} (hcolumn : column ∈ schema.columns) :
    row[column.index]? = some (row.at column) := by
  have hlt : column.index < row.length := h.length ▸ hlawful.index_lt hcolumn
  rw [List.getElem?_eq_getElem hlt, Row.at, List.getD_eq_getElem row .null hlt]

/-- Three tests divide a list if each item passes just one of them. -/
theorem filter_append_filter_append_filter_perm {A : Type} {items : List A} {p q r : A → Bool}
    (hp : ∀ item ∈ items, r item = true → p item = false)
    (hq : ∀ item ∈ items, q item = (!r item && !p item)) :
    (items.filter p ++ items.filter q ++ items.filter r).Perm items := by
  have hfirst : (items.filter fun item => !r item).filter p = items.filter p := by
    rw [List.filter_filter]
    refine List.filter_congr fun item hitem => ?_
    cases hr : r item with
    | true => simp [hp item hitem hr]
    | false => simp
  have hsecond : ((items.filter fun item => !r item).filter fun item => !p item) =
      items.filter q := by
    rw [List.filter_filter]
    refine List.filter_congr fun item hitem => ?_
    rw [hq item hitem, Bool.and_comm]
  have hrest := List.filter_append_perm p (items.filter fun item => !r item)
  rw [hfirst, hsecond] at hrest
  exact ((hrest.append_right _).trans List.perm_append_comm).trans (List.filter_append_perm r items)

namespace FilterItem

variable {schema : TableSchema} {column : Column} {row : Row} {values : List Value} {x : Value}
  {junction : Junction}

/-! ### Accepted conditions -/

/-- A condition on a column of a table. -/
def of (column : Column) (operator : FilterOperator) (values : List Value)
    (joinToNext : Junction) : FilterItem :=
  ⟨operator, column.name, values, joinToNext⟩

/-- Some condition on a column is accepted with the given values. -/
def Accepts (schema : TableSchema) (column : Column) (values : List Value) : Prop :=
  ∃ operator junction filter, compileAll schema [.of column operator values junction] = .ok filter

/-- Whether conditions select a row of a table, if they are accepted. -/
def outcome (schema : TableSchema) (items : List FilterItem) (row : Row) :
    Except FilterError Bool := do
  return schema.selects (← compileAll schema items) row

/-- A condition is compiled if it names a column, its values can be cast, and there is one of them
or, for the operator of several values, at least one. -/
theorem compile_eq_ok_iff {item : FilterItem} {predicate : Predicate} :
    item.compile schema = .ok predicate ↔
      ∃ column value rest, schema.column? item.field = some column ∧
        item.values.map (·.cast? column.type) = (value :: rest).map some ∧
        (item.operator = .oneOf ∨ rest = []) ∧
        predicate = predicateOf (.of schema column) item.operator value rest := by
  constructor
  · intro h
    rcases compile_cases schema item with ⟨_, -, hcompile⟩ |
      ⟨column, value, rest, hcolumn, hvalues, hnumber, hcompile⟩ <;>
      rw [h] at hcompile <;> cases hcompile
    exact ⟨column, value, rest, hcolumn, hvalues, hnumber, rfl⟩
  · rintro ⟨column, value, rest, hcolumn, hvalues, hnumber, rfl⟩
    have hlength : item.values.length = rest.length + 1 := by
      simpa using congrArg List.length hvalues
    have hempty : item.values ≠ [] := List.ne_nil_of_length_eq_add_one hlength
    have hcast : castValues item.field column.type item.values = .ok (value :: rest) :=
      castValues_eq_ok_iff.mpr hvalues
    have hsingle : rest ≠ [] → item.operator = .oneOf := hnumber.resolve_right
    simpa [compile, hcolumn, hempty, hlength, hcast, bind, Except.bind, pure, Except.pure,
      List.length_pos_iff] using hsingle

/-- One condition is compiled by itself. -/
theorem compileAll_singleton_eq_ok_iff {item : FilterItem} {filter : Option Predicate} :
    compileAll schema [item] = .ok filter ↔
      ∃ predicate, item.compile schema = .ok predicate ∧ filter = some predicate := by
  cases hcompile : item.compile schema <;>
    simp [compileAll, compileAfter, hcompile, bind, Except.bind, Functor.map, Except.map, eq_comm]

/-- The predicate of a condition on a column of a lawful table. -/
theorem compile_of_eq_ok_iff (hlawful : schema.Lawful) (hcolumn : column ∈ schema.columns)
    {operator : FilterOperator} {predicate : Predicate} :
    (of column operator values junction).compile schema = .ok predicate ↔
      ∃ value rest, values.map (·.cast? column.type) = (value :: rest).map some ∧
        (operator = .oneOf ∨ rest = []) ∧
        predicate = predicateOf (.of schema column) operator value rest := by
  simp only [compile_eq_ok_iff, of, hlawful.column?_name hcolumn, Option.some.injEq,
    exists_eq_left', exists_and_left]

/-- A condition with one value that can be cast is compiled. -/
theorem compile_of_cast (hlawful : schema.Lawful) (hcolumn : column ∈ schema.columns)
    {given : Value} (hcast : x.cast? column.type = some given) (operator : FilterOperator) :
    (of column operator [x] junction).compile schema =
      .ok (predicateOf (.of schema column) operator given []) :=
  (compile_of_eq_ok_iff hlawful hcolumn).mpr ⟨given, [], by simp [hcast], Or.inr rfl, rfl⟩

/-- Accepted values are cast, and there is at least one of them. -/
theorem exists_cast_of_accepts (hlawful : schema.Lawful) (hcolumn : column ∈ schema.columns)
    (h : Accepts schema column values) :
    ∃ value rest, values.map (·.cast? column.type) = (value :: rest).map some := by
  obtain ⟨operator, junction, filter, h⟩ := h
  obtain ⟨predicate, hcompile, -⟩ := compileAll_singleton_eq_ok_iff.mp h
  obtain ⟨value, rest, hvalues, -⟩ := (compile_of_eq_ok_iff hlawful hcolumn).mp hcompile
  exact ⟨value, rest, hvalues⟩

/-- A value that is accepted is cast. -/
theorem exists_cast_of_accepts_singleton (hlawful : schema.Lawful)
    (hcolumn : column ∈ schema.columns) (h : Accepts schema column [x]) :
    ∃ given, x.cast? column.type = some given := by
  obtain ⟨given, rest, hcast⟩ := exists_cast_of_accepts hlawful hcolumn h
  exact ⟨given, (List.cons.inj hcast).1⟩

/-! ### Outcomes -/

/-- The predicate of one condition on a column holds of a row if its value is not null and stands to
the given ones as the operator says. -/
theorem eval_predicateOf_view (hlawful : schema.Lawful) (hcolumn : column ∈ schema.columns)
    (hfits : schema.Fits row) {operator : FilterOperator} {value : Value} {rest : List Value}
    (hnumber : operator = .oneOf ∨ rest = []) :
    (predicateOf (.of schema column) operator value rest).eval (schema.view row) =
      (!(row.at column).isNull && operator.relates (row.at column) (value :: rest)) := by
  rw [eval_predicateOf hnumber, Predicate.onValue, schema.view_of,
    hfits.getElem?_index hlawful hcolumn]

/-- The outcome of one condition on a column: the value is not null, and it stands to the given ones
as the operator says. -/
theorem outcome_singleton_eq_ok_iff (hlawful : schema.Lawful) (hcolumn : column ∈ schema.columns)
    (hfits : schema.Fits row) {operator : FilterOperator} {outcome : Bool} :
    FilterItem.outcome schema [.of column operator values junction] row = .ok outcome ↔
      ∃ value rest, values.map (·.cast? column.type) = (value :: rest).map some ∧
        (operator = .oneOf ∨ rest = []) ∧
        outcome = (!(row.at column).isNull &&
          operator.relates (row.at column) (value :: rest)) := by
  simp only [FilterItem.outcome, bind_eq_ok_iff, compileAll_singleton_eq_ok_iff,
    compile_of_eq_ok_iff hlawful hcolumn]
  constructor
  · rintro ⟨_, ⟨_, ⟨value, rest, hvalues, hnumber, rfl⟩, rfl⟩, houtcome⟩
    refine ⟨value, rest, hvalues, hnumber, ?_⟩
    rw [← eval_predicateOf_view hlawful hcolumn hfits hnumber]
    exact (Except.ok.inj houtcome).symm
  · rintro ⟨value, rest, hvalues, hnumber, rfl⟩
    exact ⟨_, ⟨_, ⟨value, rest, hvalues, hnumber, rfl⟩, rfl⟩,
      congrArg Except.ok (eval_predicateOf_view hlawful hcolumn hfits hnumber)⟩

/-- The outcome of one condition with one value on a column. -/
theorem outcome_of_cast (hlawful : schema.Lawful) (hcolumn : column ∈ schema.columns)
    (hfits : schema.Fits row) {given : Value} (hcast : x.cast? column.type = some given)
    (operator : FilterOperator) :
    outcome schema [.of column operator [x] junction] row =
      .ok (!(row.at column).isNull && operator.relates (row.at column) [given]) :=
  (outcome_singleton_eq_ok_iff hlawful hcolumn hfits).mpr
    ⟨given, [], by simp [hcast], Or.inr rfl, rfl⟩

/-! ### Laws -/

/-- No condition of one operator selects a row with null in its column. -/
theorem outcome_of_isNull (hlawful : schema.Lawful) (hcolumn : column ∈ schema.columns)
    (hfits : schema.Fits row) (hnull : (row.at column).isNull = true)
    {operator : FilterOperator} {outcome : Bool}
    (h : FilterItem.outcome schema [.of column operator values junction] row = .ok outcome) :
    outcome = false := by
  obtain ⟨value, rest, -, -, rfl⟩ := (outcome_singleton_eq_ok_iff hlawful hcolumn hfits).mp h
  rw [hnull]
  rfl

/-- A value in a row that is neither null nor NaN compares with every accepted value that is not
NaN, and the outcomes of the comparisons are those of the order in which the two stand. -/
theorem outcomes_of_compare (hlawful : schema.Lawful) (hcolumn : column ∈ schema.columns)
    (hfits : schema.Fits row) (hnull : (row.at column).isNull = false)
    (hnumber : (row.at column).isNaN = false) (hx : Accepts schema column [x])
    (hxNumber : x.isNaN = false) (junction : Junction) :
    ∃ given order, x.cast? column.type = some given ∧
      (row.at column).compare? given = some order ∧
      outcome schema [.of column .less [x] junction] row = .ok (order == .lt) ∧
      outcome schema [.of column .equal [x] junction] row = .ok (order == .eq) ∧
      outcome schema [.of column .greater [x] junction] row = .ok (order == .gt) ∧
      outcome schema [.of column .unequal [x] junction] row = .ok (order != .eq) := by
  obtain ⟨given, hcast⟩ := exists_cast_of_accepts_singleton hlawful hcolumn hx
  have htype : (row.at column).hasType column.type = true :=
    (hfits.admits column hcolumn).typed.resolve_left (Bool.eq_false_iff.mp hnull)
  have hcompare := Value.compare?_eq_orderIn htype (Value.hasType_of_cast? hcast) hnumber
    (Value.isNaN_of_cast? hcast hxNumber)
  have houtcome (operator : FilterOperator) :
      outcome schema [.of column operator [x] junction] row =
        .ok (operator.relates (row.at column) [given]) := by
    rw [outcome_of_cast hlawful hcolumn hfits hcast, hnull]
    rfl
  refine ⟨given, _, hcast, hcompare, ?_, ?_, ?_, ?_⟩ <;>
    simp [houtcome, FilterOperator.relates, Value.same, hcompare, bne]

/-- A row is unequal to an accepted value exactly if it is not equal to it and not null. -/
theorem outcome_unequal (hlawful : schema.Lawful) (hcolumn : column ∈ schema.columns)
    (hfits : schema.Fits row) (hx : Accepts schema column [x]) (junction : Junction) :
    ∃ equal, outcome schema [.of column .equal [x] junction] row = .ok equal ∧
      outcome schema [.of column .unequal [x] junction] row =
        .ok (!(row.at column).isNull && !equal) := by
  obtain ⟨given, hcast⟩ := exists_cast_of_accepts_singleton hlawful hcolumn hx
  refine ⟨_, outcome_of_cast hlawful hcolumn hfits hcast _, ?_⟩
  rw [outcome_of_cast hlawful hcolumn hfits hcast]
  cases (row.at column).isNull <;> simp [FilterOperator.relates]

/-- Being equal to one of several values, as conditions joined by `or`. -/
def anyEqual (column : Column) (values : List Value) : List FilterItem :=
  values.map fun value => of column .equal [value] .or

/-- After a predicate, conditions of equality joined by `or` let in the rows that are equal to one
of their values. -/
theorem compileAfter_anyEqual (hlawful : schema.Lawful) (hcolumn : column ∈ schema.columns)
    {casts : List Value} (hcast : values.map (·.cast? column.type) = casts.map some)
    (predicate : Predicate) :
    ∃ joined, compileAfter schema predicate .or (anyEqual column values) = .ok joined ∧
      ∀ row, schema.Fits row → joined.eval (schema.view row) =
        (predicate.eval (schema.view row) ||
          !(row.at column).isNull && casts.any (row.at column).same) := by
  induction values generalizing casts predicate with
  | nil =>
    obtain rfl : casts = [] := by simpa using hcast.symm
    exact ⟨predicate, rfl, fun row _ => by simp⟩
  | cons value rest ih =>
    cases casts with
    | nil => simp at hcast
    | cons cast others =>
      obtain ⟨hvalue, hrest⟩ := List.cons.inj hcast
      obtain ⟨joined, hjoined, heval⟩ :=
        ih hrest (predicate.or (predicateOf (.of schema column) .equal cast []))
      refine ⟨joined, bind_eq_ok_iff.mpr ⟨_, compile_of_cast hlawful hcolumn hvalue _, hjoined⟩,
        fun row hfits => ?_⟩
      rw [heval row hfits, Predicate.eval,
        eval_predicateOf_view hlawful hcolumn hfits (Or.inr rfl)]
      cases (row.at column).isNull <;> simp [FilterOperator.relates, Bool.or_assoc]

/-- A row has one of the accepted values exactly if it is selected by the conditions of equality to
each of them, joined by `or`. -/
theorem outcome_oneOf (hlawful : schema.Lawful) (hcolumn : column ∈ schema.columns)
    (hfits : schema.Fits row) (hvalues : Accepts schema column values) (junction : Junction) :
    ∃ selected, outcome schema [.of column .oneOf values junction] row = .ok selected ∧
      outcome schema (anyEqual column values) row = .ok selected := by
  obtain ⟨given, others, hcast⟩ := exists_cast_of_accepts hlawful hcolumn hvalues
  refine ⟨_, (outcome_singleton_eq_ok_iff hlawful hcolumn hfits).mpr
    ⟨given, others, hcast, Or.inl rfl, rfl⟩, ?_⟩
  cases values with
  | nil => simp at hcast
  | cons value rest =>
    obtain ⟨hvalue, hrest⟩ := List.cons.inj hcast
    obtain ⟨joined, hjoined, heval⟩ := compileAfter_anyEqual hlawful hcolumn hrest
      (predicateOf (.of schema column) .equal given [])
    have hcompiled : compileAll schema (anyEqual column (value :: rest)) = .ok (some joined) := by
      refine bind_eq_ok_iff.mpr ⟨_, compile_of_cast hlawful hcolumn hvalue _, ?_⟩
      exact congrArg (Functor.map some) hjoined
    refine bind_eq_ok_iff.mpr ⟨_, hcompiled, congrArg Except.ok ?_⟩
    rw [TableSchema.selects, Option.all_some, heval row hfits,
      eval_predicateOf_view hlawful hcolumn hfits (Or.inr rfl)]
    cases (row.at column).isNull <;> simp [FilterOperator.relates]

/-- The rows that are equal to a value, those that are not, and those with null are all rows. -/
theorem filter_append_filter_append_filter_isNull_perm (hlawful : schema.Lawful)
    (hcolumn : column ∈ schema.columns) {rows : List Row} (hfits : ∀ row ∈ rows, schema.Fits row)
    (given : Value) :
    (rows.filter (schema.selects (some (predicateOf (.of schema column) .equal given []))) ++
      rows.filter (schema.selects (some (predicateOf (.of schema column) .unequal given []))) ++
      rows.filter fun row => (row.at column).isNull).Perm rows := by
  have hselects (operator : FilterOperator) : ∀ row ∈ rows,
      schema.selects (some (predicateOf (.of schema column) operator given [])) row =
        (!(row.at column).isNull && operator.relates (row.at column) [given]) :=
    fun row hrow => eval_predicateOf_view hlawful hcolumn (hfits row hrow) (Or.inr rfl)
  refine filter_append_filter_append_filter_perm (fun row hrow hnull => ?_) fun row hrow => ?_
  · rw [hselects .equal row hrow, hnull]
    rfl
  · rw [hselects .equal row hrow, hselects .unequal row hrow]
    cases (row.at column).isNull <;> simp [FilterOperator.relates]

end FilterItem

end Tabula
