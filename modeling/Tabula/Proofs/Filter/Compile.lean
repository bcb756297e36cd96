import Tabula.Proofs.Filter.Truth
import Tabula.Proofs.Outcome
import Tabula.Proofs.Value.Order

/-!
# What conditions are compiled into

The compiled predicate knows two outcomes only: it holds of a row exactly if the conditions, joined
strictly from left to right, are true of it. Compiling fails at the first condition that has a
fault.
-/

namespace Tabula

/-- Only one operator takes several values. -/
@[simp] theorem FilterOperator.isMultiValued_iff {operator : FilterOperator} :
    operator.isMultiValued = true ↔ operator = .oneOf := by
  cases operator <;> decide

namespace FilterItem

/-! ### Faults -/

/-- The fault of a condition on a table: it names no column, it has no values, it has several for
an operator of one, or else one of them cannot be cast to the type of the column, and then the first
such value counts. -/
inductive Faulty (schema : TableSchema) (item : FilterItem) : FilterError → Prop
  | unknownField (unknown : ∀ column ∈ schema.columns, column.name ≠ item.field) :
      Faulty schema item (.unknownField schema.qualifiedName item.field)
  | noValues {column : Column} (known : schema.column? item.field = some column)
      (without : item.values = []) : Faulty schema item (.noValues item.field)
  | severalValues {column : Column} (known : schema.column? item.field = some column)
      (several : 1 < item.values.length) (single : item.operator ≠ .oneOf) :
      Faulty schema item (.severalValues item.field item.operator)
  | wrongType {column : Column} {earlier : List Value} {value : Value} {later : List Value}
      (known : schema.column? item.field = some column)
      (number : item.values.length ≤ 1 ∨ item.operator = .oneOf)
      (values : item.values = earlier ++ value :: later)
      (fitting : ∀ other ∈ earlier, (other.cast? column.type).isSome = true)
      (unfit : value.cast? column.type = none) :
      Faulty schema item (.wrongType item.field value column.type)

/-- A condition without a fault on a table. -/
def Sound (schema : TableSchema) (item : FilterItem) : Prop := ∀ fault, ¬ item.Faulty schema fault

variable {schema : TableSchema}

/-- Values are cast if all of them can be. -/
theorem castValues_eq_ok_iff {field : String} {type : ScalarType} {values casts : List Value} :
    castValues field type values = .ok casts ↔ values.map (·.cast? type) = casts.map some := by
  induction values generalizing casts with
  | nil => cases casts <;> simp [castValues]
  | cons value rest ih =>
    rw [castValues, List.map_cons]
    cases value.cast? type with
    | none => cases casts <;> simp
    | some cast =>
      simp only [bind_eq_ok_iff, ih]
      constructor
      · rintro ⟨others, hothers, h⟩
        cases h
        rw [hothers, List.map_cons]
      · intro h
        cases casts with
        | nil => simp at h
        | cons first others =>
          rw [List.map_cons, List.cons.injEq, Option.some.injEq] at h
          obtain ⟨rfl, hothers⟩ := h
          exact ⟨others, hothers, rfl⟩

/-- Values fail to be cast at the first one that cannot be. -/
theorem castValues_eq_error_iff {field : String} {type : ScalarType} {values : List Value}
    {error : FilterError} :
    castValues field type values = .error error ↔
      ∃ earlier value later, values = earlier ++ value :: later ∧
        (∀ other ∈ earlier, (other.cast? type).isSome = true) ∧
        value.cast? type = none ∧ error = .wrongType field value type := by
  induction values with
  | nil => simp [castValues]
  | cons value rest ih =>
    rw [castValues]
    cases hcast : value.cast? type with
    | none =>
      constructor
      · intro h
        cases h
        exact ⟨[], value, rest, rfl, by simp, hcast, rfl⟩
      · rintro ⟨earlier, refused, later, hvalues, hfit, hrefused, rfl⟩
        cases earlier with
        | nil =>
          cases hvalues
          rfl
        | cons first earlier =>
          cases hvalues
          simp [hcast] at hfit
    | some cast =>
      have hrest : (do
          let values ← castValues field type rest
          return cast :: values) = Except.error error ↔
          castValues field type rest = .error error := by
        cases castValues field type rest <;> simp [bind, Except.bind, pure, Except.pure]
      simp only [hrest, ih]
      constructor
      · rintro ⟨earlier, refused, later, rfl, hfit, hrefused, rfl⟩
        refine ⟨value :: earlier, refused, later, rfl, ?_, hrefused, rfl⟩
        exact List.forall_mem_cons.mpr ⟨by rw [hcast]; rfl, hfit⟩
      · rintro ⟨earlier, refused, later, hvalues, hfit, hrefused, rfl⟩
        cases earlier with
        | nil =>
          cases hvalues
          simp [hcast] at hrefused
        | cons first earlier =>
          cases hvalues
          exact ⟨earlier, refused, later, rfl, (List.forall_mem_cons.mp hfit).2, hrefused, rfl⟩

/-- A condition with a fault fails with it. -/
theorem compile_of_faulty {item : FilterItem} {error : FilterError}
    (h : item.Faulty schema error) : item.compile schema = .error error := by
  cases h with
  | unknownField unknown =>
    have hnone : schema.column? item.field = none :=
      List.find?_eq_none.mpr fun column hmem => by simpa using unknown column hmem
    simp only [compile, hnone]
  | noValues known without => simp [compile, known, without]
  | severalValues known several single =>
    have hvalues : item.values ≠ [] := List.ne_nil_of_length_pos (Nat.zero_lt_of_lt several)
    simp [compile, known, several, single, hvalues]
  | @wrongType column earlier value later known number values fitting unfit =>
    have hcast : castValues item.field column.type item.values =
        .error (.wrongType item.field value column.type) :=
      castValues_eq_error_iff.mpr ⟨earlier, value, later, values, fitting, unfit, rfl⟩
    have hvalues : item.values ≠ [] := by simp [values]
    have hnumber : 1 < item.values.length → item.operator = .oneOf := fun hseveral =>
      number.resolve_left (Nat.not_le_of_lt hseveral)
    simpa [compile, known, hvalues, hcast, bind, Except.bind] using hnumber

/-- A condition has a fault, with which compiling it fails, or it is compiled with its values
cast. -/
theorem compile_cases (schema : TableSchema) (item : FilterItem) :
    (∃ error, item.Faulty schema error ∧ item.compile schema = .error error) ∨
    ∃ column value rest, schema.column? item.field = some column ∧
      item.values.map (·.cast? column.type) = (value :: rest).map some ∧
      (item.operator = .oneOf ∨ rest = []) ∧
      item.compile schema =
        .ok (predicateOf (.of schema column) item.operator value rest) := by
  cases hcolumn : schema.column? item.field with
  | none =>
    have hfault : item.Faulty schema (.unknownField schema.qualifiedName item.field) :=
      .unknownField fun column hmem => by simpa using List.find?_eq_none.mp hcolumn column hmem
    exact Or.inl ⟨_, hfault, compile_of_faulty hfault⟩
  | some column =>
    by_cases hempty : item.values = []
    · have hfault : item.Faulty schema (.noValues item.field) := .noValues hcolumn hempty
      exact Or.inl ⟨_, hfault, compile_of_faulty hfault⟩
    by_cases hnumber : 1 < item.values.length → item.operator = .oneOf
    swap
    · rw [Classical.not_imp] at hnumber
      have hfault : item.Faulty schema (.severalValues item.field item.operator) :=
        .severalValues hcolumn hnumber.1 hnumber.2
      exact Or.inl ⟨_, hfault, compile_of_faulty hfault⟩
    have hfew : item.values.length ≤ 1 ∨ item.operator = .oneOf :=
      (Nat.lt_or_ge 1 item.values.length).symm.imp id hnumber
    cases hcast : castValues item.field column.type item.values with
    | error error =>
      obtain ⟨earlier, value, later, hvalues, hfitting, hunfit, rfl⟩ :=
        castValues_eq_error_iff.mp hcast
      have hfault : item.Faulty schema (.wrongType item.field value column.type) :=
        .wrongType hcolumn hfew hvalues hfitting hunfit
      exact Or.inl ⟨_, hfault, compile_of_faulty hfault⟩
    | ok casts =>
      have hvalues := castValues_eq_ok_iff.mp hcast
      have hlength := congrArg List.length hvalues
      cases casts with
      | nil => exact absurd (by simpa using hvalues) hempty
      | cons value rest =>
        refine Or.inr ⟨column, value, rest, rfl, hvalues, ?_, ?_⟩
        · refine hfew.symm.imp id fun hone => ?_
          simp only [List.length_map, List.length_cons] at hlength
          exact List.length_eq_zero_iff.mp (by omega)
        · simpa [compile, hcolumn, hempty, hcast, bind, Except.bind, pure, Except.pure]
            using hnumber

/-- Compiling a condition fails exactly with its fault. -/
theorem compile_eq_error_iff {item : FilterItem} {error : FilterError} :
    item.compile schema = .error error ↔ item.Faulty schema error := by
  refine ⟨fun h => ?_, compile_of_faulty⟩
  rcases compile_cases schema item with ⟨fault, hfault, hcompile⟩ | ⟨_, _, _, -, -, -, hcompile⟩
  · rw [h, Except.error.injEq] at hcompile
    exact hcompile ▸ hfault
  · rw [h] at hcompile
    cases hcompile

/-! ### Evaluation -/

/-- The predicate of an operator tests the value of the column, if it has one. -/
theorem eval_predicateOf {operator : FilterOperator} {rest : List Value}
    (h : operator = .oneOf ∨ rest = []) (column : ColumnRef) (value : Value) (row : RowView) :
    (predicateOf column operator value rest).eval row =
      Predicate.onValue row column fun found => operator.relates found (value :: rest) := by
  rcases h with rfl | rfl
  · simp only [predicateOf, Predicate.eval, FilterOperator.relates, Value.same_comm]
  · cases operator <;>
      simp [predicateOf, Predicate.eval, FilterOperator.relates, Comparison.holds,
        Value.same_comm]

/-- A compiled condition holds of a row exactly if it is true of it. -/
theorem eval_of_compile {item : FilterItem} {predicate : Predicate}
    (h : item.compile schema = .ok predicate) (row : RowView) :
    predicate.eval row = true ↔ item.truth schema row = .yes := by
  rcases compile_cases schema item with
    ⟨_, -, hcompile⟩ | ⟨column, value, rest, hcolumn, hvalues, hnumber, hcompile⟩ <;>
    rw [h] at hcompile <;> cases hcompile
  have hgiven : item.values.filterMap (·.cast? column.type) = value :: rest := by
    have hmap := congrArg (List.filterMap id) hvalues
    simpa [List.filterMap_map] using hmap
  rw [eval_predicateOf hnumber]
  cases hfound : row (.of schema column) with
  | none => simp [Predicate.onValue, truth, hcolumn, hfound]
  | some found =>
    cases found <;>
      simp [Predicate.onValue, truth, hcolumn, hfound, hgiven, Truth.ofBool_eq_yes_iff,
        Value.isNull]

/-! ### Lists of conditions -/

/-- The first condition with a fault has the given one. -/
def FirstFault (schema : TableSchema) (items : List FilterItem) (error : FilterError) : Prop :=
  ∃ before item after, items = before ++ item :: after ∧
    (∀ earlier ∈ before, earlier.Sound schema) ∧ item.Faulty schema error

/-- The first fault is that of the first condition, or else the first one after it. -/
theorem firstFault_cons_iff {item : FilterItem} {rest : List FilterItem} {error : FilterError} :
    FirstFault schema (item :: rest) error ↔
      item.Faulty schema error ∨ item.Sound schema ∧ FirstFault schema rest error := by
  constructor
  · rintro ⟨before, faulty, after, hitems, hsound, hfault⟩
    cases before with
    | nil =>
      cases hitems
      exact Or.inl hfault
    | cons first before =>
      cases hitems
      obtain ⟨hfirst, hbefore⟩ := List.forall_mem_cons.mp hsound
      exact Or.inr ⟨hfirst, before, faulty, after, rfl, hbefore, hfault⟩
  · rintro (hfault | ⟨hsound, before, faulty, after, rfl, hbefore, hfault⟩)
    · exact ⟨[], item, rest, rfl, by simp, hfault⟩
    · exact ⟨item :: before, faulty, after, rfl, List.forall_mem_cons.mpr ⟨hsound, hbefore⟩,
        hfault⟩

/-- Exactly the conditions without a fault are compiled. -/
theorem sound_iff {item : FilterItem} :
    item.Sound schema ↔ ∃ predicate, item.compile schema = .ok predicate := by
  cases hcompile : item.compile schema with
  | error error =>
    exact iff_of_false (fun hsound => hsound error (compile_eq_error_iff.mp hcompile)) (by simp)
  | ok predicate =>
    refine iff_of_true (fun fault hfault => ?_) ⟨predicate, rfl⟩
    rw [compile_of_faulty hfault] at hcompile
    cases hcompile

/-- After a condition the compilation goes on with the rest, or it fails with the fault of the
condition. -/
theorem compile_bind_eq_error_iff {A : Type} {item : FilterItem} {rest : List FilterItem}
    {error : FilterError} {next : Predicate → Except FilterError A}
    (hnext : ∀ predicate, next predicate = .error error ↔ FirstFault schema rest error) :
    item.compile schema >>= next = .error error ↔ FirstFault schema (item :: rest) error := by
  rw [firstFault_cons_iff, ← compile_eq_error_iff, sound_iff]
  cases item.compile schema with
  | error fault => simp [bind, Except.bind]
  | ok predicate => simp [bind, Except.bind, hnext predicate]

/-- Further conditions fail with their first fault. -/
theorem compileAfter_eq_error_iff {predicate : Predicate} {junction : Junction}
    {items : List FilterItem} {error : FilterError} :
    compileAfter schema predicate junction items = .error error ↔
      FirstFault schema items error := by
  induction items generalizing predicate junction with
  | nil => simp [compileAfter, FirstFault]
  | cons item rest ih => exact compile_bind_eq_error_iff fun condition => ih

/-- Conditions fail with their first fault. -/
theorem compileAll_eq_error_iff {items : List FilterItem} {error : FilterError} :
    compileAll schema items = .error error ↔ FirstFault schema items error := by
  cases items with
  | nil => simp [compileAll, FirstFault]
  | cons item rest =>
    refine compile_bind_eq_error_iff fun predicate => ?_
    have hrest : compileAfter schema predicate item.joinToNext rest = .error error ↔
        FirstFault schema rest error := compileAfter_eq_error_iff
    rw [← hrest]
    cases compileAfter schema predicate item.joinToNext rest <;> simp [Functor.map, Except.map]

/-- Joining predicates joins the outcomes for which they stand. -/
theorem eval_join {junction : Junction} {p q : Predicate} {row : RowView} {a b : Truth}
    (hp : p.eval row = true ↔ a = .yes) (hq : q.eval row = true ↔ b = .yes) :
    (junction.join p q).eval row = true ↔ junction.combine a b = .yes := by
  cases junction with
  | and =>
    rw [Junction.join, Predicate.eval, Bool.and_eq_true, hp, hq]
    exact Truth.and_eq_yes_iff.symm
  | or =>
    rw [Junction.join, Predicate.eval, Bool.or_eq_true, hp, hq]
    exact Truth.or_eq_yes_iff.symm

/-- Conditions without a fault are compiled after a predicate. If that stands for the outcome of the
conditions up to `before`, the new predicate stands for the outcome of all. -/
theorem compileAfter_of_sound {items : List FilterItem}
    (h : ∀ item ∈ items, item.Sound schema) (before : FilterItem) (predicate : Predicate) :
    ∃ joined, compileAfter schema predicate before.joinToNext items = .ok joined ∧
      ∀ row outcome, (predicate.eval row = true ↔ outcome = Truth.yes) →
        (joined.eval row = true ↔
          ((before :: items).zip items).foldl (fun outcome (before, item) =>
            before.joinToNext.combine outcome (item.truth schema row)) outcome = .yes) := by
  induction items generalizing before predicate with
  | nil => exact ⟨predicate, rfl, fun _ _ houtcome => houtcome⟩
  | cons item rest ih =>
    obtain ⟨hitem, hrest⟩ := List.forall_mem_cons.mp h
    obtain ⟨condition, hcondition⟩ := sound_iff.mp hitem
    obtain ⟨joined, hjoined, heval⟩ :=
      ih hrest item (before.joinToNext.join predicate condition)
    refine ⟨joined, ?_, fun row outcome houtcome => ?_⟩
    · rw [compileAfter, hcondition]
      exact hjoined
    · rw [List.zip_cons_cons, List.foldl_cons]
      exact heval row _ (eval_join houtcome (eval_of_compile hcondition row))

/-- Conditions without a fault are compiled into a predicate that holds of a row exactly if they are
true of it. -/
theorem compileAll_of_sound {first : FilterItem} {rest : List FilterItem}
    (h : ∀ item ∈ first :: rest, item.Sound schema) :
    ∃ predicate, compileAll schema (first :: rest) = .ok (some predicate) ∧
      ∀ row, predicate.eval row = true ↔ truthOfAll schema row first rest = .yes := by
  obtain ⟨hfirst, hrest⟩ := List.forall_mem_cons.mp h
  obtain ⟨condition, hcondition⟩ := sound_iff.mp hfirst
  obtain ⟨joined, hjoined, heval⟩ := compileAfter_of_sound hrest first condition
  refine ⟨joined, ?_, fun row => heval row _ (eval_of_compile hcondition row)⟩
  simp [compileAll, hcondition, hjoined, bind, Except.bind, Functor.map, Except.map]

/-- The junction of the last of further conditions does not matter. -/
theorem compileAfter_last (predicate : Predicate) (junction other : Junction)
    (before : List FilterItem) (last : FilterItem) :
    compileAfter schema predicate junction (before ++ [{ last with joinToNext := other }]) =
      compileAfter schema predicate junction (before ++ [last]) := by
  induction before generalizing predicate junction with
  | nil => rfl
  | cons item rest ih =>
    simp only [List.cons_append, compileAfter, ih]

/-- The junction of the last condition does not matter. -/
theorem compileAll_last (junction : Junction) (before : List FilterItem) (last : FilterItem) :
    compileAll schema (before ++ [{ last with joinToNext := junction }]) =
      compileAll schema (before ++ [last]) := by
  cases before with
  | nil => rfl
  | cons item rest => simp only [List.cons_append, compileAll, compileAfter_last]

/-- Compiling conditions on a table fails exactly if one of them has a fault, with the fault of the
first such. Otherwise there is no predicate if there are no conditions, and else one that holds of a
row exactly if the conditions, joined strictly from left to right, are true of the row. How the last
condition is joined to the next one never matters. -/
theorem compileAll_left_fold (schema : TableSchema) (items : List FilterItem) :
    (∀ error, compileAll schema items = .error error ↔
      ∃ before item after, items = before ++ item :: after ∧
        (∀ earlier ∈ before, ∀ fault, ¬ earlier.Faulty schema fault) ∧
        item.Faulty schema error) ∧
    ((∀ item ∈ items, ∀ fault, ¬ item.Faulty schema fault) →
      match items with
      | [] => compileAll schema items = .ok none
      | first :: rest => ∃ predicate, compileAll schema items = .ok (some predicate) ∧
        ∀ row, predicate.eval row = true ↔ truthOfAll schema row first rest = .yes) ∧
    ∀ before last junction, items = before ++ [last] →
      compileAll schema (before ++ [{ last with joinToNext := junction }]) =
        compileAll schema items := by
  refine ⟨fun error => compileAll_eq_error_iff, fun hsound => ?_, ?_⟩
  · cases items with
    | nil => rfl
    | cons first rest => exact compileAll_of_sound hsound
  · rintro before last junction rfl
    exact compileAll_last junction before last

end FilterItem

/-! ### Rooms of a hotel -/

/-- Rooms have numbers, and a room may have a guest. -/
def roomSchema : TableSchema where
  database := "hotel"
  name := "rooms"
  columns := [
    ⟨⟨"number", .int, false, true, false, none, none⟩, 0⟩,
    ⟨⟨"guest", .int, true, false, false, none, none⟩, 1⟩]

/-- The first or the second room, and in it the seventh guest. -/
def roomsOfSeventhGuest : List FilterItem :=
  [⟨.equal, "number", [.int 1], .or⟩, ⟨.equal, "number", [.int 2], .and⟩,
    ⟨.equal, "guest", [.int 7], .or⟩]

/-- The first room has no guest, so the conditions are unknown of it, although its number alone
would satisfy them if `AND` came before `OR`. -/
theorem FilterItem.compileAll_left_fold_rooms :
    let room : RowView := fun column => [.int 1, .null][column.index]?
    (∀ item ∈ roomsOfSeventhGuest, ∀ fault, ¬ item.Faulty roomSchema fault) ∧
      ∃ predicate, compileAll roomSchema roomsOfSeventhGuest = .ok (some predicate) ∧
        predicate.eval room = false := by
  intro room
  have hsound : ∀ item ∈ roomsOfSeventhGuest, ∀ fault, ¬ item.Faulty roomSchema fault := by
    simp only [roomsOfSeventhGuest, List.forall_mem_cons]
    exact ⟨sound_iff.mpr ⟨_, rfl⟩, sound_iff.mpr ⟨_, rfl⟩, sound_iff.mpr ⟨_, rfl⟩, by simp⟩
  obtain ⟨-, hpredicate, -⟩ := compileAll_left_fold roomSchema roomsOfSeventhGuest
  obtain ⟨predicate, hcompiled, heval⟩ := hpredicate hsound
  refine ⟨hsound, predicate, hcompiled, Bool.eq_false_iff.mpr fun hholds => ?_⟩
  have htruth := (heval room).mp hholds
  revert htruth
  decide +kernel

end Tabula
