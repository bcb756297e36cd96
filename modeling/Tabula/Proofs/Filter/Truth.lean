import Tabula.Filter.Item

/-!
# Truth of conditions

A condition on a row is true, false, or unknown where the row has no value or null in its column.
Conditions are joined from left to right, each to all of those before it, and unknown outcomes are
carried along as in SQL.
-/

namespace Tabula

/-! ### Truth values -/

/-- The outcome of conditions on a row. -/
inductive Truth where
  | yes
  | no
  /-- The row does not decide it. -/
  | unknown
deriving DecidableEq, Repr

namespace Truth

/-- The outcome of a test that can be made. -/
def ofBool (outcome : Bool) : Truth := if outcome then yes else no

/-- Whether both are true. One that is false decides it, whatever the other is. -/
def and : Truth → Truth → Truth
  | no, _ | _, no => no
  | yes, yes => yes
  | _, _ => unknown

/-- Whether one is true. One that is true decides it, whatever the other is. -/
def or : Truth → Truth → Truth
  | yes, _ | _, yes => yes
  | no, no => no
  | _, _ => unknown

/-- A test that can be made is true if it succeeds. -/
theorem ofBool_eq_yes_iff {outcome : Bool} : ofBool outcome = yes ↔ outcome = true := by
  cases outcome <;> decide

/-- Both are true together only if each is. -/
theorem and_eq_yes_iff {a b : Truth} : a.and b = yes ↔ a = yes ∧ b = yes := by
  cases a <;> cases b <;> decide

/-- One is true of two exactly if the first or the second is. -/
theorem or_eq_yes_iff {a b : Truth} : a.or b = yes ↔ a = yes ∨ b = yes := by
  cases a <;> cases b <;> decide

end Truth

/-- Joins the outcomes of conditions. -/
def Junction.combine : Junction → Truth → Truth → Truth
  | and => Truth.and
  | or => Truth.or

/-- Whether a value other than null stands to the given values as an operator says. -/
def FilterOperator.relates (operator : FilterOperator) (found : Value) (given : List Value) :
    Bool :=
  match operator with
  | equal | oneOf => given.any fun value => found.same value
  | unequal => given.all fun value => !found.same value
  | greater => given.any fun value => found.compare? value == some .gt
  | less => given.any fun value => found.compare? value == some .lt
  | like => given.any fun value => Pattern.coversText value.plainText found.plainText false
  | likeAnyCase => given.any fun value => Pattern.coversText value.plainText found.plainText true

namespace FilterItem

/-- The outcome of one condition on a row. Its values count as values of the type of the column. -/
def truth (schema : TableSchema) (row : RowView) (item : FilterItem) : Truth :=
  match schema.column? item.field with
  | none => .unknown
  | some column =>
    match row (.of schema column) with
    | none | some .null => .unknown
    | some found =>
      .ofBool (item.operator.relates found (item.values.filterMap (·.cast? column.type)))

/-- The outcome of conditions on a row: each is joined to the outcome of all of those before it, in
the way that the one just before it tells. -/
def truthOfAll (schema : TableSchema) (row : RowView) (first : FilterItem)
    (rest : List FilterItem) : Truth :=
  ((first :: rest).zip rest).foldl
    (fun outcome (before, item) => before.joinToNext.combine outcome (item.truth schema row))
    (first.truth schema row)

end FilterItem

end Tabula
