import Tabula.Proofs.Table.Removal
import Tabula.Proofs.Table.Values
import Tabula.Proofs.Value.Json

/-!
# Values that can be written back

A column retains a value if the value stays as it is when it is written once more in the form in
which JSON shows it: numbers are finite, and texts are trimmed and no longer than the column takes.
A table whose defaults are retained retains all its values, as long as no others are written.
-/

namespace Tabula

/-! ### Retained values -/

/-- A column retains finite numbers, texts that are trimmed and not too long for it, and all that is
neither a floating-point number nor a text. -/
def ColumnSpec.Retains (spec : ColumnSpec) : Value → Prop
  | .float number => number.isFinite = true
  | .text text => trim text = text ∧
      ∀ maxLength, spec.maxLength = some maxLength → text.length ≤ maxLength.toNat
  | _ => True

/-- The default of a column, if there is one, is retained. -/
def ColumnSpec.RetainsDefault (spec : ColumnSpec) : Prop :=
  ∀ value, spec.default = some value → spec.Retains value

/-- Retained values are finite. -/
theorem ColumnSpec.Retains.isFinite {spec : ColumnSpec} {value : Value}
    (h : spec.Retains value) : value.IsFinite := by
  cases value with
  | float number => exact h
  | _ => trivial

/-- A table retains its values if its schema is lawful and its columns retain their defaults and
the values of all rows. -/
structure Table.Retained (table : Table) : Prop where
  lawful : table.schema.Lawful
  defaults : ∀ column ∈ table.schema.columns, column.RetainsDefault
  rows : ∀ row ∈ table.rows, ∀ column ∈ table.schema.columns, column.Retains (row.at column)

namespace Table

variable {table after : Table} {values : List (ColumnRef × Value)}
  {supplied : List (Column × Value)}

/-- A table retains its values exactly if it holds only such values, as its columns retain numbers
and null. -/
theorem retained_iff_holdsOnly : table.Retained ↔ table.HoldsOnly ColumnSpec.Retains where
  mp h := ⟨h.lawful, fun column hcolumn =>
    ⟨fun _ => trivial, h.defaults column hcolumn, trivial⟩, h.rows⟩
  mpr h := ⟨h.lawful, fun column hcolumn => (h.fills column hcolumn).default, h.rows⟩

/-! ### Writing back -/

/-- Retained keys equal themselves. -/
theorem Retained.keysReflexive (h : table.Retained) : table.KeysReflexive :=
  fun row hrow column hcolumn =>
    Value.same_self (h.rows row hrow column (List.mem_of_mem_filter hcolumn)).isFinite

/-- Overwriting a row with its own values changes nothing. -/
theorem overwrite_self {row : Row} (h : ∀ change ∈ supplied, change.2 = row.at change.1) :
    overwrite row supplied = row := by
  induction supplied with
  | nil => rfl
  | cons change rest ih =>
    obtain ⟨hchange, hrest⟩ := List.forall_mem_cons.mp h
    have hset : row.set change.1.index change.2 = row := by
      rw [hchange, Row.at]
      by_cases hlt : change.1.index < row.length
      · rw [List.getD_eq_getElem row .null hlt, List.set_getElem_self]
      · exact List.set_eq_of_length_le (Nat.le_of_not_lt hlt)
    rw [overwrite, List.foldl_cons, hset]
    exact ih hrest

/-- An update that gives a row its own values changes nothing. -/
theorem update_self {position : Nat} {row : Row} (hrow : table.rows[position]? = some row)
    (hlawful : table.schema.Lawful)
    (hvalues : ∀ given ∈ values, ∃ column ∈ table.schema.columns,
      given = (.of table.schema column, row.at column))
    {old : Row} (hupdate : table.update position values = .ok (old, after)) : after = table := by
  obtain ⟨hold, supplied, hsupplied, -, rfl⟩ := update_eq_ok hupdate
  rw [hrow, Option.some.injEq] at hold
  subst hold
  have hown : ∀ change ∈ supplied, change.2 = row.at change.1 := by
    intro change hchange
    obtain ⟨-, -, given, hgiven, hfound, hvalue⟩ :=
      TableSchema.of_mem_checkValues hsupplied hchange
    obtain ⟨column, hcolumn, rfl⟩ := hvalues given hgiven
    rw [ColumnRef.of, hlawful.column?_name hcolumn, Option.some.injEq] at hfound
    rw [← hvalue, ← hfound]
  obtain ⟨hlt, hget⟩ := List.getElem?_eq_some_iff.mp hrow
  rw [overwrite_self hown, ← hget, List.set_getElem_self]

end Table

end Tabula
