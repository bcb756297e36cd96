import Tabula.Proofs.Json.Fields
import Tabula.Proofs.Table.Retained
import Tabula.Proofs.Write.Acceptance

/-!
# Records that restate a row

The compiler of requests keeps only values that their columns retain. Conversely, a record that
shows the values of a row in JSON is valid if the columns retain them: each field is read as the
value of the row, and what is kept of the record are values of the row. So the update that it stands
for leaves the row as it is.
-/

namespace Tabula

/-- All numbers in the fields of a record are finite. -/
def WriteItem.IsFinite (item : WriteItem) : Prop := ∀ field ∈ item, field.2.IsFinite

/-! ### What is kept is retained -/

/-- A value that the rule of a column keeps of a finite record is retained by the column. -/
theorem FieldRule.retains_of_apply {schema : TableSchema} {column : Column} {number : Nat}
    {item : WriteItem} (hfinite : item.IsFinite) {kept : ColumnRef × Value}
    (h : (FieldRule.of schema column).apply number item = .ok (some kept)) :
    column.Retains kept.2 := by
  obtain ⟨json, hfield, hvalue, hshort, -, -⟩ := FieldRule.apply_eq_some h
  have hjson : json.IsFinite := hfinite (column.name, json) (Json.mem_of_lookup_eq_some hfield)
  obtain ⟨given, hgiven, ⟨-, hnull, -⟩ | hcoerce⟩ := FieldRule.valueOf_cases hvalue
  · rw [hnull]
    trivial
  · have hkept := Value.isFinite_of_coerce? hcoerce (Value.isFinite_of_ofJson hgiven hjson)
    generalize kept.2 = value at hkept hshort hcoerce ⊢
    cases value with
    | float number => exact hkept
    | text text =>
      exact ⟨Value.trim_of_coerce? hcoerce, FieldRule.exceeds_text_eq_none_iff.mp hshort⟩
    | _ => trivial

/-! ### What is retained is kept -/

/-- A rule reads a value of its column that the column retains as it is. -/
theorem FieldRule.valueOf_toJson {schema : TableSchema} {column : Column} {value : Value}
    (hadmits : column.Admits value) (hretains : column.Retains value) (number : Nat) :
    (FieldRule.of schema column).valueOf number value.toJson = .ok value := by
  unfold FieldRule.valueOf
  rw [Value.ofJson_toJson hretains.isFinite]
  rcases hadmits.typed with hnull | htype
  · have hnullable := (hadmits.null hnull).1
    rw [Value.isNull_iff.mp hnull]
    simp [Value.inJson, Value.isNull, FieldRule.of, hnullable]
  · have hcoerce : value.inJson.coerce? column.type = some value := by
      refine Value.coerce?_inJson htype fun text htext => ?_
      subst htext
      exact hretains.1
    have hnull : value.inJson.isNull = false := by
      cases value with
      | null => cases htype
      | _ => rfl
    simp [hnull, FieldRule.of, ColumnRef.of, hcoerce]

/-- A column does not take exception to the length of a value that it retains. -/
theorem FieldRule.exceeds_of_retains {schema : TableSchema} {column : Column} {value : Value}
    (hretains : column.Retains value) : (FieldRule.of schema column).exceeds value = none := by
  cases value with
  | text text => exact FieldRule.exceeds_text_eq_none_iff.mpr hretains.2
  | _ => rfl

/-- A rule accepts a field with a value that its column retains, and keeps that unless it is left
to the default. -/
theorem FieldRule.apply_toJson {schema : TableSchema} {column : Column} {value : Value}
    (hadmits : column.Admits value) (hretains : column.Retains value) {number : Nat}
    {item : WriteItem} (hfield : Json.field? column.name item = some value.toJson) :
    (FieldRule.of schema column).apply number item =
      .ok (if (FieldRule.of schema column).leavesToDefault value then none
        else some (.of schema column, value)) := by
  have hname : Json.field? (FieldRule.of schema column).column.name item = some value.toJson :=
    hfield
  simp only [FieldRule.apply, hname, FieldRule.valueOf_toJson hadmits hretains, bind, Except.bind,
    FieldRule.exceeds_of_retains hretains, pure, Except.pure]
  rfl

/-- A record is valid if all its fields are known and every rule accepts it. -/
theorem RecordRules.validate_of_apply {rules : RecordRules} {number : Nat} {item : WriteItem}
    {result : FieldRule → Option (ColumnRef × Value)}
    (hknown : ∀ field ∈ item, rules.knows field.1 = true)
    (happly : ∀ rule ∈ rules, rule.apply number item = .ok (result rule)) :
    rules.validate number item = .ok (rules.filterMap result) := by
  have hunknown : (item.find? fun field => !rules.knows field.1) = none :=
    List.find?_eq_none.mpr fun field hfield => by simp [hknown field hfield]
  have hall : rules.mapM (fun rule => rule.apply number item) = .ok (rules.map result) :=
    mapM_eq_ok_iff.mpr (List.forall₂_map_right_iff.mpr (List.forall₂_same.mpr happly))
  simp only [validate, hunknown, hall, bind, Except.bind, pure, Except.pure, List.filterMap_map]
  rfl

namespace TableSchema

variable {schema : TableSchema} {row : Row} {item : WriteItem}

/-- The record that shows the values of a row outside the key. -/
def restated (schema : TableSchema) (row : Row) : WriteItem :=
  (schema.columns.filter (!·.isPrimaryKey)).map fun column =>
    (column.name, (row.at column).toJson)

/-- A field of the record that restates a row is found in whatever order the fields are. -/
theorem field?_restated (hlawful : schema.Lawful) (hitem : item.Perm (schema.restated row))
    {column : Column} (hcolumn : column ∈ schema.columns) (hkey : column.isPrimaryKey = false) :
    Json.field? column.name item = some (row.at column).toJson := by
  have hnames : (item.map (·.1)).Nodup := by
    refine (hitem.map (·.1)).nodup_iff.mpr ?_
    rw [restated, List.map_map]
    exact hlawful.names.sublist (List.filter_sublist.map _)
  refine (lookup_eq_some_iff_mem hnames).mpr (hitem.mem_iff.mpr ?_)
  exact List.mem_map_of_mem (List.mem_filter.mpr ⟨hcolumn, by simp [hkey]⟩)

/-- A record that restates a row of retained values is valid, and what is kept of it are values of
the row. -/
theorem validate_restated (hlawful : schema.Lawful) (hfits : schema.Fits row)
    (hretains : ∀ column ∈ schema.columns, column.Retains (row.at column))
    (hitem : item.Perm (schema.restated row)) (number : Nat) :
    ∃ values, (RecordRules.of schema).validate number item = .ok values ∧
      ∀ given ∈ values, ∃ column ∈ schema.columns, given = (.of schema column, row.at column) := by
  have hknown : ∀ field ∈ item, (RecordRules.of schema).knows field.1 = true := by
    intro field hfield
    obtain ⟨column, hcolumn, rfl⟩ := List.mem_map.mp (hitem.mem_iff.mp hfield)
    exact List.any_eq_true.mpr ⟨_, List.mem_map_of_mem hcolumn, beq_self_eq_true column.name⟩
  -- a rule finds the value of its column at the position that the column names
  let result (rule : FieldRule) : Option (ColumnRef × Value) :=
    if rule.leavesToDefault (row.getD rule.column.index .null) then none
    else some (rule.column, row.getD rule.column.index .null)
  have happly : ∀ rule ∈ RecordRules.of schema, rule.apply number item = .ok (result rule) := by
    intro rule hrule
    obtain ⟨column, hcolumn, rfl⟩ := List.mem_map.mp hrule
    obtain ⟨hmem, hkey⟩ := List.mem_filter.mp hcolumn
    exact FieldRule.apply_toJson (hfits.admits column hmem) (hretains column hmem)
      (field?_restated hlawful hitem hmem (by simpa using hkey))
  refine ⟨_, RecordRules.validate_of_apply hknown happly, fun given hgiven => ?_⟩
  obtain ⟨rule, hrule, hresult⟩ := List.mem_filterMap.mp hgiven
  obtain ⟨column, hcolumn, rfl⟩ := List.mem_map.mp hrule
  refine ⟨column, List.mem_of_mem_filter hcolumn, ?_⟩
  simp only [result] at hresult
  split at hresult
  · cases hresult
  · exact (Option.some.inj hresult).symm

end TableSchema

end Tabula
