import Tabula.Proofs.Table.Integrity

/-!
# What records are compiled into

Validating a record keeps values for some columns outside the key, in the order of the columns. So
a compiled statement never writes a column of the key, and never a column twice. Records are
compiled one by one: there is a statement for each, with the values that were kept for it.
-/

namespace Tabula

variable {schema : TableSchema}

/-! ### Validation -/

/-- A rule keeps the value of its field, if that can be read, is not too long and is not left to
the default. -/
theorem FieldRule.apply_eq_some {rule : FieldRule} {number : Nat} {item : WriteItem}
    {kept : ColumnRef × Value} (h : rule.apply number item = .ok (some kept)) :
    ∃ json, Json.field? rule.column.name item = some json ∧
      rule.valueOf number json = .ok kept.2 ∧ rule.exceeds kept.2 = none ∧
      rule.leavesToDefault kept.2 = false ∧ kept.1 = rule.column := by
  unfold FieldRule.apply at h
  split at h
  · split at h <;> cases h
  · rename_i json hfield
    obtain ⟨value, hvalue, h⟩ := bind_eq_ok_iff.mp h
    split at h
    · cases h
    · rename_i hshort
      simp only [pure, Except.pure, Except.ok.injEq] at h
      split at h
      · cases h
      · rename_i hleft
        cases h
        exact ⟨json, hfield, hvalue, hshort, Bool.eq_false_iff.mpr hleft, rfl⟩

/-- A value that a rule keeps is kept for the column of the rule. -/
theorem FieldRule.column_of_apply {rule : FieldRule} {number : Nat} {item : WriteItem}
    {kept : ColumnRef × Value} (h : rule.apply number item = .ok (some kept)) :
    kept.1 = rule.column := by
  obtain ⟨-, -, -, -, -, hcolumn⟩ := FieldRule.apply_eq_some h
  exact hcolumn

/-- A text exceeds no bound if it is no longer than its column takes. -/
theorem FieldRule.exceeds_text_eq_none_iff {schema : TableSchema} {column : Column}
    {text : String} :
    (FieldRule.of schema column).exceeds (.text text) = none ↔
      ∀ maxLength, column.maxLength = some maxLength → text.length ≤ maxLength.toNat := by
  simp [FieldRule.exceeds, FieldRule.of, Option.filter_eq_none_iff]

/-- Validation applies every rule and collects what they keep. -/
theorem RecordRules.validate_eq_ok {rules : RecordRules} {number : Nat} {item : WriteItem}
    {values : List (ColumnRef × Value)} (h : rules.validate number item = .ok values) :
    ∃ results,
      List.Forall₂ (fun rule result => FieldRule.apply rule number item = .ok result)
        rules results ∧
      values = results.filterMap id := by
  unfold RecordRules.validate at h
  split at h
  · cases h
  · obtain ⟨results, hresults, h⟩ := bind_eq_ok_iff.mp h
    cases h
    exact ⟨results, mapM_eq_ok_iff.mp hresults, rfl⟩

/-- The kept values are for columns of the rules, in their order and each at most once. -/
theorem RecordRules.sublist_of_validate {rules : RecordRules} {number : Nat} {item : WriteItem}
    {values : List (ColumnRef × Value)} (h : rules.validate number item = .ok values) :
    (values.map (·.1)).Sublist (rules.map (·.column)) := by
  obtain ⟨results, hresults, rfl⟩ := RecordRules.validate_eq_ok h
  clear h
  induction hresults with
  | nil => exact List.Sublist.refl _
  | cons hresult hrest ih =>
    rename_i rule result _ _
    cases result with
    | none => exact List.Sublist.cons _ ih
    | some kept =>
      simp only [List.filterMap_cons, id, List.map_cons, FieldRule.column_of_apply hresult]
      exact List.Sublist.cons_cons _ ih

/-- The rules of a schema are for its columns outside the key. -/
theorem RecordRules.map_column_of (schema : TableSchema) :
    (RecordRules.of schema).map (·.column) =
      (schema.columns.filter (!·.isPrimaryKey)).map (ColumnRef.of schema) := by
  rw [RecordRules.of, List.map_map]
  rfl

/-- Every kept value is one that the rule of a column outside the key keeps. -/
theorem RecordRules.exists_apply_of_validate {number : Nat} {item : WriteItem}
    {values : List (ColumnRef × Value)}
    (h : (RecordRules.of schema).validate number item = .ok values) {given : ColumnRef × Value}
    (hgiven : given ∈ values) :
    ∃ column ∈ schema.columns, column.isPrimaryKey = false ∧
      (FieldRule.of schema column).apply number item = .ok (some given) := by
  obtain ⟨results, hresults, rfl⟩ := RecordRules.validate_eq_ok h
  obtain ⟨result, hresult, rfl⟩ := List.mem_filterMap.mp hgiven
  obtain ⟨rule, hrule, happly⟩ := exists_of_mem_right hresults hresult
  obtain ⟨column, hcolumn, rfl⟩ := List.mem_map.mp hrule
  obtain ⟨hmem, hkey⟩ := List.mem_filter.mp hcolumn
  exact ⟨column, hmem, by simpa using hkey, happly⟩

/-- Every kept value is for a column outside the key. -/
theorem RecordRules.exists_column_of_validate {number : Nat} {item : WriteItem}
    {values : List (ColumnRef × Value)}
    (h : (RecordRules.of schema).validate number item = .ok values) {given : ColumnRef × Value}
    (hgiven : given ∈ values) :
    ∃ column ∈ schema.columns, column.isPrimaryKey = false ∧
      given.1 = ColumnRef.of schema column := by
  obtain ⟨column, hmem, hkey, happly⟩ := RecordRules.exists_apply_of_validate h hgiven
  exact ⟨column, hmem, hkey, FieldRule.column_of_apply happly⟩

/-- Kept values are off the key. -/
theorem RecordRules.offKey_of_validate (hlawful : schema.Lawful) {number : Nat} {item : WriteItem}
    {values : List (ColumnRef × Value)}
    (h : (RecordRules.of schema).validate number item = .ok values) : schema.OffKey values := by
  intro given hgiven column hfound
  obtain ⟨own, hown, hkey, href⟩ := RecordRules.exists_column_of_validate h hgiven
  rw [href, ColumnRef.of, hlawful.column?_name hown, Option.some.injEq] at hfound
  exact hfound ▸ hkey

/-- What is kept of a list of records is kept of one of them. -/
theorem RecordRules.exists_item_of_mem_kept {rules : RecordRules} {items : List WriteItem}
    {kept : List (List (ColumnRef × Value))} (h : items.mapIdx rules.validate = kept.map .ok)
    {values : List (ColumnRef × Value)} (hvalues : values ∈ kept) :
    ∃ number, ∃ item ∈ items, rules.validate number item = .ok values := by
  have hmem : .ok values ∈ items.mapIdx rules.validate := h ▸ List.mem_map_of_mem hvalues
  obtain ⟨number, hnumber, hvalidate⟩ := List.mem_mapIdx.mp hmem
  exact ⟨number, items[number], List.getElem_mem hnumber, hvalidate⟩

/-- What is kept of a list of records is kept of some record. -/
theorem RecordRules.exists_of_mem_kept {rules : RecordRules} {items : List WriteItem}
    {kept : List (List (ColumnRef × Value))} (h : items.mapIdx rules.validate = kept.map .ok)
    {values : List (ColumnRef × Value)} (hvalues : values ∈ kept) :
    ∃ number item, rules.validate number item = .ok values := by
  obtain ⟨number, item, -, hvalidate⟩ := RecordRules.exists_item_of_mem_kept h hvalues
  exact ⟨number, item, hvalidate⟩

/-! ### Statements -/

namespace WriteStatement

/-- The statement that writes the values of one record: it inserts a row, or updates the row that
has the given key. -/
def ofValues (schema : TableSchema) (key : Option (ColumnRef × Value))
    (values : List (ColumnRef × Value)) : WriteStatement :=
  match key with
  | none => .insert ⟨schema.database, schema.name, values⟩
  | some (column, value) => .update ⟨schema.database, schema.name, column, value, values⟩

/-- Records are compiled if all of them are valid, each into the statement of its values. -/
theorem compileItems_eq_ok_iff {key : Option (ColumnRef × Value)} {number : Nat}
    {items : List WriteItem} {statements : List WriteStatement} :
    compileItems schema key number items = .ok statements ↔
      ∃ kept : List (List (ColumnRef × Value)),
        items.mapIdx (fun i item => (RecordRules.of schema).validate (number + i) item) =
          kept.map .ok ∧
        statements = kept.map (ofValues schema key) := by
  induction items generalizing number statements with
  | nil => simp [compileItems, eq_comm]
  | cons item rest ih =>
    have hshift :
        rest.mapIdx (fun i item => (RecordRules.of schema).validate (number + (i + 1)) item) =
          rest.mapIdx fun i item => (RecordRules.of schema).validate (number + 1 + i) item :=
      congrArg (List.mapIdx · rest) (funext₂ fun i _ => by rw [Nat.add_assoc, Nat.add_comm 1])
    simp only [compileItems, bind_eq_ok_iff, ih, List.mapIdx_cons, Nat.add_zero, hshift]
    constructor
    · rintro ⟨values, hvalues, others, ⟨kept, hkept, rfl⟩, hstatements⟩
      cases hstatements
      exact ⟨values :: kept, by rw [hvalues, hkept, List.map_cons], rfl⟩
    · rintro ⟨kept, hkept, rfl⟩
      cases kept with
      | nil => simp at hkept
      | cons values kept =>
        rw [List.map_cons, List.cons.injEq] at hkept
        exact ⟨values, hkept.1, kept.map (ofValues schema key), ⟨kept, hkept.2, rfl⟩, rfl⟩

/-- A compiled request has a statement for each record: all insert, or the only one updates. -/
theorem compile_eq_ok {recordId : Option Value} {items : List WriteItem}
    {statements : List WriteStatement} (h : compile schema recordId items = .ok statements) :
    ∃ (key : Option (ColumnRef × Value)) (kept : List (List (ColumnRef × Value))),
      items.mapIdx (RecordRules.of schema).validate = kept.map .ok ∧
        statements = kept.map (ofValues schema key) ∧ (recordId = none → key = none) := by
  have hzero : (fun i item => (RecordRules.of schema).validate (0 + i) item) =
      (RecordRules.of schema).validate :=
    funext₂ fun i item => by rw [Nat.zero_add]
  have hitems {key : Option (ColumnRef × Value)}
      (hcompile : compileItems schema key 0 items = .ok statements) :
      ∃ kept : List (List (ColumnRef × Value)),
        items.mapIdx (RecordRules.of schema).validate = kept.map .ok ∧
          statements = kept.map (ofValues schema key) := by
    obtain ⟨kept, hkept, hstatements⟩ := compileItems_eq_ok_iff.mp hcompile
    rw [hzero] at hkept
    exact ⟨kept, hkept, hstatements⟩
  unfold compile at h
  cases recordId with
  | none =>
    obtain ⟨kept, hkept, hstatements⟩ := hitems h
    exact ⟨none, kept, hkept, hstatements, fun _ => rfl⟩
  | some id =>
    simp only at h
    split at h
    · cases h
    · cases h
    · obtain ⟨key, -, h⟩ := bind_eq_ok_iff.mp h
      obtain ⟨kept, hkept, hstatements⟩ := hitems h
      exact ⟨some key, kept, hkept, hstatements, fun hid => by cases hid⟩

end WriteStatement

end Tabula
