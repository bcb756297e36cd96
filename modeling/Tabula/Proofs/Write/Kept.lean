import Tabula.Proofs.Value.Types
import Tabula.Proofs.Write.NewRows

/-!
# Values that are kept

The values that validation keeps of a record have the types of their columns, and are null only
where a column admits that. So the store finds nothing wrong with them, and in the new row of a
record only a column for which nothing was kept can be null without having a place for it.
-/

namespace Tabula

/-! ### What is kept -/

/-- The value that is read from a field is null where the rule has a place for that, or else it is
converted to the type of the column. -/
theorem FieldRule.valueOf_cases {rule : FieldRule} {number : Nat} {json : Json} {value : Value}
    (h : rule.valueOf number json = .ok value) :
    ∃ given, Value.ofJson json = .ok given ∧
      (given = .null ∧ value = .null ∧ (rule.nullable = true ∨ rule.hasDefault = true) ∨
        given.coerce? rule.column.type = some value) := by
  unfold FieldRule.valueOf at h
  split at h
  · cases h
  · rename_i given hgiven
    refine ⟨given, hgiven, ?_⟩
    split at h
    · rename_i hnull
      split at h
      · cases h
      · rename_i hplace
        cases h
        rw [Value.isNull_iff.mp hnull]
        refine Or.inl ⟨rfl, rfl, ?_⟩
        cases hnullable : rule.nullable <;> simp_all
    · split at h
      · cases h
      · rename_i hcoerce
        cases h
        exact Or.inr hcoerce

/-- The value that is read from a field has the type of the column, or is null and the rule has a
place for that. -/
theorem FieldRule.valueOf_eq_ok {rule : FieldRule} {number : Nat} {json : Json} {value : Value}
    (h : rule.valueOf number json = .ok value) :
    value.hasType rule.column.type = true ∨
      value.isNull = true ∧ (rule.nullable = true ∨ rule.hasDefault = true) := by
  obtain ⟨given, -, ⟨-, rfl, hplace⟩ | hcoerce⟩ := FieldRule.valueOf_cases h
  · exact Or.inr ⟨rfl, hplace⟩
  · exact Or.inl (Value.hasType_of_coerce? hcoerce)

/-- A value that a rule keeps has the type of the column, or is null where the rule admits that. -/
theorem FieldRule.admits_of_apply {rule : FieldRule} {number : Nat} {item : WriteItem}
    {kept : ColumnRef × Value} (h : rule.apply number item = .ok (some kept)) :
    kept.2.hasType rule.column.type = true ∨ kept.2.isNull = true ∧ rule.nullable = true := by
  obtain ⟨json, -, hvalue, -, hleft, -⟩ := FieldRule.apply_eq_some h
  refine (FieldRule.valueOf_eq_ok hvalue).imp id fun hnull => ⟨hnull.1, ?_⟩
  -- a null on a column with a default would have been left out
  refine hnull.2.resolve_right fun hdefault => ?_
  simp [FieldRule.leavesToDefault, hdefault, Value.isNull_iff.mp hnull.1, Value.isFalsy] at hleft

/-- A rule keeps nothing only if the column has a default or may be left out. -/
theorem FieldRule.hasDefault_of_apply {rule : FieldRule} {number : Nat} {item : WriteItem}
    (h : rule.apply number item = .ok none) : rule.required = false ∨ rule.hasDefault = true := by
  unfold FieldRule.apply at h
  split at h
  · split at h
    · cases h
    · rename_i hrequired
      exact Or.inl (by simpa using hrequired)
  · obtain ⟨value, -, h⟩ := bind_eq_ok_iff.mp h
    split at h
    · cases h
    · simp only [pure, Except.pure, Except.ok.injEq] at h
      split at h
      · rename_i hleft
        simp only [FieldRule.leavesToDefault, Bool.and_eq_true] at hleft
        exact Or.inr hleft.1.1
      · cases h

section Validated

variable {schema : TableSchema} {values : List (ColumnRef × Value)} {number : Nat}
  {item : WriteItem}

/-- A kept value is for a column outside the key, and the column admits it. -/
theorem RecordRules.admits_of_validate
    (h : (RecordRules.of schema).validate number item = .ok values)
    {given : ColumnRef × Value} (hgiven : given ∈ values) :
    ∃ column ∈ schema.columns, given.1 = .of schema column ∧ column.Admits given.2 := by
  obtain ⟨column, hmem, hkey, happly⟩ := RecordRules.exists_apply_of_validate h hgiven
  refine ⟨column, hmem, FieldRule.column_of_apply happly, ?_⟩
  rcases FieldRule.admits_of_apply happly with htype | ⟨hnull, hnullable⟩
  · refine ⟨Or.inr htype, fun hnull => ?_⟩
    rw [Value.isNull_of_hasType htype] at hnull
    cases hnull
  · exact ⟨Or.inl hnull, fun _ => ⟨hnullable, hkey⟩⟩

/-- A column outside the key that admits no null and for which nothing is kept has a default. -/
theorem RecordRules.hasDefault_of_validate
    (h : (RecordRules.of schema).validate number item = .ok values) {column : Column}
    (hcolumn : column ∈ schema.columns) (hkey : column.isPrimaryKey = false)
    (hnullable : column.isNullable = false)
    (hleft : ∀ given ∈ values, given.1 ≠ .of schema column) : column.hasDefault = true := by
  obtain ⟨results, hresults, rfl⟩ := RecordRules.validate_eq_ok h
  have hrule : FieldRule.of schema column ∈ RecordRules.of schema :=
    List.mem_map_of_mem (List.mem_filter.mpr ⟨hcolumn, by simp [hkey]⟩)
  obtain ⟨result, hresult, happly⟩ := exists_of_mem_left hresults hrule
  cases result with
  | some kept =>
    exact absurd (FieldRule.column_of_apply happly)
      (hleft kept (List.mem_filterMap.mpr ⟨some kept, hresult, rfl⟩))
  | none =>
    rcases FieldRule.hasDefault_of_apply happly with hrequired | hdefault
    · simpa [FieldRule.of, hnullable] using hrequired
    · exact hdefault

/-- The store finds nothing wrong with the columns and types of kept values. -/
theorem TableSchema.checkValues_of_validate (hlawful : schema.Lawful)
    (h : (RecordRules.of schema).validate number item = .ok values) :
    ∃ supplied, schema.checkValues values = .ok supplied := by
  refine exists_mapM_eq_ok fun given hgiven => ?_
  obtain ⟨column, hcolumn, href, hadmits⟩ := RecordRules.admits_of_validate h hgiven
  refine ⟨(column, given.2), TableSchema.checkValue_eq_ok_iff.mpr ⟨?_, rfl, hadmits.typed⟩⟩
  rw [href]
  exact hlawful.column?_name hcolumn

/-! ### Nulls of the new row -/

/-- A statement leaves null in a column that has no place for it: a column of the key that is not
numbered and has no default other than null, or a column outside the key for which the statement has
no value, so that its default, which is null, applies. -/
def Column.LeftNull (schema : TableSchema) (values : List (ColumnRef × Value))
    (column : Column) : Prop :=
  (column.isPrimaryKey = true ∧ column.isAutoIncrement = false ∧
    ∀ value, column.default = some value → value = .null) ∨
  (column.isPrimaryKey = false ∧ column.isNullable = false ∧
    (∀ given ∈ values, given.1 ≠ .of schema column) ∧ column.default = some .null)

/-- The new row of a record has in each column what was kept for it or else fills it. -/
theorem TableSchema.at_rowOf (hlawful : schema.Lawful) (next : Int64) {column : Column}
    (hcolumn : column ∈ schema.columns) :
    (schema.rowOf next values).at column = (values.lookup (.of schema column)).getD
      (if column.isAutoIncrement then .int next else column.default.getD .null) := by
  rw [Row.at, rowOf, List.getD_eq_getElem?_getD, List.getElem?_map,
    hlawful.getElem?_index hcolumn]
  rfl

/-- Nothing is kept for a column of the key. -/
theorem RecordRules.lookup_eq_none_of_key (hlawful : schema.Lawful)
    (h : (RecordRules.of schema).validate number item = .ok values) {column : Column}
    (hcolumn : column ∈ schema.columns) (hkey : column.isPrimaryKey = true) :
    values.lookup (.of schema column) = none := by
  refine List.lookup_eq_none_iff.mpr fun given hgiven => ?_
  obtain ⟨own, hown, hoff, href⟩ := RecordRules.exists_column_of_validate h hgiven
  refine bne_iff_ne.mpr fun heq => ?_
  have hname : column.name = own.name := congrArg ColumnRef.name (heq.trans href)
  rw [← hlawful.eq_of_name hcolumn hown hname, hkey] at hoff
  cases hoff

/-- A value that is kept for a column is one that the column admits. -/
theorem RecordRules.admits_of_lookup (hlawful : schema.Lawful)
    (h : (RecordRules.of schema).validate number item = .ok values) {column : Column}
    (hcolumn : column ∈ schema.columns) {value : Value}
    (hlookup : values.lookup (.of schema column) = some value) :
    (ColumnRef.of schema column, value) ∈ values ∧ column.Admits value := by
  have hmem := (lookup_eq_some_iff_mem (RecordRules.nodup_of_validate hlawful h)).mp hlookup
  obtain ⟨own, hown, href, hadmits⟩ := RecordRules.admits_of_validate h hmem
  have hname : column.name = own.name := congrArg ColumnRef.name href
  rw [← hlawful.eq_of_name hcolumn hown hname] at hadmits
  exact ⟨hmem, hadmits⟩

/-- A column of the key is null in the new row of a record exactly if it is left so. -/
theorem TableSchema.leftNull_iff_of_key (hlawful : schema.Lawful)
    (h : (RecordRules.of schema).validate number item = .ok values) (next : Int64)
    {column : Column} (hcolumn : column ∈ schema.columns) (hkey : column.isPrimaryKey = true) :
    column.LeftNull schema values ↔ ((schema.rowOf next values).at column).isNull = true := by
  rw [TableSchema.at_rowOf hlawful next hcolumn,
    RecordRules.lookup_eq_none_of_key hlawful h hcolumn hkey]
  cases hauto : column.isAutoIncrement with
  | true => simp [Column.LeftNull, hkey, hauto, Value.isNull]
  | false =>
    cases hdefault : column.default <;>
      simp [Column.LeftNull, hkey, hauto, hdefault, Value.isNull_iff]

/-- A column outside the key that admits no null is null in the new row of a record exactly if it
is left so. -/
theorem TableSchema.leftNull_iff_of_offKey (hlawful : schema.Lawful)
    (h : (RecordRules.of schema).validate number item = .ok values) (next : Int64)
    {column : Column} (hcolumn : column ∈ schema.columns) (hkey : column.isPrimaryKey = false)
    (hnullable : column.isNullable = false) :
    column.LeftNull schema values ↔ ((schema.rowOf next values).at column).isNull = true := by
  have hauto : column.isAutoIncrement = false := by
    refine Bool.eq_false_iff.mpr fun hauto => ?_
    have hnumbered := ((hlawful.columns column hcolumn).numbered hauto).2
    rw [hkey] at hnumbered
    cases hnumbered
  rw [TableSchema.at_rowOf hlawful next hcolumn]
  cases hlookup : values.lookup (.of schema column) with
  | some value =>
    obtain ⟨hmem, hadmits⟩ := RecordRules.admits_of_lookup hlawful h hcolumn hlookup
    refine iff_of_false ?_ fun hnull => ?_
    · rintro (⟨hpk, -⟩ | ⟨-, -, hleft, -⟩)
      · rw [hkey] at hpk
        cases hpk
      · exact hleft _ hmem rfl
    · have hplace := (hadmits.null hnull).1
      rw [hnullable] at hplace
      cases hplace
  | none =>
    have hleft : ∀ given ∈ values, given.1 ≠ .of schema column := fun given hgiven =>
      (bne_iff_ne.mp (List.lookup_eq_none_iff.mp hlookup given hgiven)).symm
    have hdefault := RecordRules.hasDefault_of_validate h hcolumn hkey hnullable hleft
    obtain ⟨value, hvalue⟩ := Option.isSome_iff_exists.mp hdefault
    simpa [Column.LeftNull, hkey, hauto, hnullable, hvalue, Value.isNull_iff] using
      fun _ column value hgiven => hleft (column, value) hgiven

/-- The new row of a record passes the check for nulls unless a column is left null. -/
theorem TableSchema.checkNulls_rowOf_eq_ok_iff (hlawful : schema.Lawful)
    (h : (RecordRules.of schema).validate number item = .ok values) (next : Int64) :
    schema.checkNulls (schema.rowOf next values) = .ok () ↔
      ¬ ∃ column ∈ schema.columns, column.LeftNull schema values := by
  have hleft : ∀ column ∈ schema.columns, column.LeftNull schema values ↔
      ((schema.rowOf next values).at column).isNull = true ∧ allowsNull column = false := by
    intro column hcolumn
    cases hkey : column.isPrimaryKey with
    | true =>
      rw [TableSchema.leftNull_iff_of_key hlawful h next hcolumn hkey]
      simp [allowsNull, hkey]
    | false =>
      cases hnullable : column.isNullable with
      | true => simp [Column.LeftNull, allowsNull, hkey, hnullable]
      | false =>
        rw [TableSchema.leftNull_iff_of_offKey hlawful h next hcolumn hkey hnullable]
        simp [allowsNull, hnullable]
  rw [TableSchema.checkNulls_eq_ok_iff]
  simp only [not_exists, not_and]
  refine forall₂_congr fun column hcolumn => ?_
  rw [hleft column hcolumn, not_and, Bool.not_eq_false]

end Validated

end Tabula
