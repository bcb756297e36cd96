import Tabula.Proofs.Schema.Lawful
import Tabula.Proofs.Value.Types
import Tabula.Schema.Declaration

/-!
# Descriptions of declared tables

At every moment the draft of a description can be read off the columns that have been taken. So one
step of the loop is the check of one column, and the whole loop gives the description of the schema
that the store makes of the declaration, or the same error. When a declaration is accepted and what
its description says follows from the laws of schemas.
-/

namespace Tabula

namespace DescriptionDraft

/-- The draft when the given columns have been taken. -/
def ofColumns (taken : List Column) : DescriptionDraft :=
  ⟨taken.map Column.described, (taken.filter (·.isPrimaryKey)).map (·.index)⟩

variable {earlier : List String} {taken : List Column}

/-- Adding a column to a draft is taking it at the next position. -/
theorem append_ofColumns (taken : List Column) (declared : ColumnDeclaration) :
    (ofColumns taken).append declared.settled =
      ofColumns (taken ++ [⟨declared.spec, taken.length⟩]) := by
  have hcolumn : (⟨declared.settled, taken.length⟩ : DescribedColumn) =
      Column.described ⟨declared.spec, taken.length⟩ := rfl
  have hkey : declared.settled.marks.isPrimaryKey = declared.spec.isPrimaryKey := rfl
  cases h : declared.spec.isPrimaryKey <;> simp [append, ofColumns, hcolumn, hkey, h]

/-- One step: a column is taken if it passes its check after those before it, and refused with the
same error otherwise. -/
theorem add_ofColumns (hearlier : ∀ name, name ∈ earlier ↔ name ∈ taken.map (·.name))
    (declared : ColumnDeclaration) :
    (ofColumns taken).add declared =
      (declared.spec.check earlier).map fun _ =>
        ofColumns (taken ++ [⟨declared.spec, taken.length⟩]) := by
  have hname : (ofColumns taken).columns.any (·.name == declared.settled.name) = true ↔
      declared.spec.name ∈ earlier := by
    rw [hearlier]
    simp [ofColumns, Column.described, ColumnDeclaration.settled, ColumnDeclaration.spec]
  have hnumbered : (declared.settled.marks.isAutoIncrement &&
      (declared.settled.type != .int || !declared.settled.marks.isPrimaryKey)) =
      (declared.spec.isAutoIncrement &&
        !(declared.spec.type == .int && declared.spec.isPrimaryKey)) := by
    rw [Bool.not_and]
    rfl
  have hdefault : (declared.settled.default.any fun value =>
      !value.isNull && !value.hasType declared.settled.type) = !declared.spec.defaultFits := by
    unfold ColumnSpec.defaultFits ColumnDeclaration.settled ColumnDeclaration.spec
    cases declared.default <;> simp
  simp only [add, ColumnSpec.check, hname, hnumbered, hdefault, append_ofColumns]
  split
  · rfl
  · split
    · rfl
    · split <;> rfl

/-- The whole loop: the columns are taken as those of a schema are made, from the position that
comes next. -/
theorem foldlM_add_ofColumns (hearlier : ∀ name, name ∈ earlier ↔ name ∈ taken.map (·.name))
    (declared : List ColumnDeclaration) :
    declared.foldlM add (ofColumns taken) =
      (TableSchema.columnsOf taken.length earlier (declared.map (·.spec))).map fun columns =>
        ofColumns (taken ++ columns) := by
  induction declared generalizing earlier taken with
  | nil => simp [TableSchema.columnsOf, Except.map, pure, Except.pure]
  | cons first rest ih =>
    rw [List.foldlM_cons, add_ofColumns hearlier, List.map_cons, TableSchema.columnsOf]
    cases hcheck : first.spec.check earlier with
    | error error => rfl
    | ok _ =>
      let column : Column := ⟨first.spec, taken.length⟩
      have hnext : ∀ name, name ∈ first.spec.name :: earlier ↔
          name ∈ (taken ++ [column]).map (·.name) := by
        intro name
        simp [hearlier, column, or_comm]
      have hlength : (taken ++ [column]).length = taken.length + 1 := by simp
      have hrest := ih hnext
      rw [hlength] at hrest
      simp only [Except.map, bind, Except.bind] at hrest ⊢
      rw [hrest]
      cases TableSchema.columnsOf (taken.length + 1) (first.spec.name :: earlier)
        (rest.map (·.spec)) with
      | error error => rfl
      | ok columns => simp [column, pure, Except.pure]

end DescriptionDraft

namespace TableDescription

/-- A declaration is described as its schema is, and refused with the same error. -/
theorem ofDeclaration_eq_map (database : String) (declaration : TableDeclaration) :
    ofDeclaration database declaration =
      (TableSchema.ofSpec database declaration.spec).map TableSchema.described := by
  have hloop : declaration.columns.foldlM DescriptionDraft.add .empty =
      (TableSchema.columnsOf 0 [] declaration.spec.columns).map DescriptionDraft.ofColumns :=
    @DescriptionDraft.foldlM_add_ofColumns [] [] (by simp) declaration.columns
  rw [ofDeclaration, hloop, TableSchema.ofSpec]
  cases TableSchema.columnsOf 0 [] declaration.spec.columns with
  | error error => rfl
  | ok columns =>
    have hcondition : (decide (1 < (DescriptionDraft.ofColumns columns).primaryKey.length) &&
        (DescriptionDraft.ofColumns columns).columns.any (·.marks.isAutoIncrement)) =
        (decide (1 < (columns.filter (·.isPrimaryKey)).length) &&
          columns.any (·.isAutoIncrement)) := by
      simp [DescriptionDraft.ofColumns, Column.described, Function.comp_def]
    simp only [Except.map, bind, Except.bind, hcondition]
    -- The condition on the right is the same one, on the key of the schema.
    by_cases h : (decide (1 < (columns.filter (·.isPrimaryKey)).length) &&
        columns.any (·.isAutoIncrement)) = true
    · rw [if_pos h, if_pos (by exact h)]
      rfl
    · rw [if_neg h, if_neg (by exact h)]
      rfl

end TableDescription

/-! ### Lawful declarations -/

/-- Whether a declared column is lawful by itself: numbered only as an integer key, and with a
default that is null or has its type. -/
structure ColumnDeclaration.Lawful (declared : ColumnDeclaration) : Prop where
  numbered : declared.marks.isAutoIncrement = true →
    declared.type = .int ∧ declared.marks.isPrimaryKey = true
  default : ∀ value, declared.default = some value →
    value = .null ∨ value.hasType declared.type = true

/-- Whether a declaration is lawful: names differ, each column is lawful by itself, and with a
numbered column there is at most one key column. -/
@[mk_iff]
structure TableDeclaration.Lawful (declaration : TableDeclaration) : Prop where
  names : (declaration.columns.map (·.name)).Nodup
  columns : ∀ declared ∈ declaration.columns, declared.Lawful
  singleKey : (∃ declared ∈ declaration.columns, declared.marks.isAutoIncrement = true) →
    (declaration.columns.filter (·.marks.isPrimaryKey)).length ≤ 1

/-- A column is lawful whether or not it has a mark for its default. -/
theorem ColumnDeclaration.lawful_spec_iff {declared : ColumnDeclaration} :
    declared.spec.Lawful ↔ declared.Lawful := by
  have hdefault : declared.spec.defaultFits = true ↔
      ∀ value, declared.default = some value →
        value = .null ∨ value.hasType declared.type = true := by
    rw [ColumnSpec.defaultFits, spec]
    cases declared.default <;> simp [Value.isNull_iff]
  exact ⟨fun h => ⟨h.numbered, hdefault.mp h.defaultFits⟩,
    fun h => ⟨h.numbered, hdefault.mpr h.default⟩⟩

/-- A table is lawful whether or not its columns have marks for their defaults. -/
theorem TableDeclaration.lawful_spec_iff {declaration : TableDeclaration} :
    declaration.spec.Lawful ↔ declaration.Lawful := by
  have hnames : declaration.spec.columns.map (·.name) = declaration.columns.map (·.name) :=
    List.map_map
  have hcolumns : (∀ column ∈ declaration.spec.columns, column.Lawful) ↔
      ∀ declared ∈ declaration.columns, declared.Lawful := by
    simp [spec, ColumnDeclaration.lawful_spec_iff]
  have hnumbered : (∃ column ∈ declaration.spec.columns, column.isAutoIncrement = true) ↔
      ∃ declared ∈ declaration.columns, declared.marks.isAutoIncrement = true := by
    simp [spec, ColumnDeclaration.spec]
  have hkeys : (declaration.spec.columns.filter (·.isPrimaryKey)).length =
      (declaration.columns.filter (·.marks.isPrimaryKey)).length := by
    rw [spec, List.filter_map, List.length_map]
    rfl
  rw [TableSpec.lawful_iff, lawful_iff, hnames, hcolumns, hnumbered, hkeys]

/-! ### What a description says -/

/-- A described column is as it was declared, with the right mark for its default. -/
structure DescribedColumn.Describes (column : DescribedColumn) (declared : ColumnDeclaration) :
    Prop where
  name : column.name = declared.name
  type : column.type = declared.type
  default : column.default = declared.default
  maxLength : column.maxLength = declared.maxLength
  isNullable : column.marks.isNullable = declared.marks.isNullable
  isPrimaryKey : column.marks.isPrimaryKey = declared.marks.isPrimaryKey
  isAutoIncrement : column.marks.isAutoIncrement = declared.marks.isAutoIncrement
  hasDefault : column.marks.hasDefault = true ↔ ∃ value, declared.default = some value

/-- A description has the declared columns in their order, each knows its position, and the
positions of the key columns are listed in order. -/
structure TableDescription.Describes (description : TableDescription) (database : String)
    (declaration : TableDeclaration) : Prop where
  database : description.database = database
  name : description.name = declaration.name
  columns : List.Forall₂ DescribedColumn.Describes description.columns declaration.columns
  index : ∀ (i : Nat) (column : DescribedColumn),
    description.columns[i]? = some column → column.index = i
  primaryKey : ∀ i, i ∈ description.primaryKey ↔
    ∃ column, description.columns[i]? = some column ∧ column.marks.isPrimaryKey = true
  ascending : description.primaryKey.Pairwise (· < ·)
  keyColumns : description.keyColumns = description.columns.filter (·.marks.isPrimaryKey)
  numbered : (description.columns.filter (·.marks.isAutoIncrement)).length ≤ 1

namespace TableSchema.Lawful

variable {schema : TableSchema}

/-- The positions listed as the key are those of the key columns. -/
theorem mem_primaryKey_described (h : schema.Lawful) {i : Nat} :
    i ∈ schema.described.primaryKey ↔ ∃ column, schema.described.columns[i]? = some column ∧
      column.marks.isPrimaryKey = true := by
  simp only [described, primaryKey, List.mem_map, List.mem_filter, List.getElem?_map,
    Option.map_eq_some_iff]
  constructor
  · rintro ⟨column, ⟨hcolumn, hkey⟩, rfl⟩
    exact ⟨column.described, ⟨column, h.getElem?_index hcolumn, rfl⟩, hkey⟩
  · rintro ⟨_, ⟨column, hcolumn, rfl⟩, hkey⟩
    exact ⟨column, ⟨List.mem_of_getElem? hcolumn, hkey⟩, h.index i column hcolumn⟩

/-- The positions of the key are listed in order. -/
theorem pairwise_primaryKey_described (h : schema.Lawful) :
    schema.described.primaryKey.Pairwise (· < ·) :=
  List.pairwise_map.mpr (h.pairwise_index_lt.filter _)

/-- The columns at the positions of the key are the key columns. -/
theorem keyColumns_described (h : schema.Lawful) :
    schema.described.keyColumns = schema.primaryKey.map Column.described := by
  have hcolumn : ∀ column ∈ schema.primaryKey,
      schema.described.columns[column.index]? = some column.described := by
    intro column hmem
    rw [described, List.getElem?_map, h.getElem?_index (List.mem_of_mem_filter hmem),
      Option.map_some]
  change (schema.primaryKey.map (·.index)).filterMap (schema.described.columns[·]?) = _
  rw [List.filterMap_map, ← List.filterMap_eq_map]
  exact List.filterMap_congr hcolumn

/-- The only key column is found by its position. -/
theorem singleKey?_described (h : schema.Lawful) :
    schema.described.singleKey? = schema.singleKey?.map Column.described := by
  have hkeys : schema.described.primaryKey = schema.primaryKey.map (·.index) := rfl
  rw [TableDescription.singleKey?, TableSchema.singleKey?, hkeys]
  cases hkey : schema.primaryKey with
  | nil => rfl
  | cons column others =>
    cases others with
    | nil =>
      have hcolumn : column ∈ schema.columns :=
        List.mem_of_mem_filter (hkey ▸ List.mem_singleton_self column)
      simp [described, h.getElem?_index hcolumn]
    | cons other rest => rfl

end TableSchema.Lawful

/-- A column with its mark set says what was declared. -/
theorem DescribedColumn.describes_settled (declared : ColumnDeclaration) (index : Nat) :
    DescribedColumn.Describes ⟨declared.settled, index⟩ declared where
  name := rfl
  type := rfl
  default := rfl
  maxLength := rfl
  isNullable := rfl
  isPrimaryKey := rfl
  isAutoIncrement := rfl
  hasDefault := Option.isSome_iff_exists

namespace TableDescription

variable {database : String} {declaration : TableDeclaration}

/-- The columns of a description are the declared ones with their marks set and their positions. -/
theorem columns_described (database : String) (declaration : TableDeclaration) :
    (declaration.spec.schemaIn database).described.columns =
      declaration.columns.mapIdx fun i declared => ⟨declared.settled, i⟩ := by
  apply List.ext_getElem
  · simp [TableSchema.described, TableSpec.schemaIn, TableDeclaration.spec]
  · intro i _ _
    simp only [TableSchema.described, TableSpec.schemaIn, TableDeclaration.spec, List.getElem_map,
      List.getElem_mapIdx]
    rfl

/-- The description of a lawful schema says what was declared. -/
theorem describes_described (h : (declaration.spec.schemaIn database).Lawful) :
    (declaration.spec.schemaIn database).described.Describes database declaration where
  database := rfl
  name := rfl
  columns := by
    rw [columns_described, List.forall₂_iff_get]
    refine ⟨List.length_mapIdx, fun i hi hi' => ?_⟩
    simp only [List.get_eq_getElem, List.getElem_mapIdx]
    exact DescribedColumn.describes_settled _ i
  index i column hcolumn := by
    rw [columns_described, List.getElem?_mapIdx, Option.map_eq_some_iff] at hcolumn
    obtain ⟨_, -, rfl⟩ := hcolumn
    rfl
  primaryKey _ := h.mem_primaryKey_described
  ascending := h.pairwise_primaryKey_described
  keyColumns := by
    rw [h.keyColumns_described, TableSchema.described, List.filter_map]
    rfl
  numbered := by
    rw [TableSchema.described, List.filter_map, List.length_map]
    exact h.length_numbered_le_one

/-- A declaration is accepted exactly if it is lawful, with the description of its schema. -/
theorem ofDeclaration_eq_ok_iff {description : TableDescription} :
    ofDeclaration database declaration = .ok description ↔
      declaration.Lawful ∧ description = (declaration.spec.schemaIn database).described := by
  rw [ofDeclaration_eq_map, ← TableDeclaration.lawful_spec_iff]
  cases hschema : TableSchema.ofSpec database declaration.spec with
  | error error =>
    have hunlawful : ¬declaration.spec.Lawful := fun hlawful => by
      simp [TableSchema.ofSpec_eq_ok_iff.mpr ⟨hlawful, rfl⟩] at hschema
    simp [Except.map, hunlawful]
  | ok schema =>
    obtain ⟨hlawful, rfl⟩ := TableSchema.ofSpec_eq_ok_iff.mp hschema
    simp [Except.map, hlawful, eq_comm]

/-- A declaration is accepted exactly if it is lawful, and its description then has the declared
columns in their order, with positions, marks and key that agree. -/
theorem accepted_iff_lawful_and_describes (database : String) (declaration : TableDeclaration) :
    ((∃ description, ofDeclaration database declaration = .ok description) ↔
        declaration.Lawful) ∧
      ∀ description, ofDeclaration database declaration = .ok description →
        description.Describes database declaration := by
  simp only [ofDeclaration_eq_ok_iff]
  refine ⟨⟨fun ⟨_, hlawful, _⟩ => hlawful, fun hlawful => ⟨_, hlawful, rfl⟩⟩, ?_⟩
  rintro _ ⟨hlawful, rfl⟩
  have hschema := TableSchema.ofSpec_eq_ok_iff.mpr
    ⟨TableDeclaration.lawful_spec_iff.mpr hlawful, @rfl _ (declaration.spec.schemaIn database)⟩
  exact describes_described (TableSchema.lawful_of_ofSpec hschema).1

/-- The nights of the guests of a hotel, with two wrong marks for defaults. -/
def nightDeclaration : TableDeclaration where
  name := "nights"
  columns := [
    ⟨"room", .text, ⟨false, true, false, false⟩, none, some 4⟩,
    ⟨"guest", .text, ⟨true, false, true, false⟩, none, none⟩,
    ⟨"day", .date, ⟨false, true, false, false⟩, none, none⟩,
    ⟨"paid", .bool, ⟨false, false, false, false⟩, some (.bool false), none⟩]

/-- The nights are accepted with a key of two columns that are no neighbours, and the marks are
corrected. -/
theorem accepted_nights :
    nightDeclaration.Lawful ∧
      ∃ description, ofDeclaration "hotel" nightDeclaration = .ok description ∧
        description.Describes "hotel" nightDeclaration ∧ description.primaryKey = [0, 2] ∧
        description.columns.map (·.marks.hasDefault) = [false, false, false, true] := by
  obtain ⟨haccepted, hdescribes⟩ := accepted_iff_lawful_and_describes "hotel" nightDeclaration
  exact ⟨haccepted.mp ⟨_, rfl⟩, _, rfl, hdescribes _ rfl, rfl, rfl⟩

end TableDescription

end Tabula
