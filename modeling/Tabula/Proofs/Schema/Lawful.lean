import Mathlib.Data.List.Nodup
import Tabula.Proofs.Outcome
import Tabula.Schema.Basic

/-!
# Lawful schemas

`TableSchema.ofSpec` accepts only descriptions whose columns have different names, whose defaults
fit and in which only a single integer key is numbered. The schema that it makes has these
properties, and every column knows its own position; so a column can be found by its name and by
its position.
-/

namespace Tabula

/-- Whether a column by itself is lawful: numbered only as an integer key, and with a default that
fits. -/
structure ColumnSpec.Lawful (spec : ColumnSpec) : Prop where
  numbered : spec.isAutoIncrement = true → spec.type = .int ∧ spec.isPrimaryKey = true
  defaultFits : spec.defaultFits = true

/-- A column passes its check if its name is new and it is lawful by itself. -/
theorem ColumnSpec.check_eq_ok_iff {earlier : List String} {spec : ColumnSpec} :
    spec.check earlier = .ok () ↔ spec.name ∉ earlier ∧ spec.Lawful := by
  unfold ColumnSpec.check
  split
  · rename_i hname
    exact iff_of_false (by simp) fun h => h.1 hname
  · rename_i hname
    split
    · rename_i hnumbered
      simp only [Bool.and_eq_true, Bool.not_eq_true', Bool.and_eq_false_iff, beq_eq_false_iff_ne]
        at hnumbered
      refine iff_of_false (by simp) fun h => ?_
      obtain ⟨htype, hkey⟩ := h.2.numbered hnumbered.1
      rcases hnumbered.2 with hne | hne
      · exact hne htype
      · exact absurd hkey (by simp [hne])
    · rename_i hnumbered
      have hlawful : spec.isAutoIncrement = true →
          spec.type = .int ∧ spec.isPrimaryKey = true := by
        simpa [Bool.and_eq_true] using hnumbered
      split
      · rename_i hdefault
        exact iff_of_false (by simp) fun h => by simp [h.2.defaultFits] at hdefault
      · rename_i hdefault
        exact iff_of_true rfl ⟨hname, hlawful, by simpa using hdefault⟩

/-- Whether a description is lawful: names differ, each column is lawful by itself, and a numbered
column is the only key. -/
@[mk_iff]
structure TableSpec.Lawful (spec : TableSpec) : Prop where
  names : (spec.columns.map (·.name)).Nodup
  columns : ∀ column ∈ spec.columns, column.Lawful
  singleKey : (∃ column ∈ spec.columns, column.isAutoIncrement = true) →
    (spec.columns.filter (·.isPrimaryKey)).length ≤ 1

/-- The schema of a description in a database, be it lawful or not. -/
def TableSpec.schemaIn (spec : TableSpec) (database : String) : TableSchema :=
  ⟨database, spec.name, spec.columns.mapIdx fun i column => ⟨column, i⟩⟩

namespace TableSchema

/-- The schema of a description has its columns in their order. -/
theorem specs_schemaIn (spec : TableSpec) (database : String) :
    (spec.schemaIn database).columns.map (·.toColumnSpec) = spec.columns := by
  apply List.ext_getElem <;> simp [TableSpec.schemaIn]

/-- The schema of a description has a column at a position where the description has it. -/
theorem getElem?_schemaIn {spec : TableSpec} {database : String} {i : Nat} {column : Column} :
    (spec.schemaIn database).columns[i]? = some column ↔
      spec.columns[i]? = some column.toColumnSpec ∧ column.index = i := by
  rw [TableSpec.schemaIn, List.getElem?_mapIdx, Option.map_eq_some_iff]
  constructor
  · rintro ⟨own, hown, rfl⟩
    exact ⟨hown, rfl⟩
  · rintro ⟨hown, rfl⟩
    exact ⟨_, hown, rfl⟩

/-- The columns of a description carry its columns with their positions, if their names are new
and different and each column is lawful by itself. -/
theorem columnsOf_eq_ok_iff {index : Nat} {earlier : List String} {specs : List ColumnSpec}
    {columns : List Column} :
    columnsOf index earlier specs = .ok columns ↔
      columns = specs.mapIdx (fun i spec => ⟨spec, index + i⟩) ∧
        (specs.map (·.name)).Nodup ∧ ∀ spec ∈ specs, spec.name ∉ earlier ∧ spec.Lawful := by
  induction specs generalizing index earlier columns with
  | nil => simp [columnsOf, eq_comm]
  | cons spec rest ih =>
    have hshift : rest.mapIdx (fun i spec => (⟨spec, index + (i + 1)⟩ : Column)) =
        rest.mapIdx fun i spec => ⟨spec, index + 1 + i⟩ :=
      congrArg (List.mapIdx · rest) (funext₂ fun i _ => by rw [Nat.add_assoc, Nat.add_comm 1])
    simp only [columnsOf, bind_eq_ok_iff, ih, List.mapIdx_cons, List.map_cons,
      List.nodup_cons, List.forall_mem_cons, Nat.add_zero, hshift]
    constructor
    · rintro ⟨_, hcheck, others, ⟨rfl, hnodup, hrest⟩, hcolumns⟩
      obtain ⟨hname, hlawful⟩ := ColumnSpec.check_eq_ok_iff.mp hcheck
      cases hcolumns
      refine ⟨rfl, ⟨?_, hnodup⟩, ⟨hname, hlawful⟩, fun other hother => ?_⟩
      · intro hmem
        obtain ⟨other, hother, heq⟩ := List.mem_map.mp hmem
        exact (hrest other hother).1 (heq ▸ List.mem_cons_self)
      · exact ⟨fun hmem => (hrest other hother).1 (List.mem_cons_of_mem _ hmem),
          (hrest other hother).2⟩
    · rintro ⟨rfl, ⟨hnew, hnodup⟩, ⟨hname, hlawful⟩, hrest⟩
      refine ⟨(), ColumnSpec.check_eq_ok_iff.mpr ⟨hname, hlawful⟩, _, ⟨rfl, hnodup, ?_⟩, rfl⟩
      intro other hother
      refine ⟨?_, (hrest other hother).2⟩
      rw [List.mem_cons, not_or]
      exact ⟨fun heq => hnew (heq ▸ List.mem_map_of_mem hother), (hrest other hother).1⟩

/-- A schema of which every look-up can be trusted: columns stand at the positions that they name,
have different names and are lawful by themselves, and a numbered column is the only key. -/
structure Lawful (schema : TableSchema) : Prop where
  index : ∀ (i : Nat) (column : Column), schema.columns[i]? = some column → column.index = i
  names : (schema.columns.map (·.name)).Nodup
  columns : ∀ column ∈ schema.columns, column.toColumnSpec.Lawful
  singleKey : (∃ column ∈ schema.columns, column.isAutoIncrement = true) →
    schema.primaryKey.length ≤ 1

/-- A description is accepted exactly if it is lawful. -/
theorem ofSpec_eq_ok_iff {database : String} {spec : TableSpec} {schema : TableSchema} :
    ofSpec database spec = .ok schema ↔ spec.Lawful ∧ schema = spec.schemaIn database := by
  have hkeys : (spec.schemaIn database).primaryKey.length =
      (spec.columns.filter (·.isPrimaryKey)).length := by
    conv_rhs => rw [← specs_schemaIn spec database, List.filter_map, List.length_map]
    rfl
  have hnumbered : (spec.schemaIn database).columns.any (·.isAutoIncrement) = true ↔
      ∃ column ∈ spec.columns, column.isAutoIncrement = true := by
    conv_rhs => rw [← specs_schemaIn spec database]
    simp
  have hcolumns {columns : List Column} :
      columnsOf 0 [] spec.columns = .ok columns ↔
        columns = (spec.schemaIn database).columns ∧ (spec.columns.map (·.name)).Nodup ∧
          ∀ column ∈ spec.columns, column.Lawful := by
    simp [columnsOf_eq_ok_iff, TableSpec.schemaIn]
  rw [ofSpec, bind_eq_ok_iff]
  simp only [hcolumns]
  constructor
  · rintro ⟨_, ⟨rfl, hnames, hlawful⟩, h⟩
    split at h
    · cases h
    · rename_i hkey
      cases h
      refine ⟨⟨hnames, hlawful, fun hauto => ?_⟩, rfl⟩
      rw [← hkeys]
      exact Nat.le_of_not_lt fun hlt =>
        hkey (Bool.and_eq_true_iff.mpr ⟨decide_eq_true hlt, hnumbered.mpr hauto⟩)
  · rintro ⟨⟨hnames, hlawful, hsingle⟩, rfl⟩
    refine ⟨_, ⟨rfl, hnames, hlawful⟩, if_neg fun h => ?_⟩
    obtain ⟨hlt, hauto⟩ := Bool.and_eq_true_iff.mp h
    have hle := hsingle (hnumbered.mp hauto)
    rw [← hkeys] at hle
    exact absurd (of_decide_eq_true hlt) (Nat.not_lt.mpr hle)

/-- The schema of an accepted description is lawful and bears its name. -/
theorem lawful_of_ofSpec {database : String} {spec : TableSpec} {schema : TableSchema}
    (h : ofSpec database spec = .ok schema) :
    schema.Lawful ∧ schema.database = database ∧ schema.name = spec.name := by
  obtain ⟨⟨hnames, hlawful, hsingle⟩, rfl⟩ := ofSpec_eq_ok_iff.mp h
  rw [← specs_schemaIn spec database] at hnames hlawful hsingle
  refine ⟨⟨fun i column hcolumn => (getElem?_schemaIn.mp hcolumn).2, ?_, ?_, ?_⟩, rfl, rfl⟩
  · rw [List.map_map] at hnames
    exact hnames
  · exact fun column hcolumn => hlawful _ (List.mem_map_of_mem hcolumn)
  · rintro ⟨column, hcolumn, hauto⟩
    have hle := hsingle ⟨_, List.mem_map_of_mem hcolumn, hauto⟩
    rwa [List.filter_map, List.length_map] at hle

/-- The columns of a schema are those of its description, with their positions. -/
theorem mem_of_ofSpec {database : String} {spec : TableSpec} {schema : TableSchema}
    (h : ofSpec database spec = .ok schema) {column : Column} (hcolumn : column ∈ schema.columns) :
    column.toColumnSpec ∈ spec.columns := by
  obtain ⟨-, rfl⟩ := ofSpec_eq_ok_iff.mp h
  exact specs_schemaIn spec database ▸ List.mem_map_of_mem hcolumn

namespace Lawful

variable {schema : TableSchema} {column other : Column}

/-- A column stands at the position that it names. -/
theorem getElem?_index (h : schema.Lawful) (hcolumn : column ∈ schema.columns) :
    schema.columns[column.index]? = some column := by
  obtain ⟨i, hi⟩ := List.mem_iff_getElem?.mp hcolumn
  rw [h.index i column hi]
  exact hi

/-- The position of a column is one of the positions of a row. -/
theorem index_lt (h : schema.Lawful) (hcolumn : column ∈ schema.columns) :
    column.index < schema.columns.length := by
  obtain ⟨hlt, -⟩ := List.getElem?_eq_some_iff.mp (h.getElem?_index hcolumn)
  exact hlt

/-- Columns at one position are the same. -/
theorem eq_of_index (h : schema.Lawful) (hcolumn : column ∈ schema.columns)
    (hother : other ∈ schema.columns) (heq : column.index = other.index) : column = other := by
  have hget := h.getElem?_index hcolumn
  rw [heq, h.getElem?_index hother] at hget
  exact (Option.some.inj hget).symm

/-- Columns of one name are the same. -/
theorem eq_of_name (h : schema.Lawful) (hcolumn : column ∈ schema.columns)
    (hother : other ∈ schema.columns) (heq : column.name = other.name) : column = other :=
  List.inj_on_of_nodup_map h.names hcolumn hother heq

/-- A column is found under its name. -/
theorem column?_name (h : schema.Lawful) (hcolumn : column ∈ schema.columns) :
    schema.column? column.name = some column := by
  cases hfind : schema.column? column.name with
  | none => exact absurd (List.find?_eq_none.mp hfind column hcolumn) (by simp)
  | some found =>
    have hname := List.find?_some hfind
    rw [h.eq_of_name (List.mem_of_find?_eq_some hfind) hcolumn (eq_of_beq hname)]

/-- The columns stand in the order of their positions. -/
theorem pairwise_index_lt (h : schema.Lawful) :
    schema.columns.Pairwise fun earlier later => earlier.index < later.index := by
  rw [List.pairwise_iff_getElem]
  intro i j hi hj hlt
  rwa [h.index i _ (List.getElem?_eq_getElem hi), h.index j _ (List.getElem?_eq_getElem hj)]

/-- A numbered column is the whole key. -/
theorem primaryKey_of_numbered (h : schema.Lawful) (hcolumn : column ∈ schema.columns)
    (hauto : column.isAutoIncrement = true) : schema.primaryKey = [column] := by
  have hmem : column ∈ schema.primaryKey :=
    List.mem_filter.mpr ⟨hcolumn, ((h.columns column hcolumn).numbered hauto).2⟩
  obtain ⟨only, honly⟩ := List.length_eq_one_iff.mp (Nat.le_antisymm
    (h.singleKey ⟨column, hcolumn, hauto⟩) (List.length_pos_of_mem hmem))
  rw [honly, List.mem_singleton] at hmem
  rw [honly, hmem]

/-- There are no two numbered columns. -/
theorem eq_of_numbered (h : schema.Lawful) (hcolumn : column ∈ schema.columns)
    (hauto : column.isAutoIncrement = true) (hother : other ∈ schema.columns)
    (hotherAuto : other.isAutoIncrement = true) : other = column := by
  have hmem : other ∈ schema.primaryKey :=
    List.mem_filter.mpr ⟨hother, ((h.columns other hother).numbered hotherAuto).2⟩
  rw [h.primaryKey_of_numbered hcolumn hauto] at hmem
  exact List.mem_singleton.mp hmem

/-- A lawful schema has at most one numbered column. -/
theorem length_numbered_le_one (h : schema.Lawful) :
    (schema.columns.filter (·.isAutoIncrement)).length ≤ 1 := by
  have hkey : schema.columns.filter (·.isAutoIncrement) =
      schema.primaryKey.filter (·.isAutoIncrement) := by
    rw [primaryKey, List.filter_filter]
    refine List.filter_congr fun column hcolumn => ?_
    cases hauto : column.isAutoIncrement with
    | false => rfl
    | true => rw [((h.columns column hcolumn).numbered hauto).2, Bool.and_self]
  by_cases hnumbered : ∃ column ∈ schema.columns, column.isAutoIncrement = true
  · rw [hkey]
    exact Nat.le_trans (List.length_filter_le _ _) (h.singleKey hnumbered)
  · have hnone : schema.columns.filter (·.isAutoIncrement) = [] :=
      List.filter_eq_nil_iff.mpr fun column hcolumn hauto => hnumbered ⟨column, hcolumn, hauto⟩
    simp [hnone]

end Lawful

end TableSchema

end Tabula
