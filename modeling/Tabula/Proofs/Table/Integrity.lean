import Tabula.Proofs.Table.Rows
import Tabula.Proofs.Value.Order

/-!
# Integrity of a table

A table is sound if its rows fit its schema and their keys differ. Inserting keeps a table sound
whatever it is given, because it checks types, nulls and the key. Updating checks no key, and keeps
a table sound as long as no column of the key is written. Removing rows always does.

The numbers of a numbered column stay below the counter under the same changes, unless the counter
overflows.
-/

namespace Tabula

/-! ### Sound tables -/

/-- A column admits values of its type, and null where a row may have it. -/
structure Column.Admits (column : Column) (value : Value) : Prop where
  typed : value.isNull = true ∨ value.hasType column.type = true
  null : value.isNull = true → column.isNullable = true ∧ column.isPrimaryKey = false

/-- A row fits a schema if it has one value for each column, and the column admits it. -/
structure TableSchema.Fits (schema : TableSchema) (row : Row) : Prop where
  length : row.length = schema.columns.length
  admits : ∀ column ∈ schema.columns, column.Admits (row.at column)

/-- No two rows at different positions have equal keys. -/
def Table.KeysDiffer (table : Table) : Prop :=
  ∀ i j (hi : i < table.rows.length) (hj : j < table.rows.length), i ≠ j →
    (table.schema.keyOf table.rows[i]).same (table.schema.keyOf table.rows[j]) = false

/-- No value is for a column of the key. -/
def TableSchema.OffKey (schema : TableSchema) (values : List (ColumnRef × Value)) : Prop :=
  ∀ given ∈ values, ∀ column, schema.column? given.1.name = some column →
    column.isPrimaryKey = false

/-- A table is sound if its schema is lawful, its rows fit that, and the keys of its rows differ
in case it has a primary key. -/
structure Table.Sound (table : Table) : Prop where
  lawful : table.schema.Lawful
  fits : ∀ row ∈ table.rows, table.schema.Fits row
  keys : table.schema.primaryKey ≠ [] → table.KeysDiffer

/-- Every number in a numbered column is below the next one. -/
def Table.IdsBelow (table : Table) : Prop :=
  ∀ column ∈ table.schema.columns, column.isAutoIncrement = true →
    ∀ row ∈ table.rows, ∀ id, row.at column = .int id → id < table.nextId

/-- The check for nulls reports nothing but nulls. -/
theorem TableSchema.checkNulls_eq_error {schema : TableSchema} {row : Row} {error : StoreError}
    (h : schema.checkNulls row = .error error) :
    ∃ column, error = .nullValue schema.qualifiedName column := by
  unfold checkNulls at h
  split at h
  · rename_i column _
    cases h
    exact ⟨column.name, rfl⟩
  · cases h

/-! ### Keys of one column -/

namespace TableSchema

variable {schema : TableSchema} {key : Column} {row : Row}

/-- The only column of a key is one of the columns, and it is a key column. -/
theorem mem_of_singleKey? (h : schema.singleKey? = some key) :
    schema.primaryKey = [key] ∧ key ∈ schema.columns ∧ key.isPrimaryKey = true := by
  have hkeys : schema.primaryKey = [key] := by
    unfold singleKey? at h
    split at h
    · rename_i heq
      rw [heq, Option.some.inj h]
    · cases h
  have hmem : key ∈ schema.columns.filter (·.isPrimaryKey) :=
    List.mem_of_mem_head? (by rw [← primaryKey, hkeys]; rfl)
  exact ⟨hkeys, List.mem_filter.mp hmem⟩

/-- The key of a row that fits has the type of its only column. -/
theorem Fits.hasType_key (h : schema.Fits row) (hkey : schema.singleKey? = some key) :
    (row.at key).hasType key.type = true := by
  obtain ⟨-, hmem, hprimary⟩ := mem_of_singleKey? hkey
  have hadmits := h.admits key hmem
  refine hadmits.typed.resolve_left fun hnull => ?_
  rw [(hadmits.null hnull).2] at hprimary
  cases hprimary

/-- The key of a row with a single key is the value of that column. -/
theorem keyOf_of_singleKey? (hkey : schema.singleKey? = some key) :
    schema.keyOf row = ⟨[row.at key]⟩ := by
  rw [keyOf, (mem_of_singleKey? hkey).1]
  rfl

end TableSchema

/-- Of the rows of a sound table at most one has a given key of one column. -/
theorem Table.Sound.eq_of_same {table : Table} (h : table.Sound) {key : Column}
    (hkey : table.schema.singleKey? = some key) {value : Value}
    (htype : value.hasType key.type = true) {i j : Nat} (hi : i < table.rows.length)
    (hj : j < table.rows.length)
    (hisame : (table.schema.keyOf table.rows[i]).same ⟨[value]⟩ = true)
    (hjsame : (table.schema.keyOf table.rows[j]).same ⟨[value]⟩ = true) : i = j := by
  have htyped {position : Nat} (hlt : position < table.rows.length) :
      (table.rows[position].at key).type? = value.type? := by
    have hown := (h.fits _ (List.getElem_mem hlt)).hasType_key hkey
    rw [Value.hasType, beq_iff_eq] at hown htype
    rw [hown, htype]
  by_contra hne
  have hprimary : table.schema.primaryKey ≠ [] := by
    simp [(TableSchema.mem_of_singleKey? hkey).1]
  have hdiffer := h.keys hprimary i j hi hj hne
  simp only [TableSchema.keyOf_of_singleKey? hkey, RowKey.same, sameRow, Bool.and_true]
    at hisame hjsame hdiffer
  rw [Value.same_of_same (htyped hi) (htyped hj) hisame hjsame] at hdiffer
  cases hdiffer

namespace Table

variable {table after : Table} {values : List (ColumnRef × Value)}

/-- Since equality of keys is symmetric, it is enough to compare each row with the later ones. -/
theorem keysDiffer_iff_pairwise :
    table.KeysDiffer ↔
      (table.rows.map table.schema.keyOf).Pairwise fun a b => a.same b = false := by
  rw [KeysDiffer, List.pairwise_map, List.pairwise_iff_getElem]
  constructor
  · intro h i j hi hj hlt
    exact h i j hi hj (Nat.ne_of_lt hlt)
  · intro h i j hi hj hne
    rcases Nat.lt_or_gt_of_ne hne with hlt | hlt
    · exact h i j hi hj hlt
    · rw [RowKey.same_comm]
      exact h j i hj hi hlt

/-- A table without rows is sound if its schema is lawful. -/
theorem Sound.empty {schema : TableSchema} (h : schema.Lawful) : (Table.empty schema).Sound where
  lawful := h
  fits := by simp [Table.empty]
  keys _ := by simp [KeysDiffer, Table.empty]

/-- A table without rows has no numbers. -/
theorem IdsBelow.empty (schema : TableSchema) : (Table.empty schema).IdsBelow := by
  simp [IdsBelow, Table.empty]

/-! ### Insertion -/

/-- No row is found by a key if no row has it. -/
theorem find?_eq_none_iff {key : RowKey} (hkey : table.schema.primaryKey ≠ []) :
    table.find? key = none ↔ ∀ row ∈ table.rows, (table.schema.keyOf row).same key = false := by
  simp [find?, hkey]

/-- A row passes if it has no forbidden null and its key is new. -/
theorem checkRow_eq_ok_iff {row : Row} :
    table.checkRow row = .ok () ↔
      table.schema.checkNulls row = .ok () ∧ table.find? (table.schema.keyOf row) = none := by
  unfold checkRow
  cases table.schema.checkNulls row with
  | error error => simp [bind, Except.bind]
  | ok _ =>
    cases hfind : table.find? (table.schema.keyOf row) <;>
      simp [bind, Except.bind, pure, Except.pure, throw, throwThe, MonadExceptOf.throw, hfind]

/-- A row is refused for a null, or else for its key. -/
theorem checkRow_cases (table : Table) (row : Row) :
    (∃ column, table.schema.checkNulls row ≠ .ok () ∧
      table.checkRow row = .error (.nullValue table.schema.qualifiedName column)) ∨
    table.schema.checkNulls row = .ok () ∧
      (table.find? (table.schema.keyOf row) = none ∧ table.checkRow row = .ok () ∨
      ∃ position, table.find? (table.schema.keyOf row) = some position ∧
        table.checkRow row =
          .error (.duplicateKey table.schema.qualifiedName (table.schema.keyOf row))) := by
  unfold checkRow
  cases hnulls : table.schema.checkNulls row with
  | error error =>
    obtain ⟨column, rfl⟩ := TableSchema.checkNulls_eq_error hnulls
    exact Or.inl ⟨column, by simp, rfl⟩
  | ok _ =>
    refine Or.inr ⟨rfl, ?_⟩
    cases hfind : table.find? (table.schema.keyOf row) with
    | none => exact Or.inl ⟨rfl, by simp [hfind, bind, Except.bind, pure, Except.pure]⟩
    | some position =>
      exact Or.inr ⟨position, rfl, by simp [hfind, bind, Except.bind, throw, throwThe,
        MonadExceptOf.throw]⟩

/-- However a column of a lawful schema is filled with checked values, the value is null or of the
type of the column. -/
theorem typed_fillColumn (hlawful : table.schema.Lawful) {supplied : List (Column × Value)}
    (hsupplied : table.schema.checkValues values = .ok supplied) {column : Column}
    (hcolumn : column ∈ table.schema.columns) (nextId : Int64) :
    (fillColumn supplied nextId column).1.isNull = true ∨
      (fillColumn supplied nextId column).1.hasType column.type = true := by
  have hown := hlawful.columns column hcolumn
  cases hgiven : suppliedFor supplied column with
  | some value =>
    obtain ⟨change, hchange, hindex, rfl⟩ := exists_of_suppliedFor hgiven
    obtain ⟨hmem, htype, -⟩ := TableSchema.of_mem_checkValues hsupplied hchange
    rw [hlawful.eq_of_index hmem hcolumn hindex] at htype
    simpa only [fillColumn, hgiven] using htype
  | none =>
    simp only [fillColumn, hgiven]
    split
    · rename_i hauto
      exact Or.inr (by simp [(hown.numbered hauto).1, Value.hasType, Value.type?])
    · have hdefault := hown.defaultFits
      unfold ColumnSpec.defaultFits at hdefault
      cases hvalue : column.default with
      | none => exact Or.inl rfl
      | some value =>
        rw [hvalue, Bool.or_eq_true] at hdefault
        exact hdefault

/-- A drafted row without forbidden null fits the schema. -/
theorem fits_drafted (hlawful : table.schema.Lawful) {supplied : List (Column × Value)}
    (hsupplied : table.schema.checkValues values = .ok supplied)
    (hnulls : table.schema.checkNulls (table.drafted supplied).1 = .ok ()) :
    table.schema.Fits (table.drafted supplied).1 where
  length := length_fillRow supplied table.nextId table.schema.columns
  admits column hcolumn := by
    have hall : List.Forall₂
        (fun column value => value.isNull = true ∨ value.hasType column.type = true)
        table.schema.columns (table.drafted supplied).1 :=
      forall₂_fillRow (fun other hother nextId =>
        typed_fillColumn hlawful hsupplied hother nextId) table.nextId
    refine ⟨at_of_forall₂ hlawful hall hcolumn, fun hnull => ?_⟩
    have hallowed := TableSchema.checkNulls_eq_ok_iff.mp hnulls column hcolumn hnull
    simpa [TableSchema.allowsNull] using hallowed

/-- Inserting keeps a table sound, whether or not it succeeds. -/
theorem Sound.insert (h : table.Sound) (values : List (ColumnRef × Value)) :
    (table.insert values).2.Sound := by
  rcases insert_cases table values with
    ⟨_, _, hcase⟩ | ⟨supplied, hsupplied, ⟨_, _, hcase⟩ | ⟨hrow, hcase⟩⟩ <;> rw [hcase]
  · exact h
  · exact ⟨h.lawful, h.fits, h.keys⟩
  · obtain ⟨hnulls, hnew⟩ := checkRow_eq_ok_iff.mp hrow
    refine ⟨h.lawful, ?_, fun (hkey : table.schema.primaryKey ≠ []) => ?_⟩
    · simp only [List.mem_append, List.mem_singleton]
      rintro row (hold | rfl)
      · exact h.fits row hold
      · exact fits_drafted h.lawful hsupplied hnulls
    · have hold := keysDiffer_iff_pairwise.mp (h.keys hkey)
      have hfresh := (find?_eq_none_iff hkey).mp hnew
      refine keysDiffer_iff_pairwise.mpr ?_
      simp only [List.map_append, List.map_cons, List.map_nil]
      refine List.pairwise_append.mpr ⟨hold, List.pairwise_singleton _ _, ?_⟩
      simp only [List.mem_map, List.mem_singleton, forall_exists_index, and_imp]
      rintro _ row hrow rfl _ rfl
      exact hfresh row hrow

/-- Inserting keeps the numbers below the counter, unless that overflows. -/
theorem IdsBelow.insert (h : table.IdsBelow) (hlawful : table.schema.Lawful)
    (hcounts : table.CountsOn values) : (table.insert values).2.IdsBelow := by
  have hle := le_insert hcounts
  rcases insert_cases table values with
    ⟨_, _, hcase⟩ | ⟨supplied, hsupplied, ⟨_, _, hcase⟩ | ⟨_, hcase⟩⟩ <;> rw [hcase] at hle ⊢
  · exact h
  · intro column hcolumn hauto row hrow id hid
    exact Int64.lt_of_lt_of_le (h column hcolumn hauto row hrow id hid) hle
  · intro column hcolumn hauto row hrow id hid
    rcases List.mem_append.mp hrow with hold | hnew
    · exact Int64.lt_of_lt_of_le (h column hcolumn hauto row hold id hid) hle
    · rw [List.mem_singleton.mp hnew] at hid
      have hlt := lt_fillRow supplied table.nextId table.schema.columns (hcounts supplied hsupplied)
      have hall : List.Forall₂ (fun column value => column.isAutoIncrement = true →
          ∀ id, value = .int id → id < (table.drafted supplied).2) table.schema.columns
          (table.drafted supplied).1 :=
        List.forall₂_iff_zip.mpr
          ⟨(length_fillRow supplied table.nextId table.schema.columns).symm, fun hzip =>
            hlt _ hzip⟩
      exact at_of_forall₂ hlawful hall hcolumn hauto id hid

/-! ### Update -/

/-- Values off the key leave every column of the key as it was. -/
theorem at_overwrite_of_offKey (hlawful : table.schema.Lawful)
    (hoff : table.schema.OffKey values) {supplied : List (Column × Value)}
    (hsupplied : table.schema.checkValues values = .ok supplied) {column : Column}
    (hcolumn : column ∈ table.schema.columns) (hkey : column.isPrimaryKey = true) (row : Row) :
    (overwrite row supplied).at column = row.at column := by
  refine at_overwrite_of_forall_ne fun change hchange hindex => ?_
  obtain ⟨hmem, -, given, hgiven, hfound, -⟩ := TableSchema.of_mem_checkValues hsupplied hchange
  have hchangeKey := hoff given hgiven change.1 hfound
  rw [hlawful.eq_of_index hmem hcolumn hindex, hkey] at hchangeKey
  exact absurd hchangeKey (by decide)

/-- Values off the key keep the key of a row. -/
theorem keyOf_overwrite (hlawful : table.schema.Lawful) (hoff : table.schema.OffKey values)
    {supplied : List (Column × Value)}
    (hsupplied : table.schema.checkValues values = .ok supplied) (row : Row) :
    table.schema.keyOf (overwrite row supplied) = table.schema.keyOf row := by
  refine congrArg RowKey.mk (List.map_congr_left fun column hcolumn => ?_)
  obtain ⟨hmem, hkey⟩ := List.mem_filter.mp hcolumn
  exact at_overwrite_of_offKey hlawful hoff hsupplied hmem hkey row

/-- An overwritten row without forbidden null fits the schema. -/
theorem fits_overwrite (hlawful : table.schema.Lawful) {row : Row} (hrow : table.schema.Fits row)
    {supplied : List (Column × Value)}
    (hsupplied : table.schema.checkValues values = .ok supplied)
    (hnulls : table.schema.checkNulls (overwrite row supplied) = .ok ()) :
    table.schema.Fits (overwrite row supplied) where
  length := (length_overwrite row supplied).trans hrow.length
  admits column hcolumn := by
    refine ⟨?_, fun hnull => ?_⟩
    · rcases at_overwrite row supplied column with hold | ⟨change, hchange, hindex, hvalue⟩
      · exact hold ▸ (hrow.admits column hcolumn).typed
      · obtain ⟨hmem, htype, -⟩ := TableSchema.of_mem_checkValues hsupplied hchange
        rw [hlawful.eq_of_index hmem hcolumn hindex] at htype
        exact hvalue ▸ htype
    · have hallowed := TableSchema.checkNulls_eq_ok_iff.mp hnulls column hcolumn hnull
      simpa [TableSchema.allowsNull] using hallowed

/-- Updating keeps a table sound if the keys of its rows differ after that. -/
theorem Sound.update_of_keysDiffer (h : table.Sound) {position : Nat} {old : Row}
    (hupdate : table.update position values = .ok (old, after))
    (hkeys : table.schema.primaryKey ≠ [] → after.KeysDiffer) : after.Sound := by
  obtain ⟨hold, supplied, hsupplied, hnulls, rfl⟩ := update_eq_ok hupdate
  refine ⟨h.lawful, fun row hrow => ?_, hkeys⟩
  rcases List.mem_or_eq_of_mem_set hrow with hmem | rfl
  · exact h.fits row hmem
  · exact fits_overwrite h.lawful (h.fits old (List.mem_of_getElem? hold)) hsupplied hnulls

/-- Updating off the key keeps a table sound. -/
theorem Sound.update (h : table.Sound) (hoff : table.schema.OffKey values) {position : Nat}
    {old : Row} (hupdate : table.update position values = .ok (old, after)) : after.Sound := by
  refine h.update_of_keysDiffer hupdate fun hkey => ?_
  obtain ⟨hold, supplied, hsupplied, -, rfl⟩ := update_eq_ok hupdate
  obtain ⟨hlt, hget⟩ := List.getElem?_eq_some_iff.mp hold
  refine keysDiffer_iff_pairwise.mpr ?_
  simp only [List.map_set, keyOf_overwrite h.lawful hoff hsupplied, ← hget]
  rw [← List.getElem_map table.schema.keyOf (h := by simpa using hlt), List.set_getElem_self]
  exact keysDiffer_iff_pairwise.mp (h.keys hkey)

/-- Updating off the key keeps the numbers below the counter. -/
theorem IdsBelow.update (h : table.IdsBelow) (hlawful : table.schema.Lawful)
    (hoff : table.schema.OffKey values) {position : Nat} {old : Row}
    (hupdate : table.update position values = .ok (old, after)) : after.IdsBelow := by
  obtain ⟨hold, supplied, hsupplied, -, rfl⟩ := update_eq_ok hupdate
  obtain ⟨hlt, hget⟩ := List.getElem?_eq_some_iff.mp hold
  have holdMem : old ∈ table.rows := hget ▸ List.getElem_mem hlt
  intro column hcolumn hauto row hrow id hid
  rcases List.mem_or_eq_of_mem_set hrow with hmem | rfl
  · exact h column hcolumn hauto row hmem id hid
  · have hkey := ((hlawful.columns column hcolumn).numbered hauto).2
    rw [at_overwrite_of_offKey hlawful hoff hsupplied hcolumn hkey] at hid
    exact h column hcolumn hauto old holdMem id hid

/-! ### Removal -/

/-- Taking rows out keeps a table sound. -/
theorem Sound.sublist (h : table.Sound) {rows : List Row} (hrows : rows.Sublist table.rows) :
    Sound { table with rows := rows } where
  lawful := h.lawful
  fits row hrow := h.fits row (hrows.subset hrow)
  keys hkey := keysDiffer_iff_pairwise.mpr
    ((keysDiffer_iff_pairwise.mp (h.keys hkey)).sublist (hrows.map table.schema.keyOf))

/-- Taking rows out keeps the numbers below the counter. -/
theorem IdsBelow.sublist (h : table.IdsBelow) {rows : List Row}
    (hrows : rows.Sublist table.rows) : IdsBelow { table with rows := rows } :=
  fun column hcolumn hauto row hrow => h column hcolumn hauto row (hrows.subset hrow)

end Table

end Tabula
