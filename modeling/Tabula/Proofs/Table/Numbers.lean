import Tabula.Proofs.Table.Integrity
import Tabula.Proofs.Write.NewRows

/-!
# Numbers that insertions use up

In a numbered column an insertion either gives a number or has the table generate the next one. A
number is used up as soon as the row is drafted, whether or not the table accepts it: the counter
is above it afterwards, as long as it does not overflow. What the table generates is the counter
itself. No row has this number, so a row with a generated number never has a key that is taken.
-/

namespace Tabula

/-- The number that an insertion uses up. -/
inductive NumberUse where
  /-- The table generates the number. -/
  | generated (id : Int64)
  /-- The insertion gives the number. -/
  | given (id : Int64)
deriving DecidableEq

namespace NumberUse

/-- The number. -/
def id : NumberUse → Int64
  | generated id | given id => id

/-- The later number, if it is generated, is greater than the earlier one. -/
def Before (earlier later : NumberUse) : Prop :=
  ∀ id, later = generated id → earlier.id < id

end NumberUse

namespace TableSchema.Lawful

variable {schema : TableSchema} {column : Column}

/-- The key of a row is its number. -/
theorem keyOf_of_numbered (h : schema.Lawful) (hcolumn : column ∈ schema.columns)
    (hauto : column.isAutoIncrement = true) (row : Row) : schema.keyOf row = ⟨[row.at column]⟩ := by
  rw [keyOf, h.primaryKey_of_numbered hcolumn hauto]
  rfl

/-- A row that fits has a number. -/
theorem exists_number (h : schema.Lawful) (hcolumn : column ∈ schema.columns)
    (hauto : column.isAutoIncrement = true) {row : Row} (hfits : schema.Fits row) :
    ∃ id, row.at column = .int id := by
  obtain ⟨htype, hkey⟩ := (h.columns column hcolumn).numbered hauto
  obtain ⟨htyped, hnull⟩ := hfits.admits column hcolumn
  rw [htype] at htyped
  cases hvalue : row.at column with
  | int id => exact ⟨id, rfl⟩
  | null =>
    have hoff := (hnull (by rw [hvalue]; rfl)).2
    rw [hkey] at hoff
    cases hoff
  | _ => simp [hvalue, Value.isNull, Value.hasType, Value.type?] at htyped

end TableSchema.Lawful

namespace Table

variable {table after : Table} {column : Column} {values : List (ColumnRef × Value)}
  {supplied : List (Column × Value)} {use : NumberUse}

/-- The number that an insertion uses up in a numbered column, if it comes to drafting a row with
one. -/
def numberUse? (table : Table) (column : Column) (values : List (ColumnRef × Value)) :
    Option NumberUse :=
  match table.schema.checkValues values with
  | .error _ => none
  | .ok supplied =>
    match (table.drafted supplied).1.at column with
    | .int id => some (if (suppliedFor supplied column).isSome then .given id else .generated id)
    | _ => none

/-! ### Drafted numbers -/

/-- A number is used up if it is in the drafted row; it counts as given if it is supplied. -/
theorem numberUse?_eq_some_iff :
    table.numberUse? column values = some use ↔
      ∃ supplied, table.schema.checkValues values = .ok supplied ∧
        (table.drafted supplied).1.at column = .int use.id ∧
        use = if (suppliedFor supplied column).isSome then .given use.id else .generated use.id := by
  unfold numberUse?
  cases hvalues : table.schema.checkValues values with
  | error error => simp
  | ok supplied =>
    simp only [Except.ok.injEq, exists_eq_left']
    cases hvalue : (table.drafted supplied).1.at column with
    | int id =>
      simp only [Option.some.injEq, Value.int.injEq]
      constructor
      · rintro rfl
        split <;> exact ⟨rfl, rfl⟩
      · rintro ⟨hid, huse⟩
        rw [huse, hid]
    | _ => simp

/-- A drafted row has what is supplied in the numbered column, else the next number. -/
theorem at_drafted_of_numbered (hlawful : table.schema.Lawful)
    (hcolumn : column ∈ table.schema.columns) (hauto : column.isAutoIncrement = true)
    (supplied : List (Column × Value)) :
    (table.drafted supplied).1.at column =
      (suppliedFor supplied column).getD (.int table.nextId) := by
  have hget := hlawful.getElem?_index hcolumn
  rw [drafted, fst_fillRow table.nextId hlawful.length_numbered_le_one, Row.at,
    List.getD_eq_getElem?_getD, List.getElem?_map, hget]
  simp only [Option.map_some, Option.getD_some, hauto, if_true]

/-- What a table generates is the next number. -/
theorem eq_nextId_of_generated (hlawful : table.schema.Lawful)
    (hcolumn : column ∈ table.schema.columns) (hauto : column.isAutoIncrement = true) {id : Int64}
    (h : table.numberUse? column values = some (.generated id)) : id = table.nextId := by
  obtain ⟨supplied, -, hat, huse⟩ := numberUse?_eq_some_iff.mp h
  cases hsupplied : suppliedFor supplied column with
  | some value => simp [hsupplied] at huse
  | none =>
    rw [at_drafted_of_numbered hlawful hcolumn hauto, hsupplied, Option.getD_none] at hat
    exact (Value.int.inj hat).symm

/-! ### The counter -/

/-- The counter does not overflow if no insertion uses up the greatest word. -/
theorem countsOn_of_forall_ne (hlawful : table.schema.Lawful)
    (hcolumn : column ∈ table.schema.columns) (hauto : column.isAutoIncrement = true)
    (h : ∀ use ∈ table.numberUse? column values, use.id ≠ Int64.maxValue) :
    table.CountsOn values := by
  intro supplied hsupplied field hfield hfieldAuto hmax
  have hown := hlawful.eq_of_numbered hcolumn hauto (List.of_mem_zip hfield).1 hfieldAuto
  -- the only numbered column is the one whose number is used up
  have hat : (table.drafted supplied).1.at column = .int Int64.maxValue := by
    obtain ⟨i, hi, hget⟩ := List.mem_iff_getElem.mp hfield
    rw [List.length_zip] at hi
    have hcolumnAt : table.schema.columns[i]? = some column := by
      rw [List.getElem?_eq_getElem (by omega), ← hown, ← hget, List.getElem_zip]
    rw [Row.at, hlawful.index i column hcolumnAt, List.getD_eq_getElem _ _ (by omega), ← hmax,
      ← hget, List.getElem_zip]
  cases hgiven : (suppliedFor supplied column).isSome with
  | true =>
    exact h (.given Int64.maxValue)
      (numberUse?_eq_some_iff.mpr ⟨supplied, hsupplied, hat, by rw [hgiven]; rfl⟩) rfl
  | false =>
    exact h (.generated Int64.maxValue)
      (numberUse?_eq_some_iff.mpr ⟨supplied, hsupplied, hat, by rw [hgiven]; rfl⟩) rfl

/-- After an insertion the counter is above the number that it has used up. -/
theorem lt_insert_of_numberUse? (hlawful : table.schema.Lawful)
    (hcolumn : column ∈ table.schema.columns) (hauto : column.isAutoIncrement = true)
    (hcounts : table.CountsOn values) (h : table.numberUse? column values = some use) :
    use.id < (table.insert values).2.nextId := by
  obtain ⟨supplied, hsupplied, hat, -⟩ := numberUse?_eq_some_iff.mp h
  have hlt := lt_fillRow supplied table.nextId table.schema.columns (hcounts supplied hsupplied)
  have hall : List.Forall₂ (fun column value => column.isAutoIncrement = true →
      ∀ id, value = .int id → id < (table.drafted supplied).2) table.schema.columns
      (table.drafted supplied).1 :=
    List.forall₂_iff_zip.mpr
      ⟨(length_fillRow supplied table.nextId table.schema.columns).symm, fun hzip => hlt _ hzip⟩
  have hnext := at_of_forall₂ hlawful hall hcolumn hauto use.id hat
  rcases insert_cases table values with
    ⟨_, hother, -⟩ | ⟨other, hother, ⟨_, _, hcase⟩ | ⟨_, hcase⟩⟩ <;>
    rw [hsupplied] at hother <;> cases hother
  · rw [hcase]
    exact hnext
  · rw [hcase]
    exact hnext

/-! ### Keys -/

/-- No row has the next number for its key. -/
theorem find?_keyOf_of_nextId (hsound : table.Sound) (hids : table.IdsBelow)
    (hcolumn : column ∈ table.schema.columns) (hauto : column.isAutoIncrement = true) {row : Row}
    (hrow : row.at column = .int table.nextId) :
    table.find? (table.schema.keyOf row) = none := by
  have hkey : table.schema.primaryKey ≠ [] := by
    rw [hsound.lawful.primaryKey_of_numbered hcolumn hauto]
    exact List.cons_ne_nil column []
  rw [find?_eq_none_iff hkey]
  intro other hother
  obtain ⟨id, hid⟩ :=
    hsound.lawful.exists_number hcolumn hauto (hsound.fits other hother)
  have hbelow := hids column hcolumn hauto other hother id hid
  rw [hsound.lawful.keyOf_of_numbered hcolumn hauto,
    hsound.lawful.keyOf_of_numbered hcolumn hauto, hrow, hid]
  simp [RowKey.same, sameRow, Value.same_int_of_lt hbelow]

/-- Values that do not name a column supply nothing to it. -/
theorem suppliedFor_eq_none_of_forall_ne (hlawful : table.schema.Lawful)
    (hcolumn : column ∈ table.schema.columns)
    (hsupplied : table.schema.checkValues values = .ok supplied)
    (h : ∀ given ∈ values, given.1.name ≠ column.name) : suppliedFor supplied column = none := by
  refine Option.eq_none_iff_forall_ne_some.mpr fun value hvalue => ?_
  obtain ⟨change, hchange, hindex, -⟩ := exists_of_suppliedFor hvalue
  obtain ⟨hown, -, given, hgiven, hfound, -⟩ := TableSchema.of_mem_checkValues hsupplied hchange
  have hname := List.find?_some hfound
  rw [hlawful.eq_of_index hown hcolumn hindex] at hname
  exact h given hgiven (eq_of_beq hname).symm

/-- Values are never refused for a key. -/
theorem checkValues_ne_duplicateKey (schema : TableSchema) (values : List (ColumnRef × Value))
    (name : String) (key : RowKey) :
    schema.checkValues values ≠ .error (.duplicateKey name key) := by
  intro h
  obtain ⟨given, -, hgiven⟩ := exists_of_mapM_eq_error h
  unfold TableSchema.checkValue TableSchema.expectColumn at hgiven
  cases hcolumn : schema.column? given.1.name with
  | none => simp [hcolumn, Except.mapError, bind, Except.bind] at hgiven
  | some column =>
    simp only [hcolumn, Except.mapError, bind, Except.bind] at hgiven
    split at hgiven <;> cases hgiven

/-- An insertion that supplies no number is not refused for its key. -/
theorem insert_ne_duplicateKey (hsound : table.Sound) (hids : table.IdsBelow)
    (hcolumn : column ∈ table.schema.columns) (hauto : column.isAutoIncrement = true)
    (h : ∀ given ∈ values, given.1.name ≠ column.name) (name : String) (key : RowKey) :
    (table.insert values).1 ≠ .error (.duplicateKey name key) := by
  intro herror
  rcases insert_cases table values with
    ⟨error, hvalues, hcase⟩ | ⟨supplied, hsupplied, ⟨error, hrow, hcase⟩ | ⟨-, hcase⟩⟩ <;>
    rw [hcase] at herror <;> cases herror
  · exact checkValues_ne_duplicateKey table.schema values name key hvalues
  · have hnone := suppliedFor_eq_none_of_forall_ne hsound.lawful hcolumn hsupplied h
    have hat := at_drafted_of_numbered hsound.lawful hcolumn hauto supplied
    rw [hnone, Option.getD_none] at hat
    have hfree := find?_keyOf_of_nextId hsound hids hcolumn hauto hat
    rcases table.checkRow_cases (table.drafted supplied).1 with
      ⟨_, -, hnull⟩ | ⟨-, ⟨-, hok⟩ | ⟨position, htaken, -⟩⟩
    · rw [hrow] at hnull
      cases hnull
    · rw [hrow] at hok
      cases hok
    · rw [hfree] at htaken
      cases htaken

/-- A row that is accepted has the number that its insertion used up for its key. -/
theorem keyOf_of_insert (hsound : table.Sound) (hcolumn : column ∈ table.schema.columns)
    (hauto : column.isAutoIncrement = true) {position : Nat}
    (h : table.insert values = (.ok position, after)) :
    ∃ use, table.numberUse? column values = some use ∧
      after.schema.keyOf (after.rows.getD position []) = ⟨[.int use.id]⟩ := by
  rcases insert_cases table values with
    ⟨_, _, hcase⟩ | ⟨supplied, hsupplied, ⟨_, _, hcase⟩ | ⟨hrow, hcase⟩⟩ <;>
    rw [hcase] at h <;> cases h
  have hnew : (table.rows ++ [(table.drafted supplied).1]).getD table.rows.length [] =
      (table.drafted supplied).1 := by
    rw [List.getD_eq_getElem?_getD, List.getElem?_concat_length, Option.getD_some]
  simp only [hnew, hsound.lawful.keyOf_of_numbered hcolumn hauto]
  have hfits := fits_drafted hsound.lawful hsupplied (checkRow_eq_ok_iff.mp hrow).1
  obtain ⟨id, hid⟩ := hsound.lawful.exists_number hcolumn hauto hfits
  refine ⟨if (suppliedFor supplied column).isSome then .given id else .generated id, ?_, ?_⟩
  · simp only [numberUse?, hsupplied, hid]
  · rw [hid]
    split <;> rfl

end Table

end Tabula
