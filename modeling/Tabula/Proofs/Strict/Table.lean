import Tabula.Proofs.Strict.Basic
import Tabula.Proofs.Table.Integrity

/-!
# Positions in tables

The operations of a table once more, position by position: a key is read from the positions of its
columns, a new row is drafted and filled in at the positions of its columns, an updated row is written
back to its own position. In a sound table all of these are in range, and every operation has the
outcome that it has without the checks.
-/

namespace Tabula

namespace Strict

/-! ### Definitions -/

/-- The key of a row. -/
def keyOf (schema : TableSchema) (row : Row) : Option RowKey := do
  return ⟨← schema.primaryKey.mapM fun column => readAt row column.index⟩

/-- The first of some columns in which a row has null where none is allowed. -/
def firstNull (row : Row) : List Column → Option (Option Column)
  | [] => some none
  | column :: rest => do
    let value ← readAt row column.index
    if value.isNull && !TableSchema.allowsNull column then return some column
    else firstNull row rest

/-- Checks that a row has no null where none is allowed. -/
def checkNulls (schema : TableSchema) (row : Row) : ExceptT StoreError Option Unit := do
  match ← firstNull row schema.columns with
  | some column => throw (.nullValue schema.qualifiedName column.name)
  | none => return

/-- The position among some rows of the first with the given key. -/
def findRow (schema : TableSchema) (key : RowKey) : List Row → Option (Option Nat)
  | [] => some none
  | row :: rest => do
    if (← keyOf schema row).same key then return some 0
    else return (← findRow schema key rest).map (· + 1)

/-- The position of the row with the given key. Without a primary key there is none. -/
def find? (table : Table) (key : RowKey) : Option (Option Nat) :=
  if table.schema.primaryKey.isEmpty then some none else findRow table.schema key table.rows

/-- Checks given values in their order and writes each at the position of its column, up to the
first that does not pass. -/
def writeValues {A : Type} (schema : TableSchema) (write : A → Nat → Value → Option A) :
    A → List (ColumnRef × Value) → ExceptT StoreError Option A
  | state, [] => return state
  | state, (target, value) :: rest => do
    let change ← liftExcept (schema.checkValue target value)
    writeValues schema write (← write state change.1.index change.2) rest

/-- A new row under construction, with a mark for each value that was given. -/
structure Draft where
  row : Row
  given : List Bool

/-- Writes a value into a draft and marks it as given. -/
def Draft.write (draft : Draft) (position : Nat) (value : Value) : Option Draft := do
  return ⟨← setAt draft.row position value, ← setAt draft.given position true⟩

/-- Fills in the columns for which no value was given, one after the other, and counts on. -/
def fillIn : List (Column × Bool) → Row → Int64 → Option (Row × Int64)
  | [], row, nextId => some (row, nextId)
  | (column, true) :: rest, row, nextId => do
    let value ← readAt row column.index
    fillIn rest row (if column.isAutoIncrement then Table.idAfter nextId value else nextId)
  | (column, false) :: rest, row, nextId => do
    if column.isAutoIncrement then
      fillIn rest (← setAt row column.index (.int nextId)) (nextId + 1)
    else
      match column.default with
      | some value => fillIn rest (← setAt row column.index value) nextId
      | none => fillIn rest row nextId

/-- Checks that a new row obeys the rules of the table. -/
def checkRow (table : Table) (row : Row) : ExceptT StoreError Option Unit := do
  checkNulls table.schema row
  if table.schema.primaryKey.isEmpty then return
  let key ← keyOf table.schema row
  if (← find? table key).isSome then throw (.duplicateKey table.schema.qualifiedName key)

/-- Appends a row with the given values and gives its position. -/
def insert (table : Table) (values : List (ColumnRef × Value)) :
    Option (Except StoreError Nat × Table) := do
  let width := table.schema.columns.length
  match ← (writeValues table.schema Draft.write
      ⟨List.replicate width .null, List.replicate width false⟩ values).run with
  | .error error => return (.error error, table)
  | .ok draft =>
    let (row, nextId) ← fillIn (table.schema.columns.zip draft.given) draft.row table.nextId
    let counted := { table with nextId := nextId }
    match ← (checkRow table row).run with
    | .error error => return (.error error, counted)
    | .ok () => return (.ok table.rows.length, { counted with rows := table.rows ++ [row] })

/-- Overwrites columns of the row at a position. Gives the old row and the new table. -/
def update (table : Table) (position : Nat) (values : List (ColumnRef × Value)) :
    ExceptT StoreError Option (Row × Table) := do
  let old ← liftM (readAt table.rows position)
  let row ← writeValues table.schema setAt old values
  checkNulls table.schema row
  return (old, { table with rows := ← setAt table.rows position row })

/-! ### Reading rows -/

section Rows

variable {schema : TableSchema} {row : Row} {column : Column}

/-- The value of a column is there in a row that has one value for each column. -/
theorem readAt_index_eq (hlawful : schema.Lawful) (hrow : row.length = schema.columns.length)
    (hcolumn : column ∈ schema.columns) : readAt row column.index = some (row.at column) := by
  have hlt : column.index < row.length := hrow ▸ hlawful.index_lt hcolumn
  rw [readAt_eq hlt, Row.at, List.getD_eq_getElem row .null hlt]

/-- The key of a row is there. -/
theorem keyOf_eq (hlawful : schema.Lawful) (hrow : row.length = schema.columns.length) :
    keyOf schema row = some (schema.keyOf row) := by
  have hkey : schema.primaryKey.mapM (fun column => readAt row column.index) =
      some (schema.primaryKey.map row.at) :=
    mapM_eq_some fun column hcolumn =>
      readAt_index_eq hlawful hrow (List.mem_filter.mp hcolumn).1
  rw [keyOf, hkey]
  rfl

/-- The values of some columns are there to be compared with null. -/
theorem firstNull_eq (hlawful : schema.Lawful) (hrow : row.length = schema.columns.length)
    {columns : List Column} (hcolumns : columns ⊆ schema.columns) :
    firstNull row columns =
      some (columns.find? fun column => (row.at column).isNull && !TableSchema.allowsNull column) := by
  induction columns with
  | nil => rfl
  | cons column rest ih =>
    obtain ⟨hcolumn, hrest⟩ := List.cons_subset.mp hcolumns
    rw [firstNull, readAt_index_eq hlawful hrow hcolumn, Option.bind_eq_bind, Option.bind_some,
      List.find?_cons, ih hrest]
    cases (row.at column).isNull && !TableSchema.allowsNull column <;> rfl

/-- A row can be checked for nulls. -/
theorem checkNulls_eq (hlawful : schema.Lawful) (hrow : row.length = schema.columns.length) :
    checkNulls schema row = inRange (schema.checkNulls row) := by
  rw [checkNulls, firstNull_eq hlawful hrow (List.Subset.refl _), liftM_some_bind,
    TableSchema.checkNulls]
  simp only [Row.at]
  generalize schema.columns.find? _ = found
  cases found <;> rfl

end Rows

/-! ### Writing values -/

section Values

variable {A : Type} {schema : TableSchema}

/-- If one more value can always be written, then values are written one after the other as soon as
all of them pass. -/
theorem writeValues_eq {write : A → Nat → Value → Option A} {state : List (Column × Value) → A}
    (hwrite : ∀ supplied column value, column ∈ schema.columns →
      write (state supplied) column.index value = some (state (supplied ++ [(column, value)])))
    (supplied : List (Column × Value)) (values : List (ColumnRef × Value)) :
    writeValues schema write (state supplied) values =
      inRange ((schema.checkValues values).map fun others => state (supplied ++ others)) := by
  induction values generalizing supplied with
  | nil =>
    have hnone : schema.checkValues [] = .ok [] := rfl
    rw [writeValues, hnone, Except.map, List.append_nil]
    rfl
  | cons given rest ih =>
    obtain ⟨target, value⟩ := given
    have hcheck : schema.checkValues ((target, value) :: rest) =
        schema.checkValue target value >>= fun change =>
          schema.checkValues rest >>= fun others => pure (change :: others) := List.mapM_cons
    rw [writeValues, hcheck, liftExcept_eq]
    cases hvalue : schema.checkValue target value with
    | error error => rfl
    | ok change =>
      have hcolumn : change.1 ∈ schema.columns :=
        List.mem_of_find?_eq_some (TableSchema.checkValue_eq_ok_iff.mp hvalue).1
      rw [inRange_ok_bind, hwrite supplied change.1 change.2 hcolumn, liftM_some_bind, ih]
      cases schema.checkValues rest with
      | error error => rfl
      | ok others => simp [bind, Except.bind, pure, Except.pure, Except.map]

/-- Values can be written into a row. -/
theorem writeValues_setAt_eq (hlawful : schema.Lawful) {row : Row}
    (hrow : row.length = schema.columns.length) (values : List (ColumnRef × Value)) :
    writeValues schema setAt row values =
      inRange ((schema.checkValues values).map (Table.overwrite row)) := by
  refine @writeValues_eq _ schema setAt (Table.overwrite row)
    (fun supplied column value hcolumn => ?_) [] values
  have hlt : column.index < (Table.overwrite row supplied).length := by
    rw [Table.length_overwrite, hrow]
    exact hlawful.index_lt hcolumn
  rw [setAt_eq hlt, Table.overwrite, Table.overwrite, List.foldl_append]
  rfl

/-- To set what is at the position of a column changes the value of this column only. -/
theorem set_map_index (hlawful : schema.Lawful) (column : Column) (f : Column → A) (item : A) :
    (schema.columns.map f).set column.index item =
      schema.columns.map fun other => if column.index = other.index then item else f other := by
  refine List.ext_getElem (by simp) fun i hi _ => ?_
  have hlt : i < schema.columns.length := by simpa using hi
  have hindex : schema.columns[i].index = i := hlawful.index i _ (List.getElem?_eq_getElem hlt)
  simp [List.getElem_set, hindex]

/-- Of the values that are given to a column, the last counts. -/
theorem suppliedFor_append_singleton (supplied : List (Column × Value)) (change : Column × Value)
    (column : Column) :
    suppliedFor (supplied ++ [change]) column =
      if change.1.index = column.index then some change.2 else suppliedFor supplied column := by
  by_cases hindex : change.1.index = column.index <;> simp [suppliedFor, hindex]

/-- The draft into which some values have been written. -/
def Draft.of (schema : TableSchema) (supplied : List (Column × Value)) : Draft where
  row := schema.columns.map fun column => (suppliedFor supplied column).getD .null
  given := schema.columns.map fun column => (suppliedFor supplied column).isSome

/-- Values can be written into an empty draft. -/
theorem writeValues_draft_eq (hlawful : schema.Lawful) (values : List (ColumnRef × Value)) :
    writeValues schema Draft.write
      ⟨List.replicate schema.columns.length .null, List.replicate schema.columns.length false⟩
      values = inRange ((schema.checkValues values).map (Draft.of schema)) := by
  have hempty : Draft.of schema [] =
      ⟨List.replicate schema.columns.length .null,
        List.replicate schema.columns.length false⟩ := by
    simp [Draft.of, suppliedFor]
  rw [← hempty]
  refine @writeValues_eq _ schema Draft.write (Draft.of schema)
    (fun supplied column value hcolumn => ?_) [] values
  have hlt := hlawful.index_lt hcolumn
  rw [Draft.write, Draft.of, setAt_eq (by simpa using hlt), setAt_eq (by simpa using hlt),
    set_map_index hlawful, set_map_index hlawful]
  simp only [Draft.of, suppliedFor_append_singleton, Option.bind_eq_bind, Option.bind_some,
    apply_ite (Option.getD · Value.null), apply_ite Option.isSome, Option.getD_some,
    Option.isSome_some]
  rfl

end Values

/-! ### Insertion and update -/

section Changes

variable {table : Table}

/-- A row can be looked for by a key. -/
theorem find?_eq (h : table.Sound) (key : RowKey) :
    find? table key = some (table.find? key) := by
  have hfind (rows : List Row) (hrows : ∀ row ∈ rows, table.schema.Fits row) :
      findRow table.schema key rows =
        some (rows.findIdx? fun row => (table.schema.keyOf row).same key) := by
    induction rows with
    | nil => rfl
    | cons row rest ih =>
      obtain ⟨hrow, hrest⟩ := List.forall_mem_cons.mp hrows
      rw [findRow, keyOf_eq h.lawful hrow.length, ih hrest, List.findIdx?_cons, Option.bind_eq_bind,
        Option.bind_some]
      cases (table.schema.keyOf row).same key <;> rfl
  rw [find?, Table.find?]
  split
  · rfl
  · exact hfind table.rows h.fits

/-- The columns to which nothing is given can be filled in, from any of them on. -/
theorem fillIn_eq (supplied : List (Column × Value)) (columns : List Column) (before : Row)
    (nextId : Int64)
    (hindex : ∀ i column, columns[i]? = some column → column.index = before.length + i) :
    fillIn (columns.map fun column => (column, (suppliedFor supplied column).isSome))
        (before ++ columns.map fun column => (suppliedFor supplied column).getD .null) nextId =
      some (before ++ (Table.fillRow supplied nextId columns).1,
        (Table.fillRow supplied nextId columns).2) := by
  induction columns generalizing before nextId with
  | nil => rfl
  | cons column rest ih =>
    have hown : column.index = before.length := hindex 0 column rfl
    have hlt (value : Value) (later : Row) : column.index < (before ++ value :: later).length := by
      rw [hown, List.length_append, List.length_cons]
      omega
    have hread (value : Value) (later : Row) :
        readAt (before ++ value :: later) column.index = some value := by
      rw [readAt, hown, List.getElem?_append_right (Nat.le_refl _), Nat.sub_self,
        List.getElem?_cons_zero]
    have hset (old value : Value) (later : Row) :
        setAt (before ++ old :: later) column.index value = some (before ++ value :: later) := by
      rw [setAt_eq (hlt old later), hown, List.set_append_right _ _ (Nat.le_refl _), Nat.sub_self,
        List.set_cons_zero]
    have hrest (value : Value) (nextId : Int64) :=
      ih (before ++ [value]) nextId fun i other hother => by
        rw [hindex (i + 1) other (by simpa using hother), List.length_append, List.length_singleton]
        omega
    simp only [List.append_assoc, List.singleton_append] at hrest
    simp only [List.map_cons, Table.fillRow, Table.fillColumn]
    cases hsupplied : suppliedFor supplied column with
    | some value =>
      simp only [Option.isSome_some, Option.getD_some, fillIn, hread, Option.bind_eq_bind,
        Option.bind_some, hrest]
    | none =>
      simp only [Option.isSome_none, Option.getD_none, fillIn]
      cases column.isAutoIncrement with
      | true => simp only [if_true, hset, Option.bind_eq_bind, Option.bind_some, hrest]
      | false =>
        cases column.default with
        | some value =>
          simp only [Bool.false_eq_true, if_false, hset, Option.bind_eq_bind, Option.bind_some,
            hrest, Option.getD_some]
        | none => simp only [Bool.false_eq_true, if_false, hrest, Option.getD_none]

/-- A draft can be filled in, which gives the new row. -/
theorem fillIn_draft_eq (hlawful : table.schema.Lawful) (supplied : List (Column × Value)) :
    fillIn (table.schema.columns.zip (Draft.of table.schema supplied).given)
      (Draft.of table.schema supplied).row table.nextId = some (table.drafted supplied) := by
  have hgiven : table.schema.columns.zip (Draft.of table.schema supplied).given =
      table.schema.columns.map fun column => (column, (suppliedFor supplied column).isSome) := by
    have hzip := @List.zip_map' _ _ _ id (fun column => (suppliedFor supplied column).isSome)
      table.schema.columns
    rwa [List.map_id] at hzip
  rw [hgiven]
  exact fillIn_eq supplied table.schema.columns [] table.nextId fun i column hcolumn => by
    rw [hlawful.index i column hcolumn, List.length_nil, Nat.zero_add]

/-- A row can be checked. -/
theorem checkRow_eq (h : table.Sound) {row : Row}
    (hrow : row.length = table.schema.columns.length) :
    checkRow table row = inRange (table.checkRow row) := by
  rw [checkRow, checkNulls_eq h.lawful hrow, Table.checkRow]
  cases table.schema.checkNulls row with
  | error error => rfl
  | ok _ =>
    rw [inRange_ok_bind, keyOf_eq h.lawful hrow, liftM_some_bind, find?_eq h, liftM_some_bind]
    by_cases hkey : table.schema.primaryKey.isEmpty = true
    · have hfind : table.find? (table.schema.keyOf row) = none := if_pos hkey
      simp only [if_pos hkey, hfind]
      rfl
    · simp only [if_neg hkey]
      cases table.find? (table.schema.keyOf row) <;> rfl

/-- A row can be inserted, with the same effect. -/
theorem insert_eq (h : table.Sound) (values : List (ColumnRef × Value)) :
    insert table values = some (table.insert values) := by
  simp only [insert, writeValues_draft_eq h.lawful, run_inRange, Option.bind_eq_bind,
    Option.bind_some]
  rcases table.insert_cases values with
    ⟨error, hvalues, hcase⟩ | ⟨supplied, hvalues, hcases⟩
  · rw [hvalues, hcase]
    rfl
  · have hcheck := checkRow_eq h
      (Table.length_fillRow supplied table.nextId table.schema.columns)
    rw [← Table.drafted] at hcheck
    simp only [hvalues, Except.map, fillIn_draft_eq h.lawful, Option.bind_some, hcheck, run_inRange]
    rcases hcases with ⟨error, hrow, hcase⟩ | ⟨hrow, hcase⟩ <;> rw [hrow, hcase] <;> rfl

/-- The row at a position can be updated, with the same effect. -/
theorem update_eq (h : table.Sound) {position : Nat} (hposition : position < table.rows.length)
    (values : List (ColumnRef × Value)) :
    update table position values = inRange (table.update position values) := by
  have hlength := (h.fits table.rows[position] (List.getElem_mem hposition)).length
  simp only [update, readAt_eq hposition, liftM_some_bind, writeValues_setAt_eq h.lawful hlength,
    Table.update, List.getElem?_eq_getElem hposition]
  cases table.schema.checkValues values with
  | error error => rfl
  | ok supplied =>
    have hnulls := checkNulls_eq h.lawful
      ((Table.length_overwrite table.rows[position] supplied).trans hlength)
    simp only [Except.map, inRange_ok_bind, hnulls, setAt_eq hposition, liftM_some_bind]
    exact inRange_bind fun _ => rfl

end Changes

end Strict

end Tabula
