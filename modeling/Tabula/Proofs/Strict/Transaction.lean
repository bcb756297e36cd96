import Tabula.Proofs.Service.Delete
import Tabula.Proofs.Strict.Query
import Tabula.Proofs.Strict.Table
import Tabula.Proofs.Table.Keys
import Tabula.Proofs.Transaction.Reshaping

/-!
# Positions in transactions

A transaction looks rows up by their keys and then uses the positions that it has found; rolling back
uses the positions that the log has noted. In a sound engine all of them are in range: a key leads to
a row of its table; the keys of different rows lead to different positions, so those that are still to
be removed from the back are not moved by what was removed before; and every change on the log is
undone when the rows are as the change has left them.
-/

namespace Tabula

namespace Strict

/-! ### Definitions -/

/-- Inserts a row and gives its key. -/
def insertWith (transaction : Transaction) (statement : InsertStatement) :
    Option (Except StoreError RowKey × Transaction) := do
  match transaction.engine.table statement.database statement.table with
  | .error error => return (.error (.schema error), transaction)
  | .ok table =>
    match ← insert table statement.values with
    | (.error error, table) =>
      return (.error error, transaction.record statement.database table [])
    | (.ok position, table) =>
      let key ← keyOf table.schema (← readAt table.rows position)
      return (.ok key, transaction.record statement.database table [.inserted position])

/-- Updates the row with the given key and gives that key. -/
def updateWith (transaction : Transaction) (statement : UpdateStatement) :
    Option (Except StoreError RowKey × Transaction) := do
  match transaction.engine.table statement.database statement.table with
  | .error error => return (.error (.schema error), transaction)
  | .ok table =>
    let key : RowKey := ⟨[statement.keyValue]⟩
    match ← find? table key with
    | none => return (.error (.recordNotFound table.schema.qualifiedName key), transaction)
    | some position =>
      match ← (update table position statement.values).run with
      | .error error => return (.error error, transaction)
      | .ok (old, table) =>
        return (.ok key, transaction.record statement.database table [.updated position old])

/-- Carries out one statement. -/
def write (transaction : Transaction) :
    WriteStatement → Option (Except StoreError RowKey × Transaction)
  | .insert statement => insertWith transaction statement
  | .update statement => updateWith transaction statement

/-- Takes the rows at some positions out of a table, one after the other. -/
def removeRows (table : Table) (changes : List RowChange) :
    List Nat → Option (Table × List RowChange)
  | [] => some (table, changes)
  | position :: rest => do
    let (row, rows) ← eraseAt table.rows position
    removeRows { table with rows := rows } (.removed position row :: changes) rest

/-- Deletes the rows of a plan and gives their keys. -/
def delete (transaction : Transaction) (plan : DeletePlan) :
    Option (Except StoreError (List RowKey) × Transaction) := do
  match ← (run plan.keyProbe transaction.engine).run with
  | .error error => return (.error error, transaction)
  | .ok [] => return (.error (.noRecordsMatch plan.table.qualifiedName), transaction)
  | .ok rows =>
    match transaction.engine.table plan.table.database plan.table.name with
    | .error error => return (.error (.schema error), transaction)
    | .ok table =>
      let keys := rows.map RowKey.mk
      let found ← keys.mapM (find? table)
      let (table, changes) ← removeRows table [] (found.filterMap id).mergeSort.reverse
      return (.ok keys, transaction.record plan.table.database table changes)

/-- The rows before a change. -/
def undo (rows : List Row) : RowChange → Option (List Row)
  | .inserted position => (eraseAt rows position).map (·.2)
  | .updated position old => setAt rows position old
  | .removed position old => insertAt rows position old

/-- The engine before a change. -/
def undoEntry (engine : Engine) (entry : UndoEntry) : Option Engine :=
  match engine.table entry.database entry.table with
  | .error _ => some engine
  | .ok table => do
    let rows ← undo table.rows entry.change
    return engine.putTable entry.database { table with rows := rows }

/-- Ends the transaction and undoes its changes. -/
def rollback (transaction : Transaction) : Option Engine :=
  transaction.log.foldlM undoEntry transaction.engine

variable {transaction : Transaction} {table : Table}

/-! ### Statements -/

/-- The row of a key stands at a position of its table. -/
theorem lt_of_find? {key : RowKey} {position : Nat} (h : table.find? key = some position) :
    position < table.rows.length := by
  unfold Table.find? at h
  split at h
  · cases h
  · obtain ⟨hlt, -⟩ := List.findIdx?_eq_some_iff_getElem.mp h
    exact hlt

/-- A row can be inserted and read again for its key. -/
theorem insertWith_eq (h : transaction.engine.Sound) (statement : InsertStatement) :
    insertWith transaction statement = some (transaction.insert statement) := by
  unfold insertWith Transaction.insert
  cases hfound : transaction.engine.table statement.database statement.table with
  | error error => rfl
  | ok table =>
    obtain ⟨-, hsound⟩ := Engine.ForAllTables.of_table h hfound
    have hafter := hsound.insert statement.values
    simp only [insert_eq hsound, Option.bind_eq_bind, Option.bind_some]
    rcases hinsert : table.insert statement.values with ⟨error | position, after⟩
    · rfl
    · rw [hinsert] at hafter
      obtain ⟨rfl, row, hrows⟩ := Table.insert_rows_of_ok hinsert
      have hlt : table.rows.length < after.rows.length := by simp [hrows]
      have hrow := hafter.fits after.rows[table.rows.length] (List.getElem_mem hlt)
      simp only [readAt_eq hlt, keyOf_eq hafter.lawful hrow.length, Option.bind_some,
        List.getD_eq_getElem after.rows [] hlt]
      rfl

/-- A row can be looked up and updated. -/
theorem updateWith_eq (h : transaction.engine.Sound) (statement : UpdateStatement) :
    updateWith transaction statement = some (transaction.update statement) := by
  unfold updateWith Transaction.update
  cases hfound : transaction.engine.table statement.database statement.table with
  | error error => rfl
  | ok table =>
    obtain ⟨-, hsound⟩ := Engine.ForAllTables.of_table h hfound
    simp only [find?_eq hsound, Option.bind_eq_bind, Option.bind_some]
    cases hposition : table.find? ⟨[statement.keyValue]⟩ with
    | none => rfl
    | some position =>
      simp only [update_eq hsound (lt_of_find? hposition), run_inRange, Option.bind_some]
      cases table.update position statement.values <;> rfl

/-- A statement can be carried out. -/
theorem write_eq (h : transaction.engine.Sound) (statement : WriteStatement) :
    write transaction statement = some (transaction.write statement) := by
  cases statement with
  | insert statement => exact insertWith_eq h statement
  | update statement => exact updateWith_eq h statement

/-! ### Deletion -/

/-- Rows can be removed at positions that decrease from one that is in range. -/
theorem removeRows_eq {positions : List Nat} (hdecrease : positions.Pairwise (· > ·))
    (hrange : ∀ position ∈ positions, position < table.rows.length) (changes : List RowChange) :
    removeRows table changes positions = some (Transaction.removeRows table changes positions) := by
  induction positions generalizing table changes with
  | nil => rfl
  | cons position rest ih =>
    obtain ⟨hfirst, hrest⟩ := List.pairwise_cons.mp hdecrease
    have hposition := hrange position List.mem_cons_self
    have hleft : ∀ other ∈ rest, other < (table.rows.eraseIdx position).length := by
      intro other hother
      have hlt : other < position := hfirst other hother
      rw [List.length_eraseIdx, if_pos hposition]
      omega
    simp only [removeRows, eraseAt_eq hposition, Option.bind_eq_bind, Option.bind_some,
      Transaction.removeRows, Table.remove?, List.getElem?_eq_getElem hposition, Option.map_some]
    exact @ih { table with rows := table.rows.eraseIdx position } hrest hleft _

/-- The key of a row leads to this row only, if it leads to any. -/
theorem eq_of_find?_keyOf (h : table.Sound) {i position : Nat} (hi : i < table.rows.length)
    (hfind : table.find? (table.schema.keyOf table.rows[i]) = some position) : position = i := by
  have hkey := Table.primaryKey_ne_nil_of_find? hfind
  have hlt := lt_of_find? hfind
  rw [Table.find?, if_neg (by simpa using hkey)] at hfind
  obtain ⟨_, hsame, -⟩ := List.findIdx?_eq_some_iff_getElem.mp hfind
  by_contra hne
  rw [h.keys hkey position i hlt hi hne] at hsame
  cases hsame

/-- The keys of some of the rows lead to positions that increase. -/
theorem pairwise_find? (h : table.Sound) (test : Row → Bool) :
    (((table.rows.filter test).map table.schema.keyOf).filterMap table.find?).Pairwise (· < ·) := by
  have hall : table.rows.Pairwise fun earlier later => ∀ first,
      table.find? (table.schema.keyOf earlier) = some first → ∀ second,
      table.find? (table.schema.keyOf later) = some second → first < second := by
    refine List.pairwise_iff_getElem.mpr fun i j hi hj hlt first hfirst second hsecond => ?_
    rwa [eq_of_find?_keyOf h hi hfirst, eq_of_find?_keyOf h hj hsecond]
  rw [List.pairwise_filterMap, List.pairwise_map]
  exact hall.sublist List.filter_sublist

/-- The rows of a plan can be deleted. -/
theorem delete_eq (h : transaction.engine.Sound) {filter : Option Predicate}
    (hfound : transaction.engine.table table.schema.database table.schema.name = .ok table) :
    delete transaction (.of table.schema filter) =
      some (transaction.delete (.of table.schema filter)) := by
  obtain ⟨-, hsound⟩ := Engine.ForAllTables.of_table h hfound
  have hprobe := SelectPlan.run_scan_key filter hfound
  have hincrease := pairwise_find? hsound (table.schema.selects filter)
  have hkeys : ((table.rows.filter (table.schema.selects filter)).map fun row =>
      (table.schema.keyOf row).values).map RowKey.mk =
        (table.rows.filter (table.schema.selects filter)).map table.schema.keyOf :=
    List.map_map ..
  rw [← hkeys] at hincrease
  simp only [delete, run_eq, run_inRange, DeletePlan.of, hprobe, Transaction.delete,
    Option.bind_eq_bind, Option.bind_some]
  generalize (table.rows.filter (table.schema.selects filter)).map (fun row =>
    (table.schema.keyOf row).values) = rows at hincrease ⊢
  cases rows with
  | nil => rfl
  | cons row rest =>
    simp only [hfound]
    generalize (row :: rest).map RowKey.mk = keys at hincrease ⊢
    have hfind : keys.mapM (find? table) = some (keys.map table.find?) :=
      mapM_eq_some fun key _ => find?_eq hsound key
    have hsorted : (keys.filterMap table.find?).mergeSort = keys.filterMap table.find? :=
      List.mergeSort_of_pairwise (hincrease.imp fun hlt => decide_eq_true (Nat.le_of_lt hlt))
    have hremove := @removeRows_eq table (keys.filterMap table.find?).reverse
      (List.pairwise_reverse.mpr hincrease) (fun position hposition => by
        obtain ⟨key, -, hfind⟩ := List.mem_filterMap.mp (List.mem_reverse.mp hposition)
        exact lt_of_find? hfind) []
    simp only [hfind, Option.bind_some, List.filterMap_map, Function.id_comp, hsorted, hremove]
    rfl

/-! ### Rolling back -/

/-- A change can be undone if its position is in range. -/
theorem undo_eq {rows : List Row} {change : RowChange} (h : change.InRange rows) :
    undo rows change = some (change.undo rows) := by
  cases change with
  | inserted position => rw [undo, eraseAt_eq h]; rfl
  | updated position old => exact setAt_eq h old
  | removed position old => exact insertAt_eq h old

/-- A log can be undone if its positions are in range. -/
theorem rollback_eq (h : UndoEntry.AllInRange transaction.engine transaction.log) :
    rollback transaction = some transaction.rollback := by
  rw [rollback, Transaction.rollback]
  generalize transaction.engine = engine at h
  generalize transaction.log = log at h
  induction log generalizing engine with
  | nil => rfl
  | cons entry rest ih =>
    have hentry : undoEntry engine entry = some (entry.undo engine) := by
      unfold undoEntry UndoEntry.undo
      cases htable : engine.table entry.database entry.table with
      | error error => rfl
      | ok table =>
        simp only [undo_eq (h.1 table htable)]
        rfl
    rw [List.foldlM_cons, hentry, List.foldl_cons]
    exact ih (entry.undo engine) h.2

end Strict

end Tabula
