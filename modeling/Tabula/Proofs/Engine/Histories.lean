import Tabula.Proofs.Engine.Reshaping
import Tabula.Proofs.Schema.Histories
import Tabula.Proofs.Service.Catalogs

/-!
# Databases as catalogs

A database takes the calls of a catalog, and rows of its tables change in between. It gives the same
history as a catalog of its name, since an answer depends on the schemas of the tables only and a
change of rows leaves these.
-/

namespace Tabula

/-! ### Steps -/

/-- A change of the rows of one table, or the undoing of such a change. -/
inductive RowWrite where
  | insert (values : List (ColumnRef × Value))
  | update (position : Nat) (values : List (ColumnRef × Value))
  | remove (position : Nat)
  | undo (change : RowChange)

/-- The table after a change of its rows. -/
def Table.written (table : Table) : RowWrite → Table
  | .insert values => (table.insert values).2
  | .update position values =>
    match table.update position values with
    | .ok (_, after) => after
    | .error _ => table
  | .remove position =>
    match table.remove? position with
    | some (_, after) => after
    | none => table
  | .undo change => { table with rows := change.undo table.rows }

/-- What can happen to a database: a call to it as to a catalog, or a change of rows. -/
inductive DatabaseStep where
  | call (call : CatalogCall)
  | write (table : String) (write : RowWrite)

/-- The call, if the step is one. -/
def DatabaseStep.call? : DatabaseStep → Option CatalogCall
  | call own => some own
  | write _ _ => none

namespace Database

/-- The answer of a database to a call, and the database after it. -/
def answer (database : Database) : CatalogCall → CatalogAnswer × Database
  | .create spec => CatalogAnswer.ofChange database (database.create spec)
  | .drop table => CatalogAnswer.ofChange database (database.drop table)
  | .describe table => (.described ((database.find? table).map (·.schema)), database)
  | .contains table => (.present (database.find? table).isSome, database)
  | .names => (.listed (database.tables.map (·.schema.name)), database)

/-- The database after a change of rows. A table that is not there has no rows to change. -/
def written (database : Database) (table : String) (write : RowWrite) : Database :=
  match database.find? table with
  | some found => database.put (found.written write)
  | none => database

/-- The database after one step. -/
def step (database : Database) : DatabaseStep → Database
  | .call call => (database.answer call).2
  | .write table write => database.written table write

/-- The database after some steps. -/
def after (database : Database) (steps : List DatabaseStep) : Database :=
  steps.foldl step database

/-- The calls among the steps in their order, each with its answer. -/
def history (database : Database) : List DatabaseStep → List CatalogEvent
  | [] => []
  | .call call :: rest => (call, (database.answer call).1) :: (database.answer call).2.history rest
  | .write table write :: rest => (database.written table write).history rest

end Database

/-! ### Databases -/

/-- A change of its rows does not change the schema of a table. -/
theorem Table.written_schema (table : Table) (write : RowWrite) :
    table.SameSchema (table.written write) := by
  cases write with
  | insert values => exact table.insert_schema values
  | update position values =>
    simp only [written]
    split
    · rename_i old after hupdate
      exact update_schema hupdate
    · rfl
  | remove position =>
    simp only [written]
    split
    · rename_i old after hremove
      obtain ⟨row, -, hremoved⟩ := Option.map_eq_some_iff.mp hremove
      cases hremoved
      rfl
    · rfl
  | undo change => rfl

namespace Database

variable {database : Database}

/-- A change of rows changes nothing in the catalog. -/
theorem catalog_written (database : Database) (table : String) (write : RowWrite) :
    (database.written table write).catalog = database.catalog := by
  unfold written
  split
  · rename_i found hfound
    have hname : found.schema.name = table := name_of_find? hfound
    have hschema := found.written_schema write
    have hput : List.Forall₂ Table.SameSchema database.tables
        (database.put (found.written write)).tables := by
      have hreplace := @forall₂_replaceFirst _ (·.schema.name == (found.written write).schema.name)
        found database.tables Table.SameSchema database.tables (found.written write)
        (List.forall₂_same.mpr fun own _ => Table.SameSchema.refl own)
        (fun a b hpair => by rw [Table.SameSchema.name a b hpair]) hschema
      rwa [replaceFirst_self (by rwa [hschema, hname])] at hreplace
    rw [catalog, catalog, map_eq_of_forall₂ hput, put_name]
  · rfl

/-- A database answers a call as its catalog does. -/
theorem catalog_answer (database : Database) (call : CatalogCall) :
    (database.answer call).1 = (database.catalog.answer call).1 ∧
      (database.answer call).2.catalog = (database.catalog.answer call).2 := by
  have hchange (change : Except SchemaError Database) :
      (CatalogAnswer.ofChange database change).1 =
          (CatalogAnswer.ofChange database.catalog (change.map catalog)).1 ∧
        (CatalogAnswer.ofChange database change).2.catalog =
          (CatalogAnswer.ofChange database.catalog (change.map catalog)).2 := by
    cases change <;> exact ⟨rfl, rfl⟩
  cases call with
  | create spec =>
    simp only [answer, Catalog.answer, ← database.catalog_create spec]
    exact hchange _
  | drop table =>
    simp only [answer, Catalog.answer, ← database.catalog_drop table]
    exact hchange _
  | describe table =>
    refine ⟨congrArg CatalogAnswer.described ?_, rfl⟩
    rw [Catalog.describe?, catalog, List.find?_map]
    rfl
  | contains table =>
    exact ⟨congrArg CatalogAnswer.present (database.catalog_contains table).symm, rfl⟩
  | names =>
    refine ⟨congrArg CatalogAnswer.listed ?_, rfl⟩
    rw [Catalog.tableNames, catalog, List.map_map]
    rfl

/-- A database gives the history of its catalog, and keeps the same tables as it. -/
theorem catalog_after (database : Database) (steps : List DatabaseStep) :
    database.history steps = database.catalog.history (steps.filterMap DatabaseStep.call?) ∧
      (database.after steps).catalog =
        database.catalog.after (steps.filterMap DatabaseStep.call?) := by
  induction steps generalizing database with
  | nil => exact ⟨rfl, rfl⟩
  | cons step rest ih =>
    cases step with
    | call call =>
      obtain ⟨hanswer, hcatalog⟩ := database.catalog_answer call
      obtain ⟨hhistory, hafter⟩ := ih (database.answer call).2
      rw [hcatalog] at hhistory hafter
      exact ⟨congrArg₂ _ (congrArg (call, ·) hanswer) hhistory, hafter⟩
    | write table write =>
      obtain ⟨hhistory, hafter⟩ := ih (database.written table write)
      rw [database.catalog_written table write] at hhistory hafter
      exact ⟨hhistory, hafter⟩

/-- A call has no effect unless it changes the tables. -/
theorem answer_of_ne_done (database : Database) (call : CatalogCall)
    (h : (database.answer call).1 ≠ .done) : (database.answer call).2 = database := by
  cases call with
  | create spec => exact CatalogAnswer.ofChange_of_ne_done h
  | drop table => exact CatalogAnswer.ofChange_of_ne_done h
  | describe table => rfl
  | contains table => rfl
  | names => rfl

/-- A table that was just created has no rows, and its numbers begin with one. -/
theorem find?_of_create {after : Database} {spec : TableSpec}
    (h : database.create spec = .ok after) :
    ∃ schema, TableSchema.ofSpec database.name spec = .ok schema ∧
      after.find? spec.name = some ⟨schema, [], 1⟩ := by
  obtain ⟨schema, hschema, hname, hnew, rfl⟩ := create_appends h
  refine ⟨schema, hschema, ?_⟩
  rw [find?, List.find?_append, ← find?, hnew]
  simp [Table.empty, hname]

end Database

open CatalogEvent in
/-- A catalog and a database of the same name that take the same calls give the same history, also
if rows of the database are changed in between. Both are maps in the order of insertion: each answer
is what the tables that stand at that point demand, where a table stands if it was created and not
dropped since; a table is described as its latest creation says; a call that is not a change that
succeeded has no effect. In a database a table begins without rows and with the number one each
time it is created. -/
theorem Catalog.interchangeable (name : String) (steps : List DatabaseStep) :
    let calls := steps.filterMap DatabaseStep.call?
    let history := (Catalog.empty name).history calls
    let catalog := (Catalog.empty name).after calls
    let database := (Database.empty name).after steps
    (Database.empty name).history steps = history ∧
    (∀ (earlier : List CatalogEvent) (call : CatalogCall) (answer : CatalogAnswer)
        (later : List CatalogEvent), history = earlier ++ (call, answer) :: later →
      answer = expected name earlier call) ∧
    (∀ (table : String) (schema : TableSchema), catalog.describe? table = some schema ↔
      ∃ (earlier : List CatalogEvent) (spec : TableSpec) (later : List CatalogEvent),
        history = earlier ++ (.create spec, .done) :: later ∧ (.drop table, .done) ∉ later ∧
          spec.name = table ∧ TableSchema.ofSpec name spec = .ok schema) ∧
    (∀ call, (catalog.answer call).1 ≠ .done → (catalog.answer call).2 = catalog) ∧
    (∀ call, (database.answer call).1 ≠ .done → (database.answer call).2 = database) ∧
    ∀ spec, (database.answer (.create spec)).1 = .done →
      ∃ schema, TableSchema.ofSpec name spec = .ok schema ∧
        (database.answer (.create spec)).2.find? spec.name = some ⟨schema, [], 1⟩ := by
  intro calls history catalog database
  have hshows : catalog.Shows name history := (shows_empty name).after calls
  obtain ⟨hhistory, hcatalog⟩ := (Database.empty name).catalog_after steps
  have hname : database.name = name := (congrArg Catalog.name hcatalog).trans hshows.name
  refine ⟨hhistory, fun earlier call answer later hsplit => ?_, fun table schema => ?_,
    catalog.answer_of_ne_done, database.answer_of_ne_done, fun spec hdone => ?_⟩
  · exact (shows_empty name).expected_of_history hsplit
  · rw [hshows.describe?_eq, Option.bind_eq_some_iff]
    simp only [find?_eq_some_iff_of_nodup hshows.nodup, mem_standing_iff, toOption_eq_some_iff]
    constructor
    · rintro ⟨spec, ⟨⟨earlier, later, hsplit, hlater⟩, rfl⟩, hschema⟩
      exact ⟨earlier, spec, later, hsplit, hlater, rfl, hschema⟩
    · rintro ⟨earlier, spec, later, hsplit, hlater, rfl, hschema⟩
      exact ⟨spec, ⟨⟨earlier, later, hsplit, hlater⟩, rfl⟩, hschema⟩
  · cases hcreate : database.create spec with
    | error error => simp [Database.answer, hcreate, CatalogAnswer.ofChange] at hdone
    | ok after =>
      simp only [Database.answer, hcreate, CatalogAnswer.ofChange]
      rw [← hname]
      exact Database.find?_of_create hcreate

/-- A table of visitors with one column. -/
def visitorsSpec (key : String) : TableSpec :=
  ⟨"visitors", [⟨key, .int, false, true, true, none, none⟩]⟩

/-- A table of visitors is created at the desk, gets a row, is dropped, and is created again with
another column. -/
theorem Catalog.interchangeable_desk :
    let steps : List DatabaseStep :=
      [.call (.create (visitorsSpec "id")), .write "visitors" (.insert []),
        .call (.drop "visitors")]
    let database := (Database.empty "desk").after steps
    (Database.empty "desk").history steps =
        (Catalog.empty "desk").history [.create (visitorsSpec "id"), .drop "visitors"] ∧
      (Catalog.empty "desk").history [.create (visitorsSpec "id"), .drop "visitors"] =
        [(.create (visitorsSpec "id"), .done), (.drop "visitors", .done)] ∧
      (database.answer (.create (visitorsSpec "number"))).1 = .done ∧
      ∃ schema, TableSchema.ofSpec "desk" (visitorsSpec "number") = .ok schema ∧
        (database.answer (.create (visitorsSpec "number"))).2.find? "visitors" =
          some ⟨schema, [], 1⟩ := by
  intro steps database
  obtain ⟨hhistory, -, -, -, -, hfresh⟩ := interchangeable "desk" steps
  have hdone : (database.answer (.create (visitorsSpec "number"))).1 = .done := rfl
  exact ⟨hhistory, rfl, hdone, hfresh (visitorsSpec "number") hdone⟩

end Tabula
