import Tabula.Proofs.Transaction.Integrity
import Tabula.Settings.Basic

/-!
# Engines that have been set up

An engine is set up from settings, from databases, or by creating and dropping tables later on.
Whichever way is taken, all its tables are empty, have lawful schemas and know their databases. So
an engine is sound before the first request.
-/

namespace Tabula

/-- Databases whose tables were made by creating them. -/
inductive Database.Created : Database → Prop
  | empty (name : String) : Created (.empty name)
  | create {database after : Database} {spec : TableSpec} (earlier : Created database)
      (accepted : database.create spec = .ok after) : Created after
  | drop {database after : Database} {table : String} (earlier : Created database)
      (accepted : database.drop table = .ok after) : Created after

/-- Engines that no request has reached yet. -/
inductive Engine.SetUp : Engine → Prop
  | build {settings : EngineSettings} {engine : Engine}
      (accepted : settings.build = .ok engine) : SetUp engine
  | ofDatabases {databases : List Database} {engine : Engine}
      (created : ∀ database ∈ databases, database.Created)
      (accepted : Engine.ofDatabases databases = .ok engine) : SetUp engine
  | createTable {engine after : Engine} {database : String} {spec : TableSpec}
      (earlier : SetUp engine) (accepted : engine.createTable database spec = .ok after) :
      SetUp after
  | dropTable {engine after : Engine} {database table : String} (earlier : SetUp engine)
      (accepted : engine.dropTable database table = .ok after) : SetUp after

/-- An empty table with a lawful schema that knows its database. -/
structure Table.Fresh (database : String) (table : Table) : Prop where
  lawful : table.schema.Lawful
  database : table.schema.database = database
  empty : table = Table.empty table.schema

namespace Database

variable {database after : Database}

/-- A table is created exactly if its name is new and its description is lawful, at the end. -/
theorem create_eq_ok_iff {spec : TableSpec} :
    database.create spec = .ok after ↔
      database.find? spec.name = none ∧ spec.Lawful ∧
        after = { database with
          tables := database.tables ++ [.empty (spec.schemaIn database.name)] } := by
  rw [create]
  cases database.find? spec.name with
  | some found => simp
  | none =>
    simp only [Option.isSome_none, Bool.false_eq_true, if_false, bind_eq_ok_iff,
      TableSchema.ofSpec_eq_ok_iff, true_and]
    constructor
    · rintro ⟨_, ⟨hlawful, rfl⟩, hafter⟩
      cases hafter
      exact ⟨hlawful, rfl⟩
    · rintro ⟨hlawful, rfl⟩
      exact ⟨_, ⟨hlawful, rfl⟩, rfl⟩

/-- A table is created only under a new name, at the end. -/
theorem create_appends {spec : TableSpec} (h : database.create spec = .ok after) :
    ∃ schema, TableSchema.ofSpec database.name spec = .ok schema ∧ schema.name = spec.name ∧
      database.find? spec.name = none ∧
      after = { database with tables := database.tables ++ [.empty schema] } := by
  obtain ⟨hnew, hlawful, rfl⟩ := create_eq_ok_iff.mp h
  exact ⟨_, TableSchema.ofSpec_eq_ok_iff.mpr ⟨hlawful, rfl⟩, rfl, hnew, rfl⟩

/-- A table is dropped only if it is there. -/
theorem drop_erases {table : String} (h : database.drop table = .ok after) :
    (database.find? table).isSome = true ∧
      after = { database with tables := database.tables.eraseP (·.schema.name == table) } := by
  unfold drop at h
  split at h
  · rename_i hfound
    cases h
    exact ⟨hfound, rfl⟩
  · cases h

/-- Creating a table adds a fresh one and keeps the name of the database. -/
theorem create_eq_ok {spec : TableSpec} (h : database.create spec = .ok after) :
    after.name = database.name ∧
      ∃ table, table.Fresh database.name ∧ after.tables = database.tables ++ [table] := by
  obtain ⟨schema, hschema, -, -, rfl⟩ := create_appends h
  obtain ⟨hlawful, hdatabase, -⟩ := TableSchema.lawful_of_ofSpec hschema
  exact ⟨rfl, Table.empty schema, ⟨hlawful, hdatabase, rfl⟩, rfl⟩

/-- Dropping a table leaves some of the tables and keeps the name of the database. -/
theorem drop_eq_ok {table : String} (h : database.drop table = .ok after) :
    after.name = database.name ∧ after.tables.Sublist database.tables := by
  obtain ⟨-, rfl⟩ := drop_erases h
  exact ⟨rfl, List.eraseP_sublist⟩

/-- Creating a table leaves fresh tables only. -/
theorem fresh_of_create {spec : TableSpec}
    (hfresh : ∀ table ∈ database.tables, table.Fresh database.name)
    (h : database.create spec = .ok after) : ∀ table ∈ after.tables, table.Fresh after.name := by
  obtain ⟨hname, added, hadded, htables⟩ := create_eq_ok h
  rw [hname, htables]
  intro table htable
  rcases List.mem_append.mp htable with hold | hnew
  · exact hfresh table hold
  · rw [List.mem_singleton.mp hnew]
    exact hadded

/-- Dropping a table leaves fresh tables only. -/
theorem fresh_of_drop {name : String}
    (hfresh : ∀ table ∈ database.tables, table.Fresh database.name)
    (h : database.drop name = .ok after) : ∀ table ∈ after.tables, table.Fresh after.name := by
  obtain ⟨hname, htables⟩ := drop_eq_ok h
  rw [hname]
  exact fun table htable => hfresh table (htables.subset htable)

/-- All tables of a created database are fresh. -/
theorem Created.fresh (h : database.Created) :
    ∀ table ∈ database.tables, table.Fresh database.name := by
  induction h with
  | empty name => simp [Database.empty]
  | create _ accepted ih => exact fresh_of_create ih accepted
  | drop _ accepted ih => exact fresh_of_drop ih accepted

/-- Creating tables one by one makes a created database. -/
theorem Created.createAll {specs : List TableSpec} (h : database.Created)
    (hall : database.createAll specs = .ok after) : after.Created := by
  induction specs generalizing database with
  | nil =>
    cases hall
    exact h
  | cons spec rest ih =>
    obtain ⟨cast, -, hall⟩ := bind_eq_ok_iff.mp hall
    obtain ⟨next, hnext, hall⟩ := bind_eq_ok_iff.mp hall
    exact ih (h.create (mapError_eq_ok_iff.mp hnext)) hall

end Database

namespace Engine

variable {engine after : Engine}

/-- Databases are registered exactly if their names are new and differ, in their order. -/
theorem register_eq_ok_iff {earlier databases registered : List Database} :
    register earlier databases = .ok registered ↔
      (databases.map (·.name)).Nodup ∧
        (∀ database ∈ databases, database.name ∉ earlier.map (·.name)) ∧
        registered = earlier ++ databases := by
  induction databases generalizing earlier with
  | nil => simp [register, eq_comm]
  | cons database rest ih =>
    have htaken : earlier.any (·.name == database.name) = true ↔
        database.name ∈ earlier.map (·.name) := by
      simp
    simp only [register, htaken]
    split
    · rename_i hmem
      exact iff_of_false (by simp) fun h => h.2.1 database List.mem_cons_self hmem
    · rename_i hmem
      rw [ih, List.map_cons, List.nodup_cons, List.forall_mem_cons, List.append_assoc,
        List.singleton_append]
      simp only [List.map_append, List.map_cons, List.map_nil, List.mem_append,
        List.mem_singleton, not_or]
      constructor
      · rintro ⟨hnodup, hnew, rfl⟩
        have hrepeated : database.name ∉ rest.map (·.name) := fun hmem => by
          obtain ⟨other, hother, heq⟩ := List.mem_map.mp hmem
          exact (hnew other hother).2 heq
        exact ⟨⟨hrepeated, hnodup⟩, ⟨hmem, fun other hother => (hnew other hother).1⟩, rfl⟩
      · rintro ⟨⟨hrepeated, hnodup⟩, ⟨-, hnew⟩, rfl⟩
        exact ⟨hnodup, fun other hother =>
          ⟨hnew other hother, fun heq => hrepeated (heq ▸ List.mem_map_of_mem hother)⟩, rfl⟩

/-- An engine is made of databases exactly if their names differ. -/
theorem ofDatabases_eq_ok_iff {databases : List Database} :
    ofDatabases databases = .ok engine ↔
      (databases.map (·.name)).Nodup ∧ engine = ⟨databases, 0⟩ := by
  rw [ofDatabases, bind_eq_ok_iff]
  simp only [register_eq_ok_iff]
  constructor
  · rintro ⟨_, ⟨hnodup, -, rfl⟩, hengine⟩
    cases hengine
    exact ⟨hnodup, rfl⟩
  · rintro ⟨hnodup, rfl⟩
    exact ⟨_, ⟨hnodup, by simp, rfl⟩, rfl⟩

/-- The engine of some databases has these. -/
theorem databases_of_ofDatabases {databases : List Database}
    (h : ofDatabases databases = .ok engine) : engine.databases = databases := by
  rw [(ofDatabases_eq_ok_iff.mp h).2]

/-- An engine that is built from settings has created databases only. -/
theorem created_of_build {settings : EngineSettings} (h : settings.build = .ok engine) :
    ∀ database ∈ engine.databases, database.Created := by
  obtain ⟨databases, hdatabases, h⟩ := bind_eq_ok_iff.mp h
  rw [databases_of_ofDatabases (mapError_eq_ok_iff.mp h)]
  intro database hdatabase
  obtain ⟨own, -, hbuild⟩ := exists_of_mem_right (mapM_eq_ok_iff.mp hdatabases) hdatabase
  exact (Database.Created.empty own.name).createAll hbuild

/-- A database that is looked up is one of the databases of the engine. -/
theorem mem_of_database {name : String} {found : Database} (h : engine.database name = .ok found) :
    found ∈ engine.databases := by
  unfold Engine.database at h
  split at h
  · rename_i hfind
    cases h
    exact List.mem_of_find?_eq_some hfind
  · cases h

/-- All tables of an engine that has been set up are fresh. -/
theorem SetUp.fresh (h : engine.SetUp) :
    engine.ForAllTables fun database table => table.Fresh database := by
  induction h with
  | build accepted =>
    exact fun database hdatabase => (created_of_build accepted database hdatabase).fresh
  | ofDatabases created accepted =>
    rw [ForAllTables, databases_of_ofDatabases accepted]
    exact fun database hdatabase => (created database hdatabase).fresh
  | createTable _ accepted ih =>
    obtain ⟨found, hfound, accepted⟩ := bind_eq_ok_iff.mp accepted
    obtain ⟨changed, hcreate, hput⟩ := bind_eq_ok_iff.mp accepted
    cases hput
    exact ih.put (Database.fresh_of_create (ih found (mem_of_database hfound)) hcreate)
  | dropTable _ accepted ih =>
    obtain ⟨found, hfound, accepted⟩ := bind_eq_ok_iff.mp accepted
    obtain ⟨changed, hdrop, hput⟩ := bind_eq_ok_iff.mp accepted
    cases hput
    exact ih.put (Database.fresh_of_drop (ih found (mem_of_database hfound)) hdrop)

/-- An engine is sound when it has been set up. -/
theorem SetUp.sound (h : engine.SetUp) : engine.Sound := by
  intro database hdatabase table htable
  obtain ⟨hlawful, hname, hempty⟩ := h.fresh database hdatabase table htable
  exact ⟨hname, hempty ▸ Table.Sound.empty hlawful⟩

/-- An engine has no numbers when it has been set up. -/
theorem SetUp.idsBelow (h : engine.SetUp) : engine.IdsBelow := by
  intro database hdatabase table htable
  rw [(h.fresh database hdatabase table htable).empty]
  exact Table.IdsBelow.empty table.schema

end Engine

/-! ### A hotel -/

/-- The settings of a hotel without guests. -/
def guestSettings : EngineSettings where
  databases := [⟨"hotel", [⟨"guests", guestSchema.columns.map (·.toColumnSpec)⟩]⟩]

/-- A hotel is set up from its settings. -/
theorem setUp_guestEngine : (guestEngine [] 1).SetUp :=
  @Engine.SetUp.build guestSettings (guestEngine [] 1) rfl

end Tabula
