import Tabula.Proofs.Schema.Lookup
import Tabula.Proofs.Service.Integrity

/-!
# Catalogs of a service

A database seen without its rows is a catalog. Creating and dropping tables has the same effect on
both, and a request changes no schema. So the catalogs of a service that requests lead to have been
made by creating and dropping tables.
-/

namespace Tabula

namespace Database

variable {database : Database}

/-- The tables of a catalog are found as those of its database. -/
theorem catalog_contains (database : Database) (name : String) :
    database.catalog.contains name = (database.find? name).isSome := by
  rw [Catalog.contains, Catalog.describe?, catalog, List.find?_map, Option.isSome_map]
  rfl

/-- Creating a table in a database creates it in the catalog. -/
theorem catalog_create (database : Database) (spec : TableSpec) :
    (database.create spec).map catalog = database.catalog.create spec := by
  rw [create, Catalog.create, catalog_contains]
  split
  · rfl
  · change (TableSchema.ofSpec database.name spec >>= _).map catalog =
      TableSchema.ofSpec database.name spec >>= _
    cases TableSchema.ofSpec database.name spec with
    | error error => rfl
    | ok schema => simp [bind, Except.bind, pure, Except.pure, Except.map, catalog, Table.empty]

/-- Dropping a table from a database drops it from the catalog. -/
theorem catalog_drop (database : Database) (name : String) :
    (database.drop name).map catalog = database.catalog.drop name := by
  rw [drop, Catalog.drop, catalog_contains]
  split
  · simp [Except.map, catalog, List.eraseP_map, Function.comp_def]
  · rfl

/-- A catalog that has been made is still so after a table has been created in its database. -/
theorem made_create {after : Database} {spec : TableSpec} (h : database.catalog.Made)
    (hcreate : database.create spec = .ok after) : after.catalog.Made := by
  have hcatalog : database.catalog.create spec = .ok after.catalog := by
    rw [← catalog_create, hcreate]
    rfl
  exact h.create hcatalog

/-- A catalog that has been made is still so after a table has been dropped from its database. -/
theorem made_drop {after : Database} {name : String} (h : database.catalog.Made)
    (hdrop : database.drop name = .ok after) : after.catalog.Made := by
  have hcatalog : database.catalog.drop name = .ok after.catalog := by
    rw [← catalog_drop, hdrop]
    rfl
  exact h.drop hcatalog

/-- The catalog of a created database has been made. -/
theorem Created.made (h : database.Created) : database.catalog.Made := by
  induction h with
  | empty name => exact .empty name
  | create _ accepted ih =>
    exact made_create ih accepted
  | drop _ accepted ih =>
    exact made_drop ih accepted

end Database

namespace Engine

variable {engine after : Engine}

/-- The catalogs of an engine are those of its databases. -/
theorem made_iff :
    engine.registry.Made ↔ ∀ database ∈ engine.databases, database.catalog.Made :=
  List.forall_mem_map

/-- Putting a database whose catalog has been made keeps the others made. -/
theorem made_put (h : engine.registry.Made) {database : Database}
    (hnew : database.catalog.Made) : (engine.put database).registry.Made := by
  refine made_iff.mpr fun other hother => ?_
  rcases eq_or_mem_of_mem_replaceFirst hother with rfl | hmem
  · exact hnew
  · exact made_iff.mp h other hmem

/-- The catalogs of an engine that has been set up have been made. -/
theorem SetUp.made (h : engine.SetUp) : engine.registry.Made := by
  induction h with
  | build accepted =>
    exact made_iff.mpr fun database hmem => (created_of_build accepted database hmem).made
  | ofDatabases created accepted =>
    rw [made_iff, databases_of_ofDatabases accepted]
    exact fun database hmem => (created database hmem).made
  | createTable _ accepted ih =>
    obtain ⟨found, hfound, accepted⟩ := bind_eq_ok_iff.mp accepted
    obtain ⟨changed, hcreate, hput⟩ := bind_eq_ok_iff.mp accepted
    cases hput
    exact made_put ih
      (Database.made_create (made_iff.mp ih found (mem_of_database hfound)) hcreate)
  | dropTable _ accepted ih =>
    obtain ⟨found, hfound, accepted⟩ := bind_eq_ok_iff.mp accepted
    obtain ⟨changed, hdrop, hput⟩ := bind_eq_ok_iff.mp accepted
    cases hput
    exact made_put ih (Database.made_drop (made_iff.mp ih found (mem_of_database hfound)) hdrop)

/-- Engines whose tables have the same schemas have the same registry. -/
theorem registry_of_related (h : Related Table.SameSchema engine after) :
    after.registry = engine.registry := by
  have hcatalogs : List.Forall₂ (fun old new : Database => new.catalog = old.catalog)
      engine.databases after.databases := by
    refine h.imp fun old new hpair => ?_
    rw [Database.catalog, Database.catalog, hpair.1, map_eq_of_forall₂ hpair.2]
  rw [registry, registry, map_eq_of_forall₂ hcatalogs]

end Engine

namespace Service

variable {service : Service}

/-- A request changes no catalog. -/
theorem registry_after (service : Service) (request : ServiceRequest) :
    (service.after request).engine.registry = service.engine.registry := by
  rcases service.after_cases request with hsame | ⟨calls, -, -, hcommit | hrollback⟩
  · rw [hsame]
  · rw [hcommit]
    exact Engine.registry_of_related (Transaction.run_sameSchema (.begin service.engine) calls)
  · rw [hrollback]
    exact Engine.registry_of_related
      ((Transaction.sameRows_rollback_run (.begin service.engine) calls).imp fun _ _ hpair =>
        ⟨hpair.1, hpair.2.imp fun _ _ hrows => hrows.1⟩)

/-- A run changes no catalog. -/
theorem registry_run (start : Service) (requests : List ServiceRequest) :
    (start.run requests).engine.registry = start.engine.registry := by
  induction requests generalizing start with
  | nil => rfl
  | cons request rest ih => exact (ih (start.after request)).trans (start.registry_after request)

/-- The catalogs of a reachable service have been made by creating and dropping tables. -/
theorem Reachable.made (h : service.Reachable) : service.engine.registry.Made := by
  obtain ⟨start, requests, hsetUp, rfl⟩ := h
  rw [start.registry_run requests]
  exact hsetUp.made

end Service

end Tabula
