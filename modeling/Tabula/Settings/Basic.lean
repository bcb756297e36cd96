import Tabula.Store.Engine

/-!
# Settings

The databases and tables to start with, and the limits of the service. Tables are described as
everywhere else, except that the default of a date column is given by its written form.
-/

namespace Tabula

/-- A database to create, with its tables. -/
structure DatabaseSettings where
  name : String
  tables : List TableSpec
deriving DecidableEq

/-- The databases to create. -/
structure EngineSettings where
  databases : List DatabaseSettings
deriving DecidableEq

/-- The limits of save requests. -/
structure SaveSettings where
  /-- The greatest number of records in one request. -/
  batchSize : UInt64
deriving DecidableEq

/-- The settings of a service. -/
structure ServiceSettings where
  engine : EngineSettings
  save : SaveSettings
deriving DecidableEq

/-- No databases. -/
def EngineSettings.empty : EngineSettings := ⟨[]⟩

/-- Ten records at a time. -/
def SaveSettings.standard : SaveSettings := ⟨10⟩

/-- Failures of reading settings and of setting up an engine. -/
inductive SettingsError where
  /-- The text of the settings is not well formed or does not have the form of settings. -/
  | unreadable
  | schema (error : SchemaError)
  | defaultType (column : String) (type : ScalarType)
deriving DecidableEq

/-- The report of a failure. -/
def SettingsError.report : SettingsError → Report
  | .unreadable => ⟨.schema, "invalid config", none⟩
  | .schema error => error.report
  | .defaultType column type =>
    ⟨.schema, s!"invalid config: default of column {column} does not match type {type.name}",
      none⟩

/-- The column with its default cast to its type. A null default is refused here. -/
def ColumnSpec.castDefault (spec : ColumnSpec) : Except SettingsError ColumnSpec :=
  match spec.default with
  | none => .ok spec
  | some value =>
    match value.cast? spec.type with
    | none => .error (.defaultType spec.name spec.type)
    | some cast => .ok { spec with default := some cast }

/-- The table with its defaults cast to the types of their columns. -/
def TableSpec.castDefaults (spec : TableSpec) : Except SettingsError TableSpec := do
  return { spec with columns := ← spec.columns.mapM ColumnSpec.castDefault }

/-- Creates tables in a database, in their order. -/
def Database.createAll (database : Database) :
    List TableSpec → Except SettingsError Database
  | [] => .ok database
  | spec :: rest => do
    let spec ← spec.castDefaults
    let database ← (database.create spec).mapError SettingsError.schema
    database.createAll rest

/-- Creates a database with its tables. -/
def DatabaseSettings.build (settings : DatabaseSettings) : Except SettingsError Database :=
  (Database.empty settings.name).createAll settings.tables

/-- Creates all databases with their tables, and then registers them. -/
def EngineSettings.build (settings : EngineSettings) : Except SettingsError Engine := do
  let databases ← settings.databases.mapM DatabaseSettings.build
  (Engine.ofDatabases databases).mapError SettingsError.schema

end Tabula
