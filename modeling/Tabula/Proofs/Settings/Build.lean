import Tabula.Proofs.Engine.SetUp
import Tabula.Proofs.Schema.Histories
import Tabula.Proofs.Value.Types

/-!
# Engines built from settings

What settings ask for is related to what is built, layer by layer: a default to the value that it
stands for, a column and a table to their form in the engine, a database to its tables. Each step of
the build succeeds exactly if there is something related to its input, and then gives this. So the
checks made on the way add up to one condition on the settings, and the engine has just what they
ask for.
-/

namespace Tabula

/-! ### Defaults, columns and tables -/

/-- A value in settings stands for a default of a column of some type: a value of the type for
itself, a text in a date column for the date that it writes. -/
inductive Value.StandsFor : Value → ScalarType → Value → Prop
  | itself {value : Value} {type : ScalarType} (typed : value.hasType type = true) :
      StandsFor value type value
  | written {text : String} {date : Date} (reads : Date.ofText? text = some date) :
      StandsFor (.text text) .date (.date date)

/-- A column of an engine is as the settings have it, with the default that theirs stands for. -/
structure ColumnSpec.CastsTo (own cast : ColumnSpec) : Prop where
  name : cast.name = own.name
  type : cast.type = own.type
  isNullable : cast.isNullable = own.isNullable
  isPrimaryKey : cast.isPrimaryKey = own.isPrimaryKey
  isAutoIncrement : cast.isAutoIncrement = own.isAutoIncrement
  maxLength : cast.maxLength = own.maxLength
  default : Option.Rel (Value.StandsFor · own.type ·) own.default cast.default

/-- A table of an engine is as the settings have it, up to what the defaults stand for. -/
structure TableSpec.CastsTo (own cast : TableSpec) : Prop where
  name : cast.name = own.name
  columns : List.Forall₂ ColumnSpec.CastsTo own.columns cast.columns

namespace Value

variable {value result : Value} {type : ScalarType}

/-- The strict conversion gives what a value stands for. -/
theorem cast?_eq_some_iff : value.cast? type = some result ↔ value.StandsFor type result := by
  constructor
  · intro h
    unfold cast? at h
    split at h
    · obtain ⟨date, hdate, rfl⟩ := Option.map_eq_some_iff.mp h
      exact .written hdate
    · split at h
      · rename_i htype
        cases h
        exact .itself htype
      · cases h
  · rintro (⟨htype⟩ | ⟨hdate⟩)
    · unfold cast?
      split
      · cases htype
      · rw [if_pos htype]
    · rw [cast?, hdate, Option.map_some]

/-- Null stands for no default. -/
theorem StandsFor.ne_null (h : value.StandsFor type result) : value ≠ .null := by
  rintro rfl
  cases h with
  | itself typed => cases type <;> cases typed

/-- What a value stands for has the type of the column. -/
theorem StandsFor.hasType (h : value.StandsFor type result) : result.hasType type = true :=
  hasType_of_cast? (cast?_eq_some_iff.mpr h)

end Value

/-- A column differs from that of the settings in its default only. -/
theorem ColumnSpec.castsTo_iff {own cast : ColumnSpec} :
    own.CastsTo cast ↔ ∃ default, Option.Rel (Value.StandsFor · own.type ·) own.default default ∧
      cast = { own with default := default } := by
  constructor
  · intro h
    refine ⟨cast.default, h.default, ?_⟩
    rw [← h.name, ← h.type, ← h.isNullable, ← h.isPrimaryKey, ← h.isAutoIncrement, ← h.maxLength]
  · rintro ⟨default, hdefault, rfl⟩
    exact ⟨rfl, rfl, rfl, rfl, rfl, rfl, hdefault⟩

/-- Casting the default of a column gives the column as it is in the engine. -/
theorem ColumnSpec.castDefault_eq_ok_iff {own cast : ColumnSpec} :
    own.castDefault = .ok cast ↔ own.CastsTo cast := by
  rw [castsTo_iff, castDefault]
  cases hown : own.default with
  | none =>
    have hself : { own with default := none } = own := by rw [← hown]
    constructor
    · rintro ⟨⟩
      exact ⟨none, .none, hself.symm⟩
    · rintro ⟨_, ⟨⟩, rfl⟩
      rw [hself]
  | some value =>
    cases hcast : value.cast? own.type with
    | none =>
      simp only [hcast]
      refine iff_of_false (by simp) ?_
      rintro ⟨_, ⟨hresult⟩, -⟩
      simp [Value.cast?_eq_some_iff.mpr hresult] at hcast
    | some result =>
      have hresult := Value.cast?_eq_some_iff.mp hcast
      simp only [hcast]
      constructor
      · rintro ⟨⟩
        exact ⟨some result, .some hresult, rfl⟩
      · rintro ⟨_, ⟨hother⟩, rfl⟩
        have heq := hcast.symm.trans (Value.cast?_eq_some_iff.mpr hother)
        cases heq
        rfl

/-- Casting the defaults of a table gives the table as it is in the engine. -/
theorem TableSpec.castDefaults_eq_ok_iff {own cast : TableSpec} :
    own.castDefaults = .ok cast ↔ own.CastsTo cast := by
  rw [castDefaults, bind_eq_ok_iff]
  simp only [mapM_eq_ok_iff, ColumnSpec.castDefault_eq_ok_iff]
  constructor
  · rintro ⟨columns, hcolumns, hcast⟩
    cases hcast
    exact ⟨rfl, hcolumns⟩
  · rintro ⟨hname, hcolumns⟩
    refine ⟨cast.columns, hcolumns, ?_⟩
    rw [← hname]
    rfl

/-! ### Databases -/

/-- A table of an engine is the one that settings ask for, with no rows. -/
def TableSpec.Builds (own : TableSpec) (database : String) (table : Table) : Prop :=
  ∃ cast, own.CastsTo cast ∧ cast.Lawful ∧ table = .empty (cast.schemaIn database)

/-- A database of an engine is the one that settings ask for. -/
structure DatabaseSettings.Builds (own : DatabaseSettings) (database : Database) : Prop where
  name : database.name = own.name
  tableNames : (own.tables.map (·.name)).Nodup
  tables : List.Forall₂ (·.Builds own.name ·) own.tables database.tables

/-- A name is new after a table has been added if it was new and is not that of the table. -/
theorem Database.find?_append_empty {database : Database} {cast : TableSpec} {name : String} :
    Database.find? { database with
        tables := database.tables ++ [.empty (cast.schemaIn database.name)] } name = none ↔
      database.find? name = none ∧ cast.name ≠ name := by
  simp [find?, List.find?_append, Table.empty, TableSpec.schemaIn]

/-- Tables are created exactly if their names are new and differ and each can be built. -/
theorem Database.createAll_eq_ok_iff {database after : Database} {specs : List TableSpec} :
    database.createAll specs = .ok after ↔
      (specs.map (·.name)).Nodup ∧ (∀ own ∈ specs, database.find? own.name = none) ∧
        ∃ tables, List.Forall₂ (·.Builds database.name ·) specs tables ∧
          after = { database with tables := database.tables ++ tables } := by
  induction specs generalizing database with
  | nil => simp [createAll, eq_comm]
  | cons own rest ih =>
    rw [createAll]
    simp only [bind_eq_ok_iff, mapError_eq_ok_iff, TableSpec.castDefaults_eq_ok_iff,
      create_eq_ok_iff]
    constructor
    · rintro ⟨cast, hcast, _, ⟨hnew, hlawful, rfl⟩, hrest⟩
      obtain ⟨hnames, hothers, tables, htables, rfl⟩ := ih.mp hrest
      have hdiffer : ∀ other ∈ rest, database.find? other.name = none ∧ own.name ≠ other.name :=
        fun other hother => hcast.name ▸ find?_append_empty.mp (hothers other hother)
      have hrepeated : own.name ∉ rest.map (·.name) := fun hmem => by
        obtain ⟨other, hother, heq⟩ := List.mem_map.mp hmem
        exact (hdiffer other hother).2 heq.symm
      exact ⟨List.nodup_cons.mpr ⟨hrepeated, hnames⟩,
        List.forall_mem_cons.mpr ⟨hcast.name ▸ hnew, fun other hother => (hdiffer other hother).1⟩,
        _, .cons ⟨cast, hcast, hlawful, rfl⟩ htables, by simp⟩
    · rintro ⟨hnames, hnew, _, ⟨⟩ | ⟨⟨cast, hcast, hlawful, rfl⟩, htables⟩, rfl⟩
      obtain ⟨hrepeated, hnames⟩ := List.nodup_cons.mp hnames
      obtain ⟨hnew, hothers⟩ := List.forall_mem_cons.mp hnew
      have hdiffer : ∀ other ∈ rest, cast.name ≠ other.name := fun other hother heq =>
        hrepeated (List.mem_map.mpr ⟨other, hother, heq.symm.trans hcast.name⟩)
      exact ⟨cast, hcast, _, ⟨hcast.name ▸ hnew, hlawful, rfl⟩, ih.mpr ⟨hnames,
        fun other hother => find?_append_empty.mpr ⟨hothers other hother, hdiffer other hother⟩,
        _, htables, by simp⟩⟩

/-- A database is built exactly as settings ask for it. -/
theorem DatabaseSettings.build_eq_ok_iff {own : DatabaseSettings} {database : Database} :
    own.build = .ok database ↔ own.Builds database := by
  rw [build, Database.createAll_eq_ok_iff]
  constructor
  · rintro ⟨hnames, -, tables, htables, rfl⟩
    exact ⟨rfl, hnames, htables⟩
  · rintro ⟨hname, hnames, htables⟩
    refine ⟨hnames, by simp [Database.find?, Database.empty], database.tables, htables, ?_⟩
    rw [Database.empty, ← hname]
    rfl

/-! ### Engines -/

/-- An engine is built exactly if names of databases differ and each can be built. -/
theorem EngineSettings.build_eq_ok_iff {settings : EngineSettings} {engine : Engine} :
    settings.build = .ok engine ↔
      (settings.databases.map (·.name)).Nodup ∧
        ∃ databases, List.Forall₂ DatabaseSettings.Builds settings.databases databases ∧
          engine = ⟨databases, 0⟩ := by
  rw [build]
  simp only [bind_eq_ok_iff, mapM_eq_ok_iff, mapError_eq_ok_iff, Engine.ofDatabases_eq_ok_iff,
    DatabaseSettings.build_eq_ok_iff]
  have hnames {databases : List Database}
      (h : List.Forall₂ DatabaseSettings.Builds settings.databases databases) :
      databases.map (·.name) = settings.databases.map (·.name) :=
    map_eq_of_forall₂ (h.imp fun _ _ hbuilds => hbuilds.name)
  constructor
  · rintro ⟨databases, hdatabases, hnodup, rfl⟩
    exact ⟨hnames hdatabases ▸ hnodup, databases, hdatabases, rfl⟩
  · rintro ⟨hnodup, databases, hdatabases, rfl⟩
    exact ⟨databases, hdatabases, (hnames hdatabases).symm ▸ hnodup, rfl⟩

/-- Registering the catalogs of databases one by one goes as registering the databases. -/
theorem Engine.foldlM_register_catalogs (earlier databases : List Database) :
    (databases.map Database.catalog).foldlM Registry.register ⟨earlier.map Database.catalog⟩ =
      (register earlier databases).map fun registered => ⟨registered.map Database.catalog⟩ := by
  induction databases generalizing earlier with
  | nil => rfl
  | cons database rest ih =>
    have hcatalogs : (⟨earlier.map Database.catalog⟩ : Registry).catalog? database.catalog.name =
        (earlier.find? (·.name == database.name)).map Database.catalog :=
      List.find?_map ..
    rw [List.map_cons, List.foldlM_cons, register, Registry.register, hcatalogs, Option.isSome_map,
      List.isSome_find?]
    split
    · rfl
    · have hnext := ih (earlier ++ [database])
      rw [List.map_append] at hnext
      exact hnext

/-! ### Lawful settings -/

/-- The rules for a table apart from its defaults: names of columns differ, and a numbered column is
an integer and the only key. -/
@[mk_iff]
structure TableSpec.Coherent (own : TableSpec) : Prop where
  names : (own.columns.map (·.name)).Nodup
  numbered : ∀ column ∈ own.columns, column.isAutoIncrement = true →
    column.type = .int ∧ column.isPrimaryKey = true
  singleKey : (∃ column ∈ own.columns, column.isAutoIncrement = true) →
    (own.columns.filter (·.isPrimaryKey)).length ≤ 1

/-- Each default of a table stands for some value. -/
def TableSpec.DefaultsStand (own : TableSpec) : Prop :=
  ∀ column ∈ own.columns, ∀ value, column.default = some value →
    ∃ result, value.StandsFor column.type result

/-- Whether settings are lawful: names of databases differ, and in each of them names of tables do;
every default stands for a value, and every table keeps the other rules. -/
structure EngineSettings.Lawful (settings : EngineSettings) : Prop where
  databaseNames : (settings.databases.map (·.name)).Nodup
  tableNames : ∀ own ∈ settings.databases, (own.tables.map (·.name)).Nodup
  defaults : ∀ own ∈ settings.databases, ∀ table ∈ own.tables, table.DefaultsStand
  coherent : ∀ own ∈ settings.databases, ∀ table ∈ own.tables, table.Coherent

/-- A column without its default. -/
def ColumnSpec.frame (own : ColumnSpec) : ColumnSpec := { own with default := none }

/-- A table without its defaults. -/
def TableSpec.frame (own : TableSpec) : TableSpec := ⟨own.name, own.columns.map ColumnSpec.frame⟩

/-- The rules apart from defaults can be told without the defaults. -/
theorem TableSpec.coherent_frame_iff {own : TableSpec} : own.frame.Coherent ↔ own.Coherent := by
  simp [coherent_iff, frame, ColumnSpec.frame, List.filter_map, Function.comp_def]

/-- A table is as the settings have it apart from the defaults. -/
theorem TableSpec.CastsTo.frame_eq {own cast : TableSpec} (h : own.CastsTo cast) :
    cast.frame = own.frame := by
  have hcolumns : cast.columns.map ColumnSpec.frame = own.columns.map ColumnSpec.frame := by
    refine map_eq_of_forall₂ (h.columns.imp fun column cast hcast => ?_)
    obtain ⟨_, -, rfl⟩ := ColumnSpec.castsTo_iff.mp hcast
    rfl
  rw [frame, frame, h.name, hcolumns]

/-- A column has a form in the engine exactly if its default, if any, stands for a value. -/
theorem ColumnSpec.exists_castsTo_iff {own : ColumnSpec} :
    (∃ cast, own.CastsTo cast) ↔
      ∀ value, own.default = some value → ∃ result, value.StandsFor own.type result := by
  simp only [castsTo_iff]
  cases own.default with
  | none => exact iff_of_true ⟨_, none, .none, rfl⟩ (by simp)
  | some value =>
    constructor
    · rintro ⟨_, _, ⟨hresult⟩, -⟩ _ ⟨⟩
      exact ⟨_, hresult⟩
    · intro h
      obtain ⟨result, hresult⟩ := h value rfl
      exact ⟨_, some result, .some hresult, rfl⟩

/-- The default of a column of an engine fits. -/
theorem ColumnSpec.CastsTo.defaultFits {own cast : ColumnSpec} (h : own.CastsTo cast) :
    cast.defaultFits = true := by
  obtain ⟨default, hdefault, rfl⟩ := castsTo_iff.mp h
  generalize own.default = given at hdefault
  cases hdefault with
  | none => rfl
  | some hresult => simp [ColumnSpec.defaultFits, hresult.hasType]

/-- A column of an engine has a default exactly if that of the settings has one. -/
theorem ColumnSpec.CastsTo.hasDefault {own cast : ColumnSpec} (h : own.CastsTo cast) :
    cast.hasDefault = own.hasDefault := by
  obtain ⟨default, hdefault, rfl⟩ := castsTo_iff.mp h
  rw [ColumnSpec.hasDefault, ColumnSpec.hasDefault]
  generalize own.default = given at hdefault
  cases hdefault <;> rfl

/-- A table of an engine is lawful exactly if the settings keep the rules apart from defaults. -/
theorem TableSpec.CastsTo.lawful_iff {own cast : TableSpec} (h : own.CastsTo cast) :
    cast.Lawful ↔ own.Coherent := by
  rw [← coherent_frame_iff, ← h.frame_eq, coherent_frame_iff]
  constructor
  · rintro ⟨hnames, hcolumns, hsingle⟩
    exact ⟨hnames, fun column hcolumn => (hcolumns column hcolumn).numbered, hsingle⟩
  · rintro ⟨hnames, hnumbered, hsingle⟩
    refine ⟨hnames, fun column hcolumn => ⟨hnumbered column hcolumn, ?_⟩, hsingle⟩
    obtain ⟨_, -, hcast⟩ := exists_of_mem_right h.columns hcolumn
    exact hcast.defaultFits

/-- A table can be built exactly if its defaults stand for values and it keeps the other rules. -/
theorem TableSpec.exists_builds_iff {own : TableSpec} {database : String} :
    (∃ table, own.Builds database table) ↔ own.DefaultsStand ∧ own.Coherent := by
  have hdefaults : own.DefaultsStand ↔
      ∃ columns, List.Forall₂ ColumnSpec.CastsTo own.columns columns := by
    simp only [exists_forall₂_iff, ColumnSpec.exists_castsTo_iff, DefaultsStand]
  rw [hdefaults]
  constructor
  · rintro ⟨_, cast, hcast, hlawful, -⟩
    exact ⟨⟨cast.columns, hcast.columns⟩, hcast.lawful_iff.mp hlawful⟩
  · rintro ⟨⟨columns, hcolumns⟩, hcoherent⟩
    have hcast : own.CastsTo ⟨own.name, columns⟩ := ⟨rfl, hcolumns⟩
    exact ⟨_, _, hcast, hcast.lawful_iff.mpr hcoherent, rfl⟩

/-- A database can be built exactly if names of tables differ and each table can be built. -/
theorem DatabaseSettings.exists_builds_iff {own : DatabaseSettings} :
    (∃ database, own.Builds database) ↔ (own.tables.map (·.name)).Nodup ∧
      ∀ table ∈ own.tables, table.DefaultsStand ∧ table.Coherent := by
  simp only [← @TableSpec.exists_builds_iff _ own.name, ← exists_forall₂_iff]
  constructor
  · rintro ⟨database, -, hnames, htables⟩
    exact ⟨hnames, database.tables, htables⟩
  · rintro ⟨hnames, tables, htables⟩
    exact ⟨⟨own.name, tables⟩, rfl, hnames, htables⟩

/-- An engine can be built exactly if the settings are lawful. -/
theorem EngineSettings.exists_build_iff {settings : EngineSettings} :
    (∃ engine, settings.build = .ok engine) ↔ settings.Lawful := by
  have hbuild : (∃ engine, settings.build = .ok engine) ↔
      (settings.databases.map (·.name)).Nodup ∧
        ∀ own ∈ settings.databases, ∃ database, own.Builds database := by
    simp only [build_eq_ok_iff, ← exists_forall₂_iff]
    constructor
    · rintro ⟨_, hnames, databases, hdatabases, -⟩
      exact ⟨hnames, databases, hdatabases⟩
    · rintro ⟨hnames, databases, hdatabases⟩
      exact ⟨_, hnames, databases, hdatabases, rfl⟩
  simp only [hbuild, DatabaseSettings.exists_builds_iff]
  constructor
  · rintro ⟨hnames, hown⟩
    exact ⟨hnames, fun own hmem => (hown own hmem).1,
      fun own hmem table htable => ((hown own hmem).2 table htable).1,
      fun own hmem table htable => ((hown own hmem).2 table htable).2⟩
  · rintro ⟨hnames, htableNames, hdefaults, hcoherent⟩
    exact ⟨hnames, fun own hmem => ⟨htableNames own hmem, fun table htable =>
      ⟨hdefaults own hmem table htable, hcoherent own hmem table htable⟩⟩⟩

/-! ### What an engine shows -/

/-- A schema shows a table of settings: its columns in their order, each with its position and with
the default that its own one stands for. -/
structure TableSpec.ShownBy (own : TableSpec) (database : String) (schema : TableSchema) :
    Prop where
  database : schema.database = database
  name : schema.name = own.name
  columns : List.Forall₂ (fun column shown => column.CastsTo shown.toColumnSpec ∧
    shown.hasDefault = column.hasDefault) own.columns schema.columns
  index : ∀ (i : Nat) (shown : Column), schema.columns[i]? = some shown → shown.index = i

/-- A catalog shows a database of settings: it lists the tables in their order and describes each of
them. -/
structure DatabaseSettings.ShownBy (own : DatabaseSettings) (catalog : Catalog) : Prop where
  tableNames : catalog.tableNames = own.tables.map (·.name)
  describe : ∀ table ∈ own.tables, ∃ schema,
    catalog.describe? table.name = some schema ∧ table.ShownBy own.name schema

/-- An engine is as settings ask for it. Its registry lists the databases in their order, and their
catalogs show what is asked for; it is the registry that these catalogs are registered in one by
one, and it finds the tables that the engine finds. All tables are empty. -/
structure EngineSettings.RealizedBy (settings : EngineSettings) (engine : Engine) : Prop where
  databaseNames : engine.registry.names = settings.databases.map (·.name)
  catalogs : ∀ own ∈ settings.databases, ∃ catalog,
    engine.registry.catalog? own.name = some catalog ∧ own.ShownBy catalog
  registered : (engine.databases.map Database.catalog).foldlM Registry.register ⟨[]⟩ =
    .ok engine.registry
  resolve : ∀ database table, engine.registry.resolve database table =
    (engine.table database table).map (·.schema)
  empty : engine.ForAllTables fun _ table => table.rows = [] ∧ table.nextId = 1

/-- Tables that are built show those of settings. -/
theorem TableSpec.Builds.shownBy {own : TableSpec} {database : String} {table : Table}
    (h : own.Builds database table) : own.ShownBy database table.schema := by
  obtain ⟨cast, hcast, -, rfl⟩ := h
  refine ⟨rfl, hcast.name, ?_, fun i shown hshown => (TableSchema.getElem?_schemaIn.mp hshown).2⟩
  have hcolumns := hcast.columns
  rw [← TableSchema.specs_schemaIn cast database, List.forall₂_map_right_iff] at hcolumns
  exact hcolumns.imp fun column shown hshown => ⟨hshown, hshown.hasDefault⟩

/-- The catalog of a database that is built shows that of settings. -/
theorem DatabaseSettings.Builds.shownBy {own : DatabaseSettings} {database : Database}
    (h : own.Builds database) : own.ShownBy database.catalog := by
  have hnames : database.catalog.tables.map (·.name) = own.tables.map (·.name) := by
    rw [Database.catalog, List.map_map]
    exact map_eq_of_forall₂ (h.tables.imp fun _ _ hbuilds => hbuilds.shownBy.name)
  refine ⟨hnames, fun table htable => ?_⟩
  obtain ⟨built, hmem, hbuilt⟩ := exists_of_mem_left h.tables htable
  have hshown := hbuilt.shownBy
  have hdescribe : database.catalog.describe? table.name = some built.schema :=
    (find?_eq_some_iff_of_nodup (hnames ▸ h.tableNames)).mpr
      ⟨List.mem_map_of_mem hmem, hshown.name⟩
  exact ⟨built.schema, hdescribe, hshown⟩

/-- An engine that is built from settings is as they ask for it. -/
theorem EngineSettings.realizedBy_of_build {settings : EngineSettings} {engine : Engine}
    (h : settings.build = .ok engine) : settings.RealizedBy engine := by
  obtain ⟨hnodup, databases, hbuilds, rfl⟩ := build_eq_ok_iff.mp h
  have hnames : databases.map (·.name) = settings.databases.map (·.name) :=
    map_eq_of_forall₂ (hbuilds.imp fun _ _ hbuilt => hbuilt.name)
  have hregistry : (databases.map Database.catalog).map (·.name) =
      settings.databases.map (·.name) := List.map_map.trans hnames
  refine ⟨hregistry, fun own hown => ?_, ?_, Engine.resolve_eq_map _, ?_⟩
  · obtain ⟨database, hmem, hbuilt⟩ := exists_of_mem_left hbuilds hown
    have hcatalog : (Engine.registry ⟨databases, 0⟩).catalog? own.name = some database.catalog :=
      (find?_eq_some_iff_of_nodup (hregistry ▸ hnodup)).mpr
        ⟨List.mem_map_of_mem hmem, hbuilt.name⟩
    exact ⟨database.catalog, hcatalog, hbuilt.shownBy⟩
  · have hregister : Engine.register [] databases = .ok databases :=
      Engine.register_eq_ok_iff.mpr ⟨hnames ▸ hnodup, by simp, rfl⟩
    have hcatalogs := Engine.foldlM_register_catalogs [] databases
    rw [hregister] at hcatalogs
    exact hcatalogs
  · intro database hdatabase table htable
    obtain ⟨own, -, hbuilt⟩ := exists_of_mem_right hbuilds hdatabase
    obtain ⟨_, -, cast, -, -, rfl⟩ := exists_of_mem_right hbuilt.tables htable
    exact ⟨rfl, rfl⟩

/-- Settings are built into an engine exactly if they are lawful, and the engine then has the
databases, tables and columns that they ask for, and no rows. -/
theorem EngineSettings.built_iff_lawful_and_realizedBy (settings : EngineSettings) :
    ((∃ engine, settings.build = .ok engine) ↔ settings.Lawful) ∧
      ∀ engine, settings.build = .ok engine → settings.RealizedBy engine :=
  ⟨exists_build_iff, fun _ hbuild => realizedBy_of_build hbuild⟩

/-- The settings of an inn and of its annex, which has no tables yet. -/
def innSettings : EngineSettings where
  databases := [
    ⟨"inn", [⟨"guests", [
      ⟨"id", .int, false, true, true, none, none⟩,
      ⟨"name", .text, false, false, false, none, some 63⟩,
      ⟨"since", .date, true, false, false, some (.text "2000-01-01"), none⟩]⟩]⟩,
    ⟨"annex", []⟩]

/-- The inn is built as asked for, and the text given as default has become a date. -/
theorem EngineSettings.built_inn :
    innSettings.Lawful ∧ ∃ engine, innSettings.build = .ok engine ∧
      innSettings.RealizedBy engine ∧ engine.registry.names = ["inn", "annex"] ∧
      (engine.table "inn" "guests").map (fun table => table.schema.columns.map (·.default)) =
        .ok [none, none, some (.date ⟨2000, 1, 1, by decide⟩)] := by
  obtain ⟨hbuilt, hrealized⟩ := built_iff_lawful_and_realizedBy innSettings
  exact ⟨hbuilt.mp ⟨_, rfl⟩, _, rfl, hrealized _ rfl, rfl, rfl⟩

end Tabula
