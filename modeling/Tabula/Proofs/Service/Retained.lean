import Tabula.Proofs.Service.Values
import Tabula.Proofs.Settings.Build
import Tabula.Proofs.Write.Restated

/-!
# Retained values through runs of a service

If the settings give every column a default that the column retains, then the tables of the service
retain all their values from the start, and they do so after any requests: the compiler keeps only
retained values, the store adds defaults and numbers to them, and rolling back brings back rows of
before. The numbers in requests have to be finite; JSON has no others.
-/

namespace Tabula

/-! ### Settings -/

/-- Once they are cast to the types of their columns, all defaults in the settings are retained: the
floating-point numbers are finite, and the defaults of text columns are trimmed and not too long. -/
def EngineSettings.RetainsDefaults (settings : EngineSettings) : Prop :=
  ∀ database ∈ settings.databases, ∀ table ∈ database.tables, ∀ column ∈ table.columns,
    ∀ cast, column.castDefault = .ok cast → cast.RetainsDefault

/-- All tables retain their values. -/
def Engine.Retained (engine : Engine) : Prop := engine.ForAllTables fun _ table => table.Retained

/-- A table that is created with retained defaults retains its values, as it has none. -/
theorem Table.Retained.empty {database : String} {spec : TableSpec} {schema : TableSchema}
    (hdefaults : ∀ column ∈ spec.columns, column.RetainsDefault)
    (hschema : TableSchema.ofSpec database spec = .ok schema) : (Table.empty schema).Retained where
  lawful := (TableSchema.lawful_of_ofSpec hschema).1
  defaults column hcolumn :=
    hdefaults column.toColumnSpec (TableSchema.mem_of_ofSpec hschema hcolumn)
  rows := by simp [Table.empty]

/-- An engine that is built from settings with retained defaults retains all values. -/
theorem EngineSettings.RetainsDefaults.build {settings : EngineSettings} {engine : Engine}
    (h : settings.RetainsDefaults) (hbuild : settings.build = .ok engine) : engine.Retained := by
  obtain ⟨-, databases, hdatabases, rfl⟩ := build_eq_ok_iff.mp hbuild
  intro database hdatabase table htable
  obtain ⟨own, hown, hbuilt⟩ := exists_of_mem_right hdatabases hdatabase
  obtain ⟨spec, hspec, cast, hcast, hlawful, rfl⟩ := exists_of_mem_right hbuilt.tables htable
  refine .empty (fun column hcolumn => ?_) (TableSchema.ofSpec_eq_ok_iff.mpr ⟨hlawful, rfl⟩)
  obtain ⟨given, hgiven, hgivenCast⟩ := exists_of_mem_right hcast.columns hcolumn
  exact h own hown spec hspec given hgiven column
    (ColumnSpec.castDefault_eq_ok_iff.mpr hgivenCast)

/-! ### Requests -/

/-- All numbers in the records of a request are finite. -/
def ServiceRequest.IsFinite : ServiceRequest → Prop
  | .save request => ∀ item ∈ request.items, item.IsFinite
  | _ => True

/-- What the rules keep of finite records is retained by the columns. -/
theorem ServiceRequest.IsFinite.keepsOnly {request : ServiceRequest} (h : request.IsFinite) :
    request.KeepsOnly ColumnSpec.Retains := by
  cases request with
  | save request => exact fun item hitem _ _ _ _ => FieldRule.retains_of_apply (h item hitem)
  | fetch request => trivial
  | delete request => trivial

/-- A run of requests with finite numbers keeps all values retained. -/
theorem Service.retained_run {start : Service} (hsound : start.engine.Sound)
    (h : start.engine.Retained) {requests : List ServiceRequest}
    (hfinite : ∀ request ∈ requests, request.IsFinite) :
    (start.run requests).engine.Retained := by
  have hholds : start.engine.HoldsOnly ColumnSpec.Retains :=
    fun database hdatabase table htable =>
      Table.retained_iff_holdsOnly.mp (h database hdatabase table htable)
  have hrun := holdsOnly_run hsound hholds fun request hrequest =>
    (hfinite request hrequest).keepsOnly
  exact fun database hdatabase table htable =>
    Table.retained_iff_holdsOnly.mpr (hrun database hdatabase table htable)

end Tabula
