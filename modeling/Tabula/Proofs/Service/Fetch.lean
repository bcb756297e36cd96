import Tabula.Proofs.Select.Records
import Tabula.Proofs.Service.Catalogs

/-!
# Fetching rows

In a service that requests lead to, the tables of an accepted plan are there with the schemas of the
plan, and all rows have a value for each column. So a request whose plan is accepted is answered.
-/

namespace Tabula

/-- A sound engine holds the tables that its registry has. -/
theorem Engine.Sound.exists_holds {engine : Engine} (h : engine.Sound) {schema : TableSchema}
    (hhas : engine.registry.Has schema) : ∃ rows, engine.Holds schema rows := by
  obtain ⟨table, htable, rfl⟩ := Engine.resolve_eq_ok_iff.mp hhas
  obtain ⟨-, hsound⟩ := h.of_table htable
  exact ⟨table.rows, ⟨table, htable, rfl, rfl⟩, fun row hrow => (hsound.fits row hrow).length⟩

namespace Service

/-- A reachable service answers a request whose plan is accepted. Each record has every requested
field once, in their order, with the value of its column in a joined row of the tables. -/
theorem fetchRecords_of_plan {service : Service} (h : service.Reachable) {request : FetchRequest}
    {plan : SelectPlan} (hplan : SelectPlan.ofRequest service.engine.registry request = .ok plan) :
    ∃ rows joinedTables records,
      List.Forall₂ service.engine.Holds plan.tables (rows :: joinedTables) ∧
      service.fetchRecords request = .ok records ∧
      ∀ record ∈ records, ∃ joined ∈ plan.joinedRows rows joinedTables,
        SelectPlan.IsRecordOf request.fields plan.projection joined record := by
  have hwellFormed := SelectPlan.wellFormed_of_ofRequest h.made.lawful hplan
  obtain ⟨contents, hcontents⟩ := exists_forall₂ fun schema hschema =>
    h.sound.exists_holds (hwellFormed.known schema hschema)
  obtain ⟨rows, joinedTables, hrows, hjoinedTables, rfl⟩ :=
    List.forall₂_cons_left_iff.mp hcontents
  have hfound := hwellFormed.neverMisses (SelectPlan.chain_of_ofRequest hplan)
    (hcontents.imp fun _ _ hholds => hholds.2)
  exact ⟨rows, joinedTables, _, hcontents, SelectPlan.fetchRecords_of_holds hplan hcontents,
    SelectPlan.isRecordOf_of_answer hplan hfound.projection⟩

end Service

end Tabula
