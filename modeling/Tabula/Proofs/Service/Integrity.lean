import Tabula.Proofs.Service.Runs

/-!
# Integrity through runs of a service

Whatever is requested of a service, and whether or not it succeeds, the tables stay sound: rows fit
their columns, and keys differ. The store does not check the key on an update; it is the compiler
of requests that never writes one. Numbers given automatically stay below the counter as long as no
counter overflows.
-/

namespace Tabula

namespace Service

variable {service start : Service}

/-- A request keeps the engine sound, and the numbers below the counters unless one overflows. -/
theorem integrity_after (h : service.engine.Sound) (request : ServiceRequest) :
    (service.after request).engine.Sound ∧
      (service.CountsOn request → service.engine.IdsBelow →
        (service.after request).engine.IdsBelow) := by
  rcases service.after_cases request with
    hsame | ⟨calls, hleads, hcounts, hcommit | hrollback⟩
  · rw [hsame]
    exact ⟨h, fun _ hids => hids⟩
  · obtain ⟨hsound, hids⟩ :=
      @Transaction.integrity_run (.begin service.engine) calls h
        fun call hcall => (hleads call hcall).keepsKeys h
    rw [hcommit]
    exact ⟨hsound, fun hrequest => hids (hcounts hrequest)⟩
  · have hrows := Transaction.sameRows_rollback_run (.begin service.engine) calls
    rw [hrollback]
    refine ⟨Engine.Sound.of_sameRows h hrows, fun hrequest hids => ?_⟩
    exact Engine.IdsBelow.of_sameRows hids hrows
      (Transaction.countedUp_rollback_run (.begin service.engine) calls (hcounts hrequest))

/-- A run keeps the engine sound, and the numbers below the counters unless one overflows. -/
theorem integrity_run (h : start.engine.Sound) (requests : List ServiceRequest) :
    (start.run requests).engine.Sound ∧
      (start.CountsThrough requests → start.engine.IdsBelow →
        (start.run requests).engine.IdsBelow) := by
  induction requests generalizing start with
  | nil => exact ⟨h, fun _ hids => hids⟩
  | cons request rest ih =>
    obtain ⟨hsound, hids⟩ := integrity_after h request
    obtain ⟨hsound', hids'⟩ := ih hsound
    exact ⟨hsound', fun hcounts hstart => hids' hcounts.2 (hids hcounts.1 hstart)⟩

/-- The engine of a reachable service is sound. -/
theorem Reachable.sound (h : service.Reachable) : service.engine.Sound := by
  obtain ⟨start, requests, hsetUp, rfl⟩ := h
  exact (integrity_run hsetUp.sound requests).1

/-- After any requests to a service that has been set up, every table is sound: each row has one
value for each column, which is null only where that is allowed and otherwise of the type of the
column, and different rows have different keys if there is a primary key. As long as no counter has
overflowed, every number in a numbered column is below the next one. -/
theorem tables_sound_run (h : start.engine.SetUp) (requests : List ServiceRequest) :
    ∀ database ∈ (start.run requests).engine.databases, ∀ table ∈ database.tables,
      table.Sound ∧ (start.CountsThrough requests → table.IdsBelow) := by
  intro database hdatabase table htable
  obtain ⟨hsound, hids⟩ := integrity_run h.sound requests
  exact ⟨(hsound database hdatabase table htable).2, fun hcounts =>
    hids hcounts h.idsBelow database hdatabase table htable⟩

end Service

/-! ### A hotel -/

/-- A service for a hotel, with the given guests. -/
def guestService (guests : List Row) (nextId : Int64) : Service :=
  ⟨guestEngine guests nextId, .standard⟩

/-- Two guests come, the second for three nights and with blanks around the name. -/
def guestArrivals : WriteRequest :=
  .insert "hotel" "guests"
    [[("name", .text "Ann")], [("name", .text " Bob "), ("nights", .ofInt64 3)]]

/-- All guests leave. -/
def guestDepartures : DeleteRequest := ⟨"hotel", "guests", []⟩

/-- Guests come, one of them changes the name, one comes without a name and is refused, and all
leave. -/
def guestRequests : List ServiceRequest :=
  [.save guestArrivals,
    .save (.update "hotel" "guests" (.int 1) [("name", .text "Cleo")]),
    .save (.insert "hotel" "guests" [[("nights", .ofInt64 2)]]),
    .delete guestDepartures]

/-- A hotel that has been set up is reachable, and so it is after any requests. -/
theorem reachable_guestService (requests : List ServiceRequest) :
    ((guestService [] 1).run requests).Reachable :=
  ⟨guestService [] 1, requests, setUp_guestEngine, rfl⟩

/-- After these requests no guest is left, and the next number is that of a third guest. -/
theorem run_guestRequests :
    (guestService [] 1).run guestRequests =
      ⟨⟨(guestEngine [] 3).databases, 3⟩, .standard⟩ := by
  -- The positions of the rows to take out are sorted, which does not unfold by itself.
  have hsorted : [0, 1].mergeSort = [0, 1] := List.mergeSort_of_pairwise (by decide)
  have hdelete : (guestService [] 1).run guestRequests =
      let before := (guestService [] 1).run (guestRequests.take 3)
      let removed := Transaction.removeRows
        ⟨guestSchema, [[.int 1, .text "Cleo", .int 1], [.int 2, .text "Bob", .int 3]], 3⟩ []
        [0, 1].mergeSort.reverse
      ⟨((Transaction.begin before.engine).record "hotel" removed.1 removed.2).engine, .standard⟩ :=
    rfl
  rw [hdelete, hsorted]
  rfl

/-- When the two guests come again after all have left, they get new numbers, which are below the
counter. -/
theorem Service.tables_sound_run_guests :
    let requests := guestRequests ++ [.save guestArrivals]
    let service := (guestService [] 1).run requests
    (guestEngine [] 1).SetUp ∧ (guestService [] 1).CountsThrough requests ∧
      service.engine.table "hotel" "guests" =
        .ok ⟨guestSchema, [[.int 3, .text "Ann", .int 1], [.int 4, .text "Bob", .int 3]], 5⟩ ∧
      ∀ database ∈ service.engine.databases, ∀ table ∈ database.tables,
        table.Sound ∧ table.IdsBelow := by
  intro requests service
  have hrun : service = ((guestService [] 1).run guestRequests).run [.save guestArrivals] :=
    List.foldl_append
  have hcounts : (guestService [] 1).CountsThrough requests := by
    rw [countsThrough_append, run_guestRequests]
    exact ⟨by decide +kernel, by decide +kernel⟩
  refine ⟨setUp_guestEngine, hcounts, ?_, fun database hdatabase table htable => ?_⟩
  · rw [hrun, run_guestRequests]
    rfl
  · obtain ⟨hsound, hids⟩ := @tables_sound_run (guestService [] 1) setUp_guestEngine requests
      database hdatabase table htable
    exact ⟨hsound, hids hcounts⟩

end Tabula
