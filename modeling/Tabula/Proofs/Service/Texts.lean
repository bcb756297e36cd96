import Tabula.Proofs.Json.Finite
import Tabula.Proofs.Service.Retained

/-!
# Requests as texts

A text that is handled either leaves the service as it is, or stands for a request whose numbers are
finite, as JSON has no others. So whatever texts lead to, such requests lead to.
-/

namespace Tabula

/-- A function is built and applied to the argument that is built with it. -/
theorem Fields.build_seq_eq_ok {A B : Type} {first : Fields (A → B)} {rest : Fields A}
    {named : List (String × Json)} {result : B} (h : (first <*> rest).build named = .ok result) :
    ∃ make a, first.build named = .ok make ∧ rest.build named = .ok a ∧ result = make a := by
  change (first.build named <*> rest.build named) = .ok result at h
  obtain ⟨make, hmake, h⟩ := bind_eq_ok_iff.mp h
  cases ha : rest.build named with
  | error error =>
    rw [ha] at h
    cases h
  | ok a =>
    rw [ha] at h
    cases h
    exact ⟨make, a, hmake, rfl, rfl⟩

/-- A function of what is built is applied to it. -/
theorem Fields.build_map_eq_ok {A B : Type} {make : A → B} {rest : Fields A}
    {named : List (String × Json)} {result : B} (h : (make <$> rest).build named = .ok result) :
    ∃ a, result = make a := by
  obtain ⟨own, a, hown, -, hresult⟩ := build_seq_eq_ok h
  cases hown
  exact ⟨a, hresult⟩

/-- A field that must be there is read from one of the fields. -/
theorem Fields.build_required_eq_ok {A : Type} {name : String} {decode : Decoder A}
    {named : List (String × Json)} {result : A}
    (h : (required name decode).build named = .ok result) :
    ∃ json, (name, json) ∈ named ∧ decode json = .ok result := by
  simp only [required] at h
  split at h
  · rename_i json hfield
    exact ⟨json, Json.mem_of_lookup_eq_some hfield, h⟩
  · cases h

/-- The numbers in a record to write that is read from a finite tree are finite. -/
theorem WriteItem.isFinite_of_decode {json : Json} {item : WriteItem} (hjson : json.AllFinite)
    (h : decode json = .ok item) : item.IsFinite := by
  obtain ⟨fields, hfields, h⟩ := bind_eq_ok_iff.mp h
  cases h
  intro field hfield
  obtain ⟨given, hgiven, rfl⟩ :=
    Json.exists_of_mem_mergeFields (Json.mem_of_mem_lastOfEach hfield)
  cases hjson with
  | record all =>
    cases hfields
    exact Json.isFinite_mergeRepeated (all given hgiven).isFinite
  | _ => cases hfields

/-- The numbers in a write request that is read from a text are finite. -/
theorem WriteRequest.isFinite_of_ofText {text : String} {request : WriteRequest}
    (h : Decoder.ofText decode text = .ok request) : ∀ item ∈ request.items, item.IsFinite := by
  unfold Decoder.ofText at h
  split at h
  · rename_i json hjson
    obtain ⟨named, hnamed, hbuild⟩ :=
      Decoder.build_of_record (Json.allFinite_of_parse? hjson) h
    obtain ⟨ofItems, items, hofItems, hitems, rfl⟩ := Fields.build_seq_eq_ok hbuild
    obtain ⟨ofRecordId, recordId, hofRecordId, -, rfl⟩ := Fields.build_seq_eq_ok hofItems
    obtain ⟨ofTable, table, hofTable, -, rfl⟩ := Fields.build_seq_eq_ok hofRecordId
    obtain ⟨database, rfl⟩ := Fields.build_map_eq_ok hofTable
    obtain ⟨json, hjson, hitems⟩ := Fields.build_required_eq_ok hitems
    have hfinite := hnamed _ hjson
    intro item hitem
    cases hfinite with
    | list all =>
      obtain ⟨given, hgiven, hread⟩ := exists_of_mem_right (mapM_eq_ok_iff.mp hitems) hitem
      exact WriteItem.isFinite_of_decode (all given hgiven) hread
    | _ => cases hitems
  · cases h

namespace Service

/-- The service after texts in their order, each with the operation that it is the body of. -/
def handleAll (service : Service) (texts : List (String × String)) : Service :=
  texts.foldl (fun service text => (service.handle text.1 text.2).2) service

/-- A body leaves the service as it is, or is read as a request that is carried out. -/
theorem snd_withBody {A : Type} (service : Service) (decode : Decoder A) (body : String)
    (carryOut : A → Json × Service) :
    (service.withBody decode body carryOut).2 = service ∨
      ∃ request, decode.ofText body = .ok request ∧
        (service.withBody decode body carryOut).2 = (carryOut request).2 := by
  unfold withBody
  split
  · exact Or.inl rfl
  · rename_i request hread
    exact Or.inr ⟨request, hread, rfl⟩

/-- A text leaves the service as it is, or stands for a request whose numbers are finite. -/
theorem snd_handle (service : Service) (operation body : String) :
    (service.handle operation body).2 = service ∨
      ∃ request : ServiceRequest, request.IsFinite ∧
        (service.handle operation body).2 = service.after request := by
  unfold handle
  split
  · obtain hsame | ⟨request, -, hfetch⟩ := service.snd_withBody FetchRequest.decode body _
    · exact Or.inl hsame
    · exact Or.inr ⟨.fetch request, trivial, hfetch⟩
  · obtain hsame | ⟨request, hread, hsave⟩ := service.snd_withBody WriteRequest.decode body _
    · exact Or.inl hsame
    · exact Or.inr ⟨.save request, WriteRequest.isFinite_of_ofText hread, hsave⟩
  · obtain hsame | ⟨request, -, hdelete⟩ := service.snd_withBody DeleteRequest.decode body _
    · exact Or.inl hsame
    · exact Or.inr ⟨.delete request, trivial, hdelete⟩
  · exact Or.inl rfl

/-- Whatever texts lead to, requests with finite numbers lead to. -/
theorem exists_run_of_handleAll (service : Service) (texts : List (String × String)) :
    ∃ requests : List ServiceRequest, (∀ request ∈ requests, request.IsFinite) ∧
      service.handleAll texts = service.run requests := by
  induction texts generalizing service with
  | nil => exact ⟨[], List.forall_mem_nil _, rfl⟩
  | cons text rest ih =>
    obtain ⟨requests, hfinite, hrest⟩ := ih (service.handle text.1 text.2).2
    rcases service.snd_handle text.1 text.2 with hsame | ⟨request, hrequest, hafter⟩
    · rw [hsame] at hrest
      exact ⟨requests, hfinite, (congrArg (handleAll · rest) hsame).trans hrest⟩
    · rw [hafter] at hrest
      exact ⟨request :: requests, List.forall_mem_cons.mpr ⟨hrequest, hfinite⟩,
        (congrArg (handleAll · rest) hafter).trans hrest⟩

end Service

end Tabula
