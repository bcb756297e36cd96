import Tabula.Proofs.Related

/-!
# Chains of checks

When a chain of checks succeeds: every link succeeds, and the next one with its result.
-/

namespace Tabula

variable {A B E F : Type}

/-- A chain succeeds if its first link does and the rest does with its result. -/
theorem bind_eq_ok_iff {first : Except E A} {next : A → Except E B} {b : B} :
    first >>= next = .ok b ↔ ∃ a, first = .ok a ∧ next a = .ok b := by
  cases first with
  | error error => simp [bind, Except.bind]
  | ok a => simp [bind, Except.bind]

/-- What is claimed of the result of a check can be decided by making the check. -/
instance decidableForallOk (check : Except E A) (P : A → Prop) [∀ a, Decidable (P a)] :
    Decidable (∀ a, check = .ok a → P a) :=
  match check with
  | .error _ => isTrue fun _ h => nomatch h
  | .ok a => decidable_of_iff (P a) ⟨fun h _ heq => Except.ok.inj heq ▸ h, fun h => h a rfl⟩

/-- Wrapping errors does not change when a check succeeds. -/
theorem mapError_eq_ok_iff {check : Except E A} {wrap : E → F} {a : A} :
    check.mapError wrap = .ok a ↔ check = .ok a := by
  cases check with
  | error error => simp [Except.mapError]
  | ok b => simp [Except.mapError]

/-- Checking a list succeeds if every item does, with the results in the order of the items. -/
theorem mapM_eq_ok_iff {check : A → Except E B} {items : List A} {results : List B} :
    items.mapM check = .ok results ↔
      List.Forall₂ (fun item result => check item = .ok result) items results := by
  induction items generalizing results with
  | nil => simp [pure, Except.pure, eq_comm]
  | cons item rest ih =>
    rw [List.mapM_cons, bind_eq_ok_iff, List.forall₂_cons_left_iff]
    constructor
    · rintro ⟨result, hitem, hrest⟩
      obtain ⟨others, hothers, hresults⟩ := bind_eq_ok_iff.mp hrest
      cases hresults
      exact ⟨result, others, hitem, ih.mp hothers, rfl⟩
    · rintro ⟨result, others, hitem, hothers, rfl⟩
      exact ⟨result, hitem, bind_eq_ok_iff.mpr ⟨others, ih.mpr hothers, rfl⟩⟩

/-- Checking a list fails with the error of one of its items. -/
theorem exists_of_mapM_eq_error {check : A → Except E B} {items : List A} {error : E}
    (h : items.mapM check = .error error) : ∃ item ∈ items, check item = .error error := by
  induction items with
  | nil => cases h
  | cons item rest ih =>
    rw [List.mapM_cons] at h
    cases hitem : check item with
    | error other =>
      rw [hitem] at h
      cases h
      exact ⟨item, List.mem_cons_self, hitem⟩
    | ok result =>
      rw [hitem] at h
      cases hrest : rest.mapM check with
      | error other =>
        simp only [hrest, bind, Except.bind, Except.error.injEq] at h
        obtain ⟨found, hfound, hcheck⟩ := ih (hrest.trans (congrArg _ h))
        exact ⟨found, List.mem_cons_of_mem item hfound, hcheck⟩
      | ok results => simp [hrest, bind, Except.bind, pure, Except.pure] at h

/-- Checking a list succeeds if every item does. -/
theorem exists_mapM_eq_ok {check : A → Except E B} {items : List A}
    (h : ∀ item ∈ items, ∃ result, check item = .ok result) :
    ∃ results, items.mapM check = .ok results := by
  obtain ⟨results, hresults⟩ := exists_forall₂ h
  exact ⟨results, mapM_eq_ok_iff.mpr hresults⟩

end Tabula
