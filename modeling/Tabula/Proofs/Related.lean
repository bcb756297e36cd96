import Mathlib.Data.List.Forall2

/-!
# Lists related item by item

What a relation of two lists, item by item, says of single items and of images under a map.
-/

namespace Tabula

variable {A B : Type} {R : A → B → Prop} {items : List A} {others : List B}

/-- In lists related item by item, every item of the second is related to one of the first. -/
theorem exists_of_mem_right (h : List.Forall₂ R items others) {other : B}
    (hother : other ∈ others) : ∃ item ∈ items, R item other := by
  induction h with
  | nil => simp at hother
  | cons hpair _ ih =>
    rcases List.mem_cons.mp hother with rfl | hother
    · exact ⟨_, List.mem_cons_self, hpair⟩
    · obtain ⟨item, hitem, hrel⟩ := ih hother
      exact ⟨item, List.mem_cons_of_mem _ hitem, hrel⟩

/-- In lists related item by item, every item of the first is related to one of the second. -/
theorem exists_of_mem_left (h : List.Forall₂ R items others) {item : A} (hitem : item ∈ items) :
    ∃ other ∈ others, R item other :=
  exists_of_mem_right h.flip hitem

/-- If every item is related to something, the items are related one by one to some list. -/
theorem exists_forall₂ (h : ∀ item ∈ items, ∃ other, R item other) :
    ∃ others, List.Forall₂ R items others := by
  induction items with
  | nil => exact ⟨[], .nil⟩
  | cons item rest ih =>
    obtain ⟨⟨other, hother⟩, hrest⟩ := List.forall_mem_cons.mp h
    obtain ⟨others, hothers⟩ := ih hrest
    exact ⟨other :: others, .cons hother hothers⟩

/-- The items are related one by one to some list exactly if each of them is related to something. -/
theorem exists_forall₂_iff :
    (∃ others, List.Forall₂ R items others) ↔ ∀ item ∈ items, ∃ other, R item other := by
  refine ⟨fun ⟨others, h⟩ item hitem => ?_, exists_forall₂⟩
  obtain ⟨other, -, hpair⟩ := exists_of_mem_left h hitem
  exact ⟨other, hpair⟩

/-- Items related by equal images have the same list of images. -/
theorem map_eq_of_forall₂ {C : Type} {f : A → C} {g : B → C}
    (h : List.Forall₂ (fun item other => g other = f item) items others) :
    others.map g = items.map f := by
  rw [← List.forall₂_eq_eq_eq, List.forall₂_map_left_iff, List.forall₂_map_right_iff]
  exact h.flip

end Tabula
