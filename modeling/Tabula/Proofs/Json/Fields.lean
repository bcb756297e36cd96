import Mathlib.Data.List.Induction
import Tabula.Json.Basic

/-!
# Fields with each name once

Fields are put one after the other. The names keep the order in which they first appear, and a name
has the value that was put last.
-/

namespace Tabula

/-- Where no key repeats, looking up a key finds exactly the values that stand with it. -/
theorem lookup_eq_some_iff_mem {A B : Type} [DecidableEq A] {fields : List (A × B)} {key : A}
    {value : B} (h : (fields.map (·.1)).Nodup) :
    fields.lookup key = some value ↔ (key, value) ∈ fields := by
  induction fields with
  | nil => simp
  | cons field rest ih =>
    obtain ⟨other, held⟩ := field
    rw [List.map_cons, List.nodup_cons] at h
    by_cases hkey : key = other
    · subst hkey
      have hrest : (key, value) ∉ rest := fun hmem =>
        h.1 (List.mem_map.mpr ⟨(key, value), hmem, rfl⟩)
      simp [hrest, eq_comm]
    · have hbeq : (key == other) = false := beq_false_of_ne hkey
      simp [List.lookup_cons, hbeq, hkey, ih h.2]

namespace Json

variable {A : Type} {name other : String} {value : A} {fields : List (String × A)}

/-- What is found under a name is the value of a field. -/
theorem mem_of_lookup_eq_some (h : fields.lookup name = some value) : (name, value) ∈ fields := by
  obtain ⟨before, after, hfields, -⟩ := List.lookup_eq_some_iff.mp h
  rw [hfields]
  exact List.mem_append_right before List.mem_cons_self

/-- A name is looked up in the first field and then in the rest. -/
theorem lookup_cons_eq_ite (field : String × A) (rest : List (String × A)) (name : String) :
    (field :: rest).lookup name = if name = field.1 then some field.2 else rest.lookup name := by
  rw [List.lookup_cons]
  by_cases h : name = field.1
  · simp [h]
  · simp [h, beq_eq_false_iff_ne.mpr h]

/-- A field that is put is found under its name, and the others are as before. -/
theorem lookup_putField :
    (putField name value fields).lookup other =
      if other = name then some value else fields.lookup other := by
  induction fields with
  | nil => rw [putField, lookup_cons_eq_ite]
  | cons field rest ih =>
    by_cases hfield : field.1 = name
    · rw [putField, if_pos hfield, lookup_cons_eq_ite, lookup_cons_eq_ite, hfield]
      by_cases h : other = name <;> simp [h]
    · rw [putField, if_neg hfield, lookup_cons_eq_ite, lookup_cons_eq_ite, ih]
      by_cases h : other = field.1
      · simp [h, hfield]
      · simp [h]

/-- A field that is put has its name at the end if it is new. -/
theorem names_putField :
    (putField name value fields).map (·.1) =
      if name ∈ fields.map (·.1) then fields.map (·.1) else fields.map (·.1) ++ [name] := by
  induction fields with
  | nil => rfl
  | cons field rest ih =>
    by_cases hfield : field.1 = name
    · simp [putField, hfield]
    · rw [putField, if_neg hfield, List.map_cons, ih]
      by_cases h : name ∈ rest.map (·.1) <;> simp_all [Ne.symm]

/-- Putting a field brings in nothing but that field. -/
theorem eq_or_mem_of_mem_putField {field : String × A} (h : field ∈ putField name value fields) :
    field = (name, value) ∨ field ∈ fields := by
  induction fields with
  | nil => exact Or.inl (List.mem_singleton.mp h)
  | cons first rest ih =>
    by_cases hfirst : first.1 = name
    · rw [putField, if_pos hfirst, hfirst, List.mem_cons] at h
      exact h.imp id (List.mem_cons_of_mem first)
    · rw [putField, if_neg hfirst, List.mem_cons] at h
      rcases h with rfl | h
      · exact Or.inr List.mem_cons_self
      · exact (ih h).imp id (List.mem_cons_of_mem first)

/-- A new field is put at the end. -/
theorem putField_of_not_mem (h : name ∉ fields.map (·.1)) :
    putField name value fields = fields ++ [(name, value)] := by
  induction fields with
  | nil => rfl
  | cons field rest ih =>
    rw [List.map_cons, List.mem_cons, not_or] at h
    rw [putField, if_neg (Ne.symm h.1), ih h.2, List.cons_append]

/-- The last field is put after the others. -/
theorem lastOfEach_append_singleton (fields : List (String × A)) (field : String × A) :
    lastOfEach (fields ++ [field]) = putField field.1 field.2 (lastOfEach fields) := by
  rw [lastOfEach, List.foldl_append]
  rfl

/-- Fields with each name once are some of the fields. -/
theorem mem_of_mem_lastOfEach {field : String × A} (h : field ∈ lastOfEach fields) :
    field ∈ fields := by
  induction fields using List.reverseRecOn with
  | nil => exact h
  | append_singleton fields last ih =>
    rw [lastOfEach_append_singleton] at h
    rcases eq_or_mem_of_mem_putField h with rfl | hmem
    · exact List.mem_append_right fields List.mem_cons_self
    · exact List.mem_append_left [last] (ih hmem)

/-- Each name is there once, in the order in which the names first appear. -/
theorem names_lastOfEach (fields : List (String × A)) :
    (lastOfEach fields).map (·.1) = (fields.map (·.1)).eraseDups := by
  induction fields using List.reverseRecOn with
  | nil => rfl
  | append_singleton fields field ih =>
    rw [lastOfEach_append_singleton, names_putField, ih, List.map_append, List.eraseDups_append]
    simp only [List.mem_eraseDups, List.map_cons, List.map_nil]
    by_cases h : field.1 ∈ fields.map (·.1) <;> simp [List.removeAll, List.eraseDups_cons, h]

/-- Each name has its last value. -/
theorem lookup_lastOfEach (fields : List (String × A)) (name : String) :
    (lastOfEach fields).lookup name = fields.reverse.lookup name := by
  induction fields using List.reverseRecOn with
  | nil => rfl
  | append_singleton fields field ih =>
    rw [lastOfEach_append_singleton, lookup_putField, ih, List.reverse_append,
      List.reverse_singleton, List.singleton_append, lookup_cons_eq_ite]

/-- Fields with different names are what is left of them. -/
theorem lastOfEach_of_nodup (h : (fields.map (·.1)).Nodup) : lastOfEach fields = fields := by
  induction fields using List.reverseRecOn with
  | nil => rfl
  | append_singleton fields field ih =>
    rw [List.map_append, List.map_cons, List.map_nil] at h
    obtain ⟨hfields, -, hdisjoint⟩ := List.nodup_append.mp h
    rw [lastOfEach_append_singleton, ih hfields]
    exact putField_of_not_mem fun hmem => hdisjoint field.1 hmem field.1 List.mem_cons_self rfl

/-- A name has the value that all its fields agree on. -/
theorem lookup_lastOfEach_of_forall (hmem : (name, value) ∈ fields)
    (hsame : ∀ later, (name, later) ∈ fields → later = value) :
    (lastOfEach fields).lookup name = some value := by
  rw [lookup_lastOfEach]
  cases hfound : fields.reverse.lookup name with
  | none =>
    exact absurd hfound (by simpa using ⟨value, hmem⟩)
  | some later =>
    have hlater : (name, later) ∈ fields := List.mem_reverse.mp (mem_of_lookup_eq_some hfound)
    rw [hsame later hlater]

end Json

end Tabula
