import Tabula.Schema.Registry

/-!
# The text of a path

A path is written with dots between its parts. It can be read back if no part is empty and none has
a dot, and nothing else is read: a text is accepted exactly if it is the text of such a path.
-/

namespace Tabula

namespace FieldPath

/-- The parts of a path, in the order in which they are written. -/
def names (path : FieldPath) : List String := path.database.toList ++ [path.table, path.column]

/-- No part of a path is empty or has a dot. -/
def IsPlain (path : FieldPath) : Prop := ∀ name ∈ path.names, name ≠ "" ∧ '.' ∉ name.toList

/-- The text of a path. -/
def text (path : FieldPath) : String := ".".intercalate path.names

/-- Whether the parts of a path are so can be decided. -/
instance decidableIsPlain (path : FieldPath) : Decidable path.IsPlain :=
  inferInstanceAs (Decidable (∀ name ∈ path.names, _))

/-! ### The parts of a text -/

/-- The parts of a text are what the library for lists splits it into. -/
theorem parts_eq_splitOn (chars : List Char) : parts chars = chars.splitOn '.' := by
  induction chars with
  | nil => rfl
  | cons c rest ih =>
    rw [List.splitOn, List.splitOnP_cons_eq_if_modifyHead, ← List.splitOn, ← ih, parts]
    by_cases hc : c = '.'
    · simp [hc]
    · cases hrest : parts rest with
      | nil => exact absurd (ih ▸ hrest) (List.splitOnP_ne_nil _ _)
      | cons part others => simp [hc]

/-- No part has a dot. -/
theorem dot_notMem_of_mem_parts {chars part : List Char} (h : part ∈ parts chars) : '.' ∉ part := by
  induction chars generalizing part with
  | nil => simp_all [parts]
  | cons c rest ih =>
    rw [parts] at h
    split at h
    · rcases List.mem_cons.mp h with rfl | hrest
      · exact List.not_mem_nil
      · exact ih hrest
    · rename_i hc
      split at h
      · rw [List.mem_singleton.mp h, List.mem_singleton]
        exact Ne.symm hc
      · rename_i first others heq
        rcases List.mem_cons.mp h with rfl | hrest
        · rw [List.mem_cons, not_or]
          exact ⟨Ne.symm hc, ih (heq ▸ List.mem_cons_self)⟩
        · exact ih (heq ▸ List.mem_cons_of_mem first hrest)

/-- The parts of a text make the text again with dots between them. -/
theorem intercalate_parts (text : String) :
    ".".intercalate ((parts text.toList).map String.ofList) = text := by
  rw [← String.toList_inj, String.toList_intercalate, List.map_map]
  simp only [Function.comp_def, String.toList_ofList, List.map_id']
  rw [parts_eq_splitOn]
  exact List.intercalate_splitOn '.'

/-- Texts without dots are the parts of what they make with dots between them. -/
theorem parts_intercalate {names : List String} (hnames : names ≠ [])
    (h : ∀ name ∈ names, '.' ∉ name.toList) :
    (parts (".".intercalate names).toList).map String.ofList = names := by
  have hsplit : ((".".toList).intercalate (names.map String.toList)).splitOn '.' =
      names.map String.toList :=
    List.splitOn_intercalate '.' (by simpa using h) (by simpa using hnames)
  rw [parts_eq_splitOn, String.toList_intercalate, hsplit, List.map_map]
  simp [Function.comp_def]

/-! ### Reading a path -/

/-- The parts of a path that is read are those of the text, and none of them is empty. -/
theorem names_of_ofText {text : String} {path : FieldPath} (h : ofText text = .ok path) :
    path.names = (parts text.toList).map String.ofList ∧ [] ∉ parts text.toList := by
  simp only [ofText] at h
  split at h
  · cases h
  · rename_i hempty
    refine ⟨?_, fun hmem => hempty (List.any_eq_true.mpr ⟨[], hmem, rfl⟩)⟩
    split at h
    · rename_i database table column hparts
      cases h
      exact hparts.symm
    · rename_i table column hparts
      cases h
      exact hparts.symm
    · cases h

/-- A text is read as a path exactly if it is the text of the path and no part of the path is empty
or has a dot. -/
theorem ofText_eq_ok_iff {text : String} {path : FieldPath} :
    ofText text = .ok path ↔ path.IsPlain ∧ path.text = text := by
  constructor
  · intro h
    obtain ⟨hnames, hempty⟩ := names_of_ofText h
    refine ⟨fun name hname => ?_, by rw [FieldPath.text, hnames, intercalate_parts]⟩
    obtain ⟨part, hpart, rfl⟩ := List.mem_map.mp (hnames ▸ hname)
    rw [String.toList_ofList]
    refine ⟨fun heq => hempty ?_, dot_notMem_of_mem_parts hpart⟩
    rwa [String.ofList_eq_empty_iff.mp heq] at hpart
  · rintro ⟨hplain, rfl⟩
    have hne : path.names ≠ [] := by simp [names]
    have hparts := parts_intercalate hne fun name hname => (hplain name hname).2
    have hempty : (parts path.text.toList).any (·.isEmpty) = false := by
      refine List.any_eq_false.mpr fun part hpart hnil => ?_
      have hname := List.mem_map_of_mem (f := String.ofList) hpart
      rw [text, hparts] at hname
      exact (hplain _ hname).1 (String.ofList_eq_empty_iff.mpr (List.isEmpty_iff.mp hnil))
    rw [text] at hempty
    simp only [ofText, text, hempty, hparts, Bool.false_eq_true, if_false]
    obtain ⟨_ | database, table, column⟩ := path <;> rfl

end FieldPath

end Tabula
