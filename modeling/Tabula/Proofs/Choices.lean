import Mathlib.Data.List.Forall2
import Mathlib.Data.List.Lex
import Mathlib.Data.List.Perm.Basic

/-!
# Choices from lists

The Cartesian product of any number of lists, as the list of all choices of one item from each. It
is ordered by the positions of the items, where the earlier lists matter more, and it has each
choice of positions once. Rearranging the lists rearranges the choices.
-/

namespace Tabula

variable {A B : Type}

/-- Extending the items that a filter keeps is extending those and no others. -/
theorem flatMap_filter (keep : A → Bool) (extend : A → List B) (items : List A) :
    (items.filter keep).flatMap extend =
      items.flatMap fun item => if keep item then extend item else [] := by
  induction items with
  | nil => rfl
  | cons item rest ih =>
    cases hitem : keep item with
    | false => simp [hitem, ih]
    | true => simp [hitem, ih]

/-- All ways to choose an item from each of the lists, in the order of the items, where the earlier
lists matter more. -/
def choices : List (List A) → List (List A)
  | [] => [[]]
  | first :: rest => first.flatMap fun item => (choices rest).map (item :: ·)

/-- A choice has an item of each of the lists. -/
theorem mem_choices {lists : List (List A)} {choice : List A} :
    choice ∈ choices lists ↔ List.Forall₂ (· ∈ ·) choice lists := by
  induction lists generalizing choice with
  | nil => simp [choices]
  | cons first rest ih =>
    simp only [choices, List.mem_flatMap, List.mem_map, ih, List.forall₂_cons_right_iff]
    constructor
    · rintro ⟨item, hitem, others, hothers, rfl⟩
      exact ⟨item, others, hitem, hothers, rfl⟩
    · rintro ⟨item, others, hitem, hothers, rfl⟩
      exact ⟨item, hitem, others, hothers, rfl⟩

/-- The choices from one list are its items. -/
theorem choices_singleton (list : List A) : choices [list] = list.map fun item => [item] := by
  simp [choices, List.map_eq_flatMap]

/-- One list more extends every choice by each of its items. -/
theorem choices_append_singleton (lists : List (List A)) (last : List A) :
    choices (lists ++ [last]) =
      (choices lists).flatMap fun choice => last.map fun item => choice ++ [item] := by
  induction lists with
  | nil => simp [choices, List.map_eq_flatMap]
  | cons first rest ih =>
    simp only [List.cons_append, choices, ih, List.flatMap_assoc, List.map_flatMap,
      List.flatMap_map, List.map_map, Function.comp_def]

/-- Of the extended choices, a filter keeps each choice with some items of the last list. -/
theorem filter_choices_append_singleton (keep : List A → Bool) (lists : List (List A))
    (last : List A) :
    (choices (lists ++ [last])).filter keep = (choices lists).flatMap fun choice =>
      (last.filter fun item => keep (choice ++ [item])).map fun item => choice ++ [item] := by
  simp only [choices_append_singleton, List.filter_flatMap, List.filter_map, Function.comp_def]

/-- Choices from mapped lists are the mapped choices. -/
theorem choices_zipWith_map {maps : List (A → B)} {lists : List (List A)}
    (hlength : maps.length = lists.length) :
    choices (List.zipWith (fun f list => list.map f) maps lists) =
      (choices lists).map (List.zipWith (fun f item => f item) maps) := by
  induction maps generalizing lists with
  | nil =>
    rw [List.eq_nil_of_length_eq_zero hlength.symm]
    rfl
  | cons f maps ih =>
    cases lists with
    | nil => cases hlength
    | cons first rest =>
      simp only [List.zipWith_cons_cons, choices, ih (Nat.succ.inj hlength), List.flatMap_map,
        List.map_flatMap, List.map_map, Function.comp_def]

/-- Choices from lists of increasing numbers increase. -/
theorem pairwise_choices {lists : List (List Nat)}
    (h : ∀ list ∈ lists, list.Pairwise (· < ·)) : (choices lists).Pairwise (· < ·) := by
  induction lists with
  | nil => exact List.pairwise_singleton _ _
  | cons first rest ih =>
    obtain ⟨hfirst, hrest⟩ := List.forall_mem_cons.mp h
    refine List.pairwise_flatMap.mpr ⟨fun number _ => ?_, hfirst.imp fun hlt => ?_⟩
    · exact List.pairwise_map.mpr ((ih hrest).imp fun hlt => List.Lex.cons hlt)
    · rintro _ hleft _ hright
      obtain ⟨left, -, rfl⟩ := List.mem_map.mp hleft
      obtain ⟨right, -, rfl⟩ := List.mem_map.mp hright
      exact List.Lex.rel hlt

/-- The items at the given positions, one of each list. -/
def choiceAt [Inhabited A] (lists : List (List A)) (positions : List Nat) : List A :=
  List.zipWith (fun list position => list.getD position default) lists positions

/-- Positions within the lists give an item of each list. -/
theorem length_choiceAt [Inhabited A] {lists : List (List A)} {positions : List Nat}
    (h : List.Forall₂ (fun position list => position < list.length) positions lists) :
    (choiceAt lists positions).length = lists.length := by
  simp [choiceAt, h.length_eq]

/-- The positions of all choices. -/
def positionsIn (lists : List (List A)) : List (List Nat) :=
  choices (lists.map fun list => List.range list.length)

/-- The positions of choices are those within the lists. -/
theorem mem_positionsIn {lists : List (List A)} {positions : List Nat} :
    positions ∈ positionsIn lists ↔
      List.Forall₂ (fun position list => position < list.length) positions lists := by
  rw [positionsIn, mem_choices, List.forall₂_map_right_iff]
  simp only [List.mem_range]

/-- The positions of choices increase, in the order in which an earlier position matters more. -/
theorem pairwise_positionsIn (lists : List (List A)) : (positionsIn lists).Pairwise (· < ·) :=
  pairwise_choices (List.forall_mem_map.mpr fun _ _ => List.pairwise_lt_range)

/-- Choices are the items at their positions. -/
theorem choices_eq_map_choiceAt [Inhabited A] (lists : List (List A)) :
    choices lists = (positionsIn lists).map (choiceAt lists) := by
  have hall (list : List A) :
      (List.range list.length).map (list.getD · default) = list := by
    refine List.ext_getElem (by simp) fun position hposition hlist => ?_
    simp [List.getElem?_eq_getElem hlist]
  have hlists : lists = List.zipWith (fun f list => list.map f)
      (lists.map fun list position => list.getD position default)
      (lists.map fun list => List.range list.length) := by
    simp only [List.zipWith_map, List.zipWith_self, hall, List.map_id']
  conv_lhs => rw [hlists]
  rw [choices_zipWith_map (by simp)]
  refine List.map_congr_left fun positions _ => ?_
  rw [choiceAt, List.zipWith_map_left]

/-! ### Rearranging the lists -/

/-- Taking the items of one list for each of another is taking them the other way round. -/
theorem flatMap_flatMap_perm {C : Type} (items : List A) (others : List B) (f : A → B → List C) :
    (items.flatMap fun item => others.flatMap fun other => f item other).Perm
      (others.flatMap fun other => items.flatMap fun item => f item other) := by
  induction items with
  | nil => simp
  | cons item rest ih =>
    simp only [List.flatMap_cons]
    exact (ih.append_left _).trans (List.flatMap_append_perm ..)

/-- A choice from rearranged lists is a rearranged choice. -/
theorem exists_perm_of_mem_choices {lists others : List (List A)} (h : lists.Perm others)
    {choice : List A} (hchoice : choice ∈ choices others) :
    ∃ choice' ∈ choices lists, choice'.Perm choice := by
  obtain ⟨choice', hchoice', hperm⟩ :=
    List.perm_comp_forall₂ h (List.Forall₂.flip (mem_choices.mp hchoice))
  exact ⟨choice', mem_choices.mpr (List.Forall₂.flip hchoice'), hperm⟩

/-- What is made of the choices from rearranged lists is what is made of the choices from the lists,
if the order of the items in a choice makes no difference. -/
theorem flatMap_choices_perm {lists others : List (List A)} (h : lists.Perm others)
    {f : List A → List B}
    (hf : ∀ choice ∈ choices lists, ∀ other : List A, other.Perm choice → f other = f choice) :
    ((choices others).flatMap f).Perm ((choices lists).flatMap f) := by
  induction h generalizing f with
  | nil => rfl
  | cons list _ ih =>
    simp only [choices, List.flatMap_assoc, List.flatMap_map]
    refine List.Perm.flatMap_left _ fun item hitem => ih fun choice hchoice other hother => ?_
    refine hf _ ?_ _ (hother.cons item)
    exact mem_choices.mpr (.cons hitem (mem_choices.mp hchoice))
  | swap first second rest =>
    simp only [choices, List.flatMap_assoc, List.flatMap_map, List.map_flatMap]
    refine (flatMap_flatMap_perm _ _ _).trans (List.Perm.flatMap_left _ fun b hb => ?_)
    refine List.Perm.flatMap_left _ fun a ha => List.Perm.flatMap_left _ fun choice hchoice => ?_
    refine List.Perm.of_eq (hf _ ?_ _ (.swap ..))
    exact mem_choices.mpr (.cons hb (.cons ha (mem_choices.mp hchoice)))
  | trans hfirst _ ihFirst ihSecond =>
    refine (ihSecond fun choice hchoice other hother => ?_).trans (ihFirst hf)
    -- Both are rearrangements of one choice from the lists before the first step.
    obtain ⟨original, horiginal, hperm⟩ := exists_perm_of_mem_choices hfirst hchoice
    exact (hf original horiginal other (hother.trans hperm.symm)).trans
      (hf original horiginal choice hperm.symm).symm

end Tabula
