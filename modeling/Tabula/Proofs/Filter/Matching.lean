import Mathlib.Data.List.Forall2
import Mathlib.Data.List.Infix
import Tabula.Filter.Pattern
import Tabula.Proofs.Related

/-!
# Matching of text patterns

What it means for a pattern to match a text is said by recursion on the pattern. Matching decides
this, although it remembers only the latest `%`: whatever an earlier `%` could take more, the
latest one can take as well. It ends, since every turn leaves less, and it stays within the
pattern.
-/

namespace Tabula.Pattern

/-- A pattern matches a text: the empty pattern the empty text only, `%` any run of characters
before what the rest of the pattern matches, `_` any single character, and every other character
itself. -/
inductive Matches : (pattern text : List Char) → Prop
  | nil : Matches [] []
  | star {pattern text rest : List Char} (taken : rest <:+ text) (matched : Matches pattern rest) :
      Matches ('%' :: pattern) text
  | any {pattern text : List Char} (c : Char) (matched : Matches pattern text) :
      Matches ('_' :: pattern) (c :: text)
  | same {c : Char} {pattern text : List Char} (notStar : c ≠ '%') (notAny : c ≠ '_')
      (matched : Matches pattern text) : Matches (c :: pattern) (c :: text)

/-- A character of a pattern stands for a single character, and admits this one. -/
def Fits (p c : Char) : Prop := p ≠ '%' ∧ (p = '_' ∨ p = c)

variable {pattern text segment taken : List Char} {p c : Char}

/-! ### Matching by recursion on the pattern -/

/-- The empty pattern matches the empty text only. -/
theorem matches_nil_iff : Matches [] text ↔ text = [] := by
  constructor
  · rintro ⟨⟩
    rfl
  · rintro rfl
    exact .nil

/-- A `%` leaves some end of the text to the rest of the pattern. -/
theorem matches_star_iff :
    Matches ('%' :: pattern) text ↔ ∃ rest, rest <:+ text ∧ Matches pattern rest := by
  constructor
  · intro h
    cases h with
    | star taken matched => exact ⟨_, taken, matched⟩
    | same notStar => exact absurd rfl notStar
  · rintro ⟨rest, htaken, hmatched⟩
    exact .star htaken hmatched

/-- A `%` takes nothing, or the first character and perhaps more. -/
theorem matches_star_cons_iff :
    Matches ('%' :: pattern) (c :: text) ↔
      Matches pattern (c :: text) ∨ Matches ('%' :: pattern) text := by
  simp only [matches_star_iff, List.suffix_cons_iff, or_and_right, exists_or, exists_eq_left]

/-- Any other character of the pattern takes one character of the text. -/
theorem matches_cons_iff (hp : p ≠ '%') :
    Matches (p :: pattern) text ↔ ∃ c rest, text = c :: rest ∧ Fits p c ∧ Matches pattern rest := by
  constructor
  · intro h
    cases h with
    | star => exact absurd rfl hp
    | any c matched => exact ⟨c, _, rfl, ⟨hp, Or.inl rfl⟩, matched⟩
    | same _ _ matched => exact ⟨p, _, rfl, ⟨hp, Or.inr rfl⟩, matched⟩
  · rintro ⟨c, rest, rfl, ⟨-, hfits⟩, hmatched⟩
    by_cases hany : p = '_'
    · subst hany
      exact .any c hmatched
    · obtain rfl := hfits.resolve_left hany
      exact .same hp hany hmatched

/-- Only `%` match the empty text. -/
theorem matches_nil_text_iff : Matches pattern [] ↔ pattern.all (· == '%') = true := by
  induction pattern with
  | nil => simp [matches_nil_iff]
  | cons p rest ih =>
    by_cases hp : p = '%'
    · subst hp
      simp [matches_star_iff, ih]
    · simp [matches_cons_iff hp, hp]

/-! ### A stretch of the pattern without `%` -/

/-- A stretch that fits the text so far leaves the rest to the rest. -/
theorem matches_append_iff (h : List.Forall₂ Fits segment taken) :
    Matches (segment ++ pattern) (taken ++ text) ↔ Matches pattern text := by
  induction h with
  | nil => rfl
  | cons hfits _ ih => simp [matches_cons_iff hfits.1, hfits, ih]

/-- A stretch takes as many characters of the text as it has itself. -/
theorem exists_of_matches_append (hsegment : ∀ p ∈ segment, p ≠ '%')
    (h : Matches (segment ++ pattern) text) :
    ∃ taken rest, text = taken ++ rest ∧ taken.length = segment.length ∧
      Matches pattern rest := by
  induction segment generalizing text with
  | nil => exact ⟨[], text, rfl, rfl, h⟩
  | cons p segment ih =>
    obtain ⟨hp, hrest⟩ := List.forall_mem_cons.mp hsegment
    obtain ⟨c, rest, rfl, -, hmatched⟩ := (matches_cons_iff hp).mp h
    obtain ⟨taken, left, rfl, hlength, hleft⟩ := ih hrest hmatched
    exact ⟨c :: taken, left, rfl, congrArg (· + 1) hlength, hleft⟩

/-- A stretch after a `%` takes its characters from some end of the text, so it leaves an end of
what is left where it fits first. -/
theorem exists_suffix_of_matches (h : List.Forall₂ Fits segment taken)
    (hmatched : Matches ('%' :: (segment ++ pattern)) (taken ++ text)) :
    ∃ rest, rest <:+ text ∧ Matches pattern rest := by
  have hsegment : ∀ p ∈ segment, p ≠ '%' := by
    intro p hp
    obtain ⟨c, -, hfits⟩ := exists_of_mem_left h hp
    exact hfits.1
  obtain ⟨whole, hwhole, hmatched⟩ := matches_star_iff.mp hmatched
  obtain ⟨other, rest, rfl, hlength, hrest⟩ := exists_of_matches_append hsegment hmatched
  refine ⟨rest, List.suffix_of_suffix_length_le ((List.suffix_append other rest).trans hwhole)
    (List.suffix_append taken text) ?_, hrest⟩
  have hle := hwhole.length_le
  rw [List.length_append, List.length_append, hlength, h.length_eq] at hle
  exact Nat.le_of_add_le_add_left hle

/-- What an earlier `%` could take more, a later one can take as well. -/
theorem matches_star_segment_star_iff (h : List.Forall₂ Fits segment taken) :
    Matches ('%' :: (segment ++ '%' :: pattern)) (taken ++ text) ↔
      Matches ('%' :: pattern) text := by
  constructor
  · intro hmatched
    obtain ⟨rest, hrest, hmatched⟩ := exists_suffix_of_matches h hmatched
    obtain ⟨last, hlast, hmatched⟩ := matches_star_iff.mp hmatched
    exact .star (hlast.trans hrest) hmatched
  · intro hmatched
    exact .star List.suffix_rfl ((matches_append_iff h).mpr hmatched)

/-- Where a stretch after a `%` fits the end of the text, the rest must match the empty text. -/
theorem matches_star_segment_nil_iff (h : List.Forall₂ Fits segment taken) :
    Matches ('%' :: (segment ++ pattern)) taken ↔ Matches pattern [] := by
  constructor
  · intro hmatched
    rw [← List.append_nil taken] at hmatched
    obtain ⟨rest, hrest, hmatched⟩ := exists_suffix_of_matches h hmatched
    rwa [List.suffix_nil.mp hrest] at hmatched
  · intro hmatched
    have hwhole := (matches_append_iff h).mpr hmatched
    rw [List.append_nil] at hwhole
    exact .star List.suffix_rfl hwhole

/-! ### The turns of matching -/

namespace Cursor

variable {cursor next : Cursor}

/-- What is left of a list at a position begins with the item there. -/
theorem drop_eq_cons_of_getElem? {items : List Char} {position : Nat} (h : items[position]? = some c) :
    items.drop position = c :: items.drop (position + 1) := by
  obtain ⟨hlt, rfl⟩ := List.getElem?_eq_some_iff.mp h
  exact List.drop_eq_getElem_cons hlt

/-- In a turn the text is used up, a `%` or a character that fits is passed, or the character does
not fit and matching goes back, if it can. -/
theorem turn_cases (pattern text : List Char) (cursor : Cursor) :
    (text.drop cursor.text = [] ∧
      cursor.turn pattern.toArray text.toArray =
        .ended ((pattern.drop cursor.pattern).all (· == '%'))) ∨
    ∃ c, text.drop cursor.text = c :: text.drop (cursor.text + 1) ∧
      ((pattern.drop cursor.pattern = '%' :: pattern.drop (cursor.pattern + 1) ∧
        cursor.turn pattern.toArray text.toArray = .goOn cursor.pastStar) ∨
      (∃ p, pattern.drop cursor.pattern = p :: pattern.drop (cursor.pattern + 1) ∧ Fits p c ∧
        cursor.turn pattern.toArray text.toArray = .goOn cursor.pastChar) ∨
      (¬ Matches (pattern.drop cursor.pattern) (text.drop cursor.text) ∧
        cursor.turn pattern.toArray text.toArray =
          cursor.restart.elim (.ended false) fun place => .goOn (back place))) := by
  unfold turn
  simp only [List.getElem?_toArray]
  split
  · rename_i htext
    exact Or.inl ⟨List.drop_eq_nil_of_le (List.getElem?_eq_none_iff.mp htext), rfl⟩
  · rename_i c htext
    have hdrop := drop_eq_cons_of_getElem? htext
    refine Or.inr ⟨c, hdrop, ?_⟩
    split
    · rename_i hstar
      exact Or.inl ⟨drop_eq_cons_of_getElem? hstar, rfl⟩
    · rename_i hstar
      split
      · rename_i hfits
        refine Or.inr (Or.inl ?_)
        rcases hfits with hany | hsame
        · exact ⟨'_', drop_eq_cons_of_getElem? hany, ⟨by decide, Or.inl rfl⟩, rfl⟩
        · refine ⟨c, drop_eq_cons_of_getElem? hsame, ⟨?_, Or.inr rfl⟩, rfl⟩
          rintro rfl
          exact hstar hsame
      · rename_i hfits
        refine Or.inr (Or.inr ⟨fun hmatched => ?_, ?_⟩)
        · cases hpattern : pattern[cursor.pattern]? with
          | none =>
            rw [List.drop_eq_nil_of_le (List.getElem?_eq_none_iff.mp hpattern), hdrop,
              matches_nil_iff] at hmatched
            cases hmatched
          | some p =>
            rw [hpattern, Option.some.injEq] at hstar
            rw [drop_eq_cons_of_getElem? hpattern, hdrop, matches_cons_iff hstar] at hmatched
            obtain ⟨_, _, htaken, ⟨-, hp⟩, -⟩ := hmatched
            cases htaken
            rw [hpattern, Option.some.injEq, Option.some.injEq] at hfits
            exact hfits hp
        · cases cursor.restart <;> rfl

/-- A turn that goes on has passed a `%` or a character that fits, or has gone back from where the
rest does not match. -/
theorem turn_eq_goOn (h : cursor.turn pattern.toArray text.toArray = .goOn next) :
    (pattern.drop cursor.pattern = '%' :: pattern.drop (cursor.pattern + 1) ∧
      next = cursor.pastStar) ∨
    ∃ c, text.drop cursor.text = c :: text.drop (cursor.text + 1) ∧
      ((∃ p, pattern.drop cursor.pattern = p :: pattern.drop (cursor.pattern + 1) ∧ Fits p c ∧
        next = cursor.pastChar) ∨
      ∃ place, cursor.restart = some place ∧
        ¬ Matches (pattern.drop cursor.pattern) (text.drop cursor.text) ∧ next = back place) := by
  rcases turn_cases pattern text cursor with
    ⟨-, hcase⟩ | ⟨c, hc, ⟨hstar, hcase⟩ | ⟨p, hp, hfits, hcase⟩ | ⟨hnot, hcase⟩⟩ <;>
    rw [hcase] at h
  · cases h
  · cases h
    exact Or.inl ⟨hstar, rfl⟩
  · cases h
    exact Or.inr ⟨c, hc, Or.inl ⟨p, hp, hfits, rfl⟩⟩
  · cases hrestart : cursor.restart with
    | none =>
      rw [hrestart] at h
      cases h
    | some place =>
      rw [hrestart] at h
      cases h
      exact Or.inr ⟨c, hc, Or.inr ⟨place, rfl, hnot, rfl⟩⟩

/-- A turn that ends has used up the text, or the rest does not match and no `%` has been passed. -/
theorem turn_eq_ended {matched : Bool}
    (h : cursor.turn pattern.toArray text.toArray = .ended matched) :
    (text.drop cursor.text = [] ∧ matched = (pattern.drop cursor.pattern).all (· == '%')) ∨
    (cursor.restart = none ∧
      ¬ Matches (pattern.drop cursor.pattern) (text.drop cursor.text) ∧ matched = false) := by
  rcases turn_cases pattern text cursor with
    ⟨hend, hcase⟩ | ⟨c, -, ⟨-, hcase⟩ | ⟨p, -, -, hcase⟩ | ⟨hnot, hcase⟩⟩ <;> rw [hcase] at h
  · cases h
    exact Or.inl ⟨hend, rfl⟩
  · cases h
  · cases h
  · cases hrestart : cursor.restart with
    | none =>
      rw [hrestart] at h
      cases h
      exact Or.inr ⟨rfl, hnot, rfl⟩
    | some place =>
      rw [hrestart] at h
      cases h

/-- The cursor has not lost a match: the pattern matches the text exactly if what is left of both
matches, or, once a `%` has been passed, if that `%` and what follows it match the text from the
restart on. In that case the stretch from the restart up to here fits. -/
structure Faithful (pattern text : List Char) (cursor : Cursor) : Prop where
  direct : cursor.restart = none →
    (Matches pattern text ↔ Matches (pattern.drop cursor.pattern) (text.drop cursor.text))
  held : ∀ place, cursor.restart = some place →
    (Matches pattern text ↔
      Matches ('%' :: pattern.drop place.pattern) (text.drop place.text)) ∧
    ∃ segment taken, List.Forall₂ Fits segment taken ∧
      pattern.drop place.pattern = segment ++ pattern.drop cursor.pattern ∧
      text.drop place.text = taken ++ text.drop cursor.text

namespace Faithful

/-- Nothing is lost at the start. -/
theorem start (pattern text : List Char) : Faithful pattern text .start where
  direct _ := Iff.rfl
  held _ hplace := by cases hplace

/-- A cursor from which the latest `%` has just been passed is faithful if the `%` and the rest of
the pattern match the rest of the text exactly if the whole matches. -/
theorem ofRestart {place : Place} (hrestart : cursor.restart = some place)
    (hplace : cursor.toPlace = place)
    (h : Matches pattern text ↔
      Matches ('%' :: pattern.drop place.pattern) (text.drop place.text)) :
    Faithful pattern text cursor where
  direct hnone := by rw [hrestart] at hnone; cases hnone
  held other hother := by
    rw [hrestart, Option.some.injEq] at hother
    subst hother hplace
    exact ⟨h, [], [], .nil, rfl, rfl⟩

/-- Passing a `%` loses no match: an earlier one need not take more. -/
theorem pastStar (h : Faithful pattern text cursor)
    (hstar : pattern.drop cursor.pattern = '%' :: pattern.drop (cursor.pattern + 1)) :
    Faithful pattern text cursor.pastStar := by
  refine ofRestart rfl rfl ?_
  cases hrestart : cursor.restart with
  | none => exact hstar ▸ h.direct hrestart
  | some place =>
    obtain ⟨hwhole, segment, taken, hfits, hpattern, htext⟩ := h.held place hrestart
    rw [hwhole, hpattern, htext, hstar]
    exact matches_star_segment_star_iff hfits

/-- Passing a character that fits loses no match. -/
theorem pastChar (h : Faithful pattern text cursor) (hfits : Fits p c)
    (hp : pattern.drop cursor.pattern = p :: pattern.drop (cursor.pattern + 1))
    (hc : text.drop cursor.text = c :: text.drop (cursor.text + 1)) :
    Faithful pattern text cursor.pastChar where
  direct hnone := by
    have hpair : List.Forall₂ Fits [p] [c] := .cons hfits .nil
    rw [h.direct hnone, hp, hc]
    exact matches_append_iff hpair
  held place hplace := by
    obtain ⟨hwhole, segment, taken, hstretch, hpattern, htext⟩ := h.held place hplace
    refine ⟨hwhole, segment ++ [p], taken ++ [c], ?_, ?_, ?_⟩
    · exact List.rel_append hstretch (.cons hfits .nil)
    · rw [hpattern, hp, List.append_assoc, List.singleton_append]
      rfl
    · rw [htext, hc, List.append_assoc, List.singleton_append]
      rfl

/-- Going back loses no match if what is left does not match: then the `%` cannot take as little
as it did. -/
theorem back (h : Faithful pattern text cursor) {place : Place}
    (hrestart : cursor.restart = some place)
    (hc : text.drop cursor.text = c :: text.drop (cursor.text + 1))
    (hnot : ¬ Matches (pattern.drop cursor.pattern) (text.drop cursor.text)) :
    Faithful pattern text (Cursor.back place) := by
  obtain ⟨hwhole, segment, taken, hstretch, hpattern, htext⟩ := h.held place hrestart
  have hlt : place.text < text.length := by
    by_contra hle
    rw [List.drop_eq_nil_of_le (Nat.le_of_not_lt hle), hc] at htext
    simp at htext
  have hfirst : ¬ Matches (pattern.drop place.pattern) (text.drop place.text) := by
    rwa [hpattern, htext, matches_append_iff hstretch]
  refine ofRestart rfl rfl ?_
  rw [hwhole]
  rw [List.drop_eq_getElem_cons hlt] at hfirst ⊢
  rw [matches_star_cons_iff, or_iff_right hfirst]

/-- A turn that goes on loses no match. -/
theorem turn (h : Faithful pattern text cursor)
    (hturn : cursor.turn pattern.toArray text.toArray = .goOn next) :
    Faithful pattern text next := by
  rcases turn_eq_goOn hturn with
    ⟨hstar, rfl⟩ | ⟨c, hc, ⟨p, hp, hfits, rfl⟩ | ⟨place, hrestart, hnot, rfl⟩⟩
  · exact h.pastStar hstar
  · exact h.pastChar hfits hp hc
  · exact h.back hrestart hc hnot

/-- Matching ends with the right answer. -/
theorem ended (h : Faithful pattern text cursor) {matched : Bool}
    (hturn : cursor.turn pattern.toArray text.toArray = .ended matched) :
    matched = true ↔ Matches pattern text := by
  rcases turn_eq_ended hturn with ⟨hend, rfl⟩ | ⟨hrestart, hnot, rfl⟩
  · rw [← matches_nil_text_iff]
    cases hrestart : cursor.restart with
    | none => rw [h.direct hrestart, hend]
    | some place =>
      obtain ⟨hwhole, segment, taken, hstretch, hpattern, htext⟩ := h.held place hrestart
      rw [hwhole, hpattern, htext, hend, List.append_nil]
      exact (matches_star_segment_nil_iff hstretch).symm
  · exact iff_of_false Bool.false_ne_true fun hmatched => hnot ((h.direct hrestart).mp hmatched)

end Faithful

/-! ### Positions -/

/-- The positions in the pattern, here and after the latest `%`, are not past its end. -/
structure Within (pattern : List Char) (cursor : Cursor) : Prop where
  here : cursor.pattern ≤ pattern.length
  restart : ∀ place ∈ cursor.restart, place.pattern ≤ pattern.length

/-- A turn does not pass the end of the pattern. -/
theorem Within.turn (h : Within pattern cursor)
    (hturn : cursor.turn pattern.toArray text.toArray = .goOn next) : Within pattern next := by
  have hinside {p : Char} {rest : List Char} (hdrop : pattern.drop cursor.pattern = p :: rest) :
      cursor.pattern + 1 ≤ pattern.length := by
    by_contra hle
    rw [List.drop_eq_nil_of_le (Nat.le_of_lt_succ (Nat.lt_of_not_le hle))] at hdrop
    cases hdrop
  rcases turn_eq_goOn hturn with
    ⟨hstar, rfl⟩ | ⟨c, -, ⟨p, hp, -, rfl⟩ | ⟨place, hrestart, -, rfl⟩⟩
  · refine ⟨hinside hstar, fun place hplace => ?_⟩
    cases hplace
    exact hinside hstar
  · exact ⟨hinside hp, h.restart⟩
  · have hplace := h.restart place hrestart
    refine ⟨hplace, fun other hother => ?_⟩
    cases hother
    exact hplace

/-! ### Runs -/

/-- The cursors that matching comes by, from the start on. -/
inductive Passed (pattern text : List Char) : Cursor → Prop
  | start : Passed pattern text .start
  | turn {cursor next : Cursor} (passed : Passed pattern text cursor)
      (goesOn : cursor.turn pattern.toArray text.toArray = .goOn next) : Passed pattern text next

/-- Matching stays within the pattern and never loses a match. -/
theorem Passed.invariant (h : Passed pattern text cursor) :
    Within pattern cursor ∧ Faithful pattern text cursor := by
  induction h with
  | start => exact ⟨⟨Nat.zero_le _, nofun⟩, .start pattern text⟩
  | turn _ goesOn ih => exact ⟨ih.1.turn goesOn, ih.2.turn goesOn⟩

/-- From every cursor that matching comes by it comes to an end, with the answer of the run. -/
theorem Passed.exists_ended (h : Passed pattern text cursor) :
    ∃ last, Passed pattern text last ∧ last.turn pattern.toArray text.toArray =
      .ended (cursor.run pattern.toArray text.toArray) := by
  fun_induction run pattern.toArray text.toArray cursor with
  | case1 cursor matched hturn => exact ⟨cursor, h, hturn⟩
  | case2 cursor next hturn ih => exact ih (h.turn hturn)

end Cursor

/-- Matching comes to an end after some turns, with its answer. -/
theorem exists_ended_covers (pattern text : List Char) :
    ∃ last, Cursor.Passed pattern text last ∧
      last.turn pattern.toArray text.toArray = .ended (covers pattern text) :=
  Cursor.Passed.exists_ended .start

/-- A pattern covers the texts that it matches. -/
theorem covers_iff_matches (pattern text : List Char) :
    covers pattern text = true ↔ Matches pattern text := by
  obtain ⟨last, hpassed, hturn⟩ := exists_ended_covers pattern text
  exact hpassed.invariant.2.ended hturn

/-- For every pattern and every text matching comes to an end after some turns, and its answer is
that the text matches exactly if it does by recursion on the pattern. On the way the position in
the pattern is never past its end. -/
theorem coversText_iff_matches (pattern text : String) :
    (∃ last, Cursor.Passed pattern.toList text.toList last ∧
      last.turn pattern.toList.toArray text.toList.toArray =
        .ended (coversText pattern text false)) ∧
    (coversText pattern text false = true ↔ Matches pattern.toList text.toList) ∧
    ∀ cursor, Cursor.Passed pattern.toList text.toList cursor →
      cursor.pattern ≤ pattern.toList.length :=
  ⟨exists_ended_covers _ _, covers_iff_matches _ _,
    fun _ hpassed => hpassed.invariant.1.here⟩

end Tabula.Pattern
