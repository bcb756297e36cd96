import Tabula.Text.Lowercase

/-!
# Lowercase text, character by character

A text is put into lower case one character after the other. Only the capital sigma looks at its
neighbours, and only the dotted capital I becomes more than one character.
-/

namespace Tabula

/-- The only character whose lowercase form has two characters. -/
def dottedCapitalI : Char := 'İ'

/-- What a character becomes between the earlier characters of a text, the nearest first, and the
later ones. -/
def lowercaseBetween (before : List Char) (c : Char) (after : List Char) : List Char :=
  if c = capitalSigma then [if startsCased before && !startsCased after then 'ς' else 'σ']
  else lowercaseChar c

/-- The first character of a text is put into lower case before the rest. -/
theorem lowercaseAfter_cons (before : List Char) (c : Char) (rest : List Char) :
    lowercaseAfter before (c :: rest) =
      lowercaseBetween before c rest ++ lowercaseAfter (c :: before) rest := rfl

/-- The end of a text becomes the end of its lowercase form. -/
theorem exists_lowercaseAfter_append (before start rest : List Char) :
    ∃ front, lowercaseAfter before (start ++ rest) =
      front ++ lowercaseAfter (start.reverse ++ before) rest := by
  induction start generalizing before with
  | nil => exact ⟨[], rfl⟩
  | cons c start ih =>
    obtain ⟨front, hfront⟩ := ih (c :: before)
    refine ⟨lowercaseBetween before c (start ++ rest) ++ front, ?_⟩
    rw [List.cons_append, lowercaseAfter_cons, hfront, List.append_assoc, List.reverse_cons,
      List.append_assoc, List.singleton_append]

/-- Every other character than the dotted capital I becomes a single character. -/
theorem exists_lowercaseBetween_eq_singleton {c : Char} (h : c ≠ dottedCapitalI)
    (before after : List Char) : ∃ d, lowercaseBetween before c after = [d] := by
  unfold lowercaseBetween lowercaseChar
  split
  · exact ⟨_, rfl⟩
  · split
    · exact ⟨_, rfl⟩
    · split
      · rename_i hcode
        exact absurd (Char.toNat_inj.mp hcode) h
      · exact ⟨_, rfl⟩

/-- A case-ignorable character does not matter before a text. -/
theorem startsCased_cons_of_ignorable {c : Char} (h : inRanges caseIgnorableRanges c = true)
    (chars : List Char) : startsCased (c :: chars) = startsCased chars := by
  rw [startsCased, List.dropWhile_cons_of_pos h]
  rfl

/-- Any other character decides whether a text starts with a cased one. -/
theorem startsCased_cons_of_not_ignorable {c : Char}
    (h : inRanges caseIgnorableRanges c = false) (chars : List Char) :
    startsCased (c :: chars) = inRanges casedRanges c := by
  rw [startsCased, List.dropWhile_cons_of_neg (by simp [h])]

end Tabula
