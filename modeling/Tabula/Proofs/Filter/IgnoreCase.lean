import Tabula.Filter.Predicate
import Tabula.Proofs.Filter.Matching
import Tabula.Proofs.Text.Lowercase

/-!
# Matching that ignores case

To ignore case, the pattern and the text are put into lower case as whole texts. That can lose a
match: the dotted capital I becomes two characters, which `_` does not match, and a capital sigma
next to a wildcard can have another form in the pattern than in the text. These are the only ways:
a match is kept if the pattern settles the form of each of its capital sigmas, and has no `_` or
meets a text without a dotted capital I.
-/

namespace Tabula.Pattern

/-! ### Capital sigmas of a pattern -/

/-- What the characters on one side of a place in a pattern tell about the texts that it matches:
whether the first character that is not case-ignorable is cased, or nothing if a wildcard comes
first. -/
def casedSide? (chars : List Char) : Option Bool :=
  match chars.dropWhile (inRanges caseIgnorableRanges) with
  | [] => some false
  | c :: _ => if c = '%' ∨ c = '_' then none else some (inRanges casedRanges c)

/-- Whether a capital sigma has the same form in all texts that a pattern matches, given the earlier
characters of the pattern, the nearest first, and the later ones. -/
def settlesSigma (before after : List Char) : Bool :=
  casedSide? before == some false || casedSide? after == some true ||
    (casedSide? before == some true && casedSide? after == some false)

/-- Whether all capital sigmas of a pattern are settled, after the characters `before`. -/
def settlesSigmasAfter (before : List Char) : List Char → Bool
  | [] => true
  | c :: rest => (c != capitalSigma || settlesSigma before rest) &&
      settlesSigmasAfter (c :: before) rest

/-- Whether a pattern settles the form of each of its capital sigmas. -/
def settlesSigmas (pattern : List Char) : Bool := settlesSigmasAfter [] pattern

/-- What one side of a place in a pattern tells is true of that side of a place in a text. -/
def Tells (side textSide : List Char) : Prop :=
  ∀ cased, casedSide? side = some cased → startsCased textSide = cased

variable {pattern text side textSide : List Char} {c : Char}

/-- Where the pattern has a wildcard it tells nothing. -/
theorem tells_of_wildcard (hc : c = '%' ∨ c = '_') : Tells (c :: side) textSide := by
  intro cased hcased
  have hnot : inRanges caseIgnorableRanges c ≠ true := by
    rcases hc with rfl | rfl <;> decide +kernel
  rw [casedSide?, List.dropWhile_cons_of_neg hnot] at hcased
  simp only [hc, if_true, reduceCtorEq] at hcased

/-- Where the text has the character of the pattern, the pattern goes on to tell the truth. -/
theorem Tells.cons (h : Tells side textSide) (hstar : c ≠ '%') (hany : c ≠ '_') :
    Tells (c :: side) (c :: textSide) := by
  intro cased hcased
  unfold casedSide? at hcased
  cases hignorable : inRanges caseIgnorableRanges c with
  | true =>
    rw [List.dropWhile_cons_of_pos hignorable] at hcased
    rw [startsCased_cons_of_ignorable hignorable]
    exact h cased hcased
  | false =>
    rw [List.dropWhile_cons_of_neg (by simp [hignorable])] at hcased
    simp only [hstar, hany, or_self, if_false, Option.some.injEq] at hcased
    rw [startsCased_cons_of_not_ignorable hignorable, hcased]

/-- A pattern tells the truth about itself. -/
theorem tells_self (side : List Char) : Tells side side := by
  intro cased hcased
  unfold casedSide? at hcased
  unfold startsCased
  cases hdrop : side.dropWhile (inRanges caseIgnorableRanges) with
  | nil =>
    rw [hdrop] at hcased
    exact Option.some.inj hcased
  | cons c rest =>
    simp only [hdrop] at hcased
    split at hcased
    · cases hcased
    · exact Option.some.inj hcased

/-- A pattern tells the truth about the texts that it matches. -/
theorem Matches.tells (h : Matches pattern text) : Tells pattern text := by
  induction h with
  | nil => exact tells_self []
  | star => exact tells_of_wildcard (Or.inl rfl)
  | any => exact tells_of_wildcard (Or.inr rfl)
  | same notStar notAny _ ih => exact ih.cons notStar notAny

/-- A settled character has the same lowercase form in the pattern and in the text. -/
theorem lowercaseBetween_eq {before textBefore after textAfter : List Char}
    (hsettled : (c != capitalSigma || settlesSigma before after) = true)
    (hbefore : Tells before textBefore) (hafter : Tells after textAfter) :
    lowercaseBetween before c after = lowercaseBetween textBefore c textAfter := by
  unfold lowercaseBetween
  split
  · rename_i hsigma
    have hform : (startsCased before && !startsCased after) =
        (startsCased textBefore && !startsCased textAfter) := by
      simp only [hsigma, bne_self_eq_false, Bool.false_or, settlesSigma, Bool.or_eq_true,
        Bool.and_eq_true, beq_iff_eq] at hsettled
      rcases hsettled with (hnone | hgoesOn) | ⟨hword, hends⟩
      · rw [tells_self before _ hnone, hbefore _ hnone, Bool.false_and, Bool.false_and]
      · rw [tells_self after _ hgoesOn, hafter _ hgoesOn, Bool.not_true, Bool.and_false,
          Bool.and_false]
      · rw [tells_self before _ hword, hbefore _ hword, tells_self after _ hends,
          hafter _ hends]
    rw [hform]
  · rfl

/-! ### Matches in lower case -/

/-- A character of a pattern, be it a wildcard, matches itself. -/
theorem Matches.cons_self (h : Matches pattern text) (c : Char) :
    Matches (c :: pattern) (c :: text) := by
  by_cases hstar : c = '%'
  · subst hstar
    exact .star (List.suffix_cons _ _) h
  · exact (matches_cons_iff hstar).mpr ⟨c, text, rfl, ⟨hstar, Or.inr rfl⟩, h⟩

/-- Characters of a pattern match themselves. -/
theorem Matches.append_self (h : Matches pattern text) (chars : List Char) :
    Matches (chars ++ pattern) (chars ++ text) := by
  induction chars with
  | nil => exact h
  | cons c rest ih => exact ih.cons_self c

/-- A match is kept in lower case if `_` meets no dotted capital I and all capital sigmas of the
pattern are settled. -/
theorem Matches.lowercaseAfter (h : Matches pattern text) {before textBefore : List Char}
    (hbefore : Tells before textBefore)
    (hdotted : '_' ∉ pattern ∨ dottedCapitalI ∉ text)
    (hsettled : settlesSigmasAfter before pattern = true) :
    Matches (lowercaseAfter before pattern) (lowercaseAfter textBefore text) := by
  -- what comes before differs in the pattern and in the text, and only has to tell the truth
  induction h generalizing before textBefore with
  | nil => exact .nil
  | @star pattern text rest taken matched ih =>
    obtain ⟨start, rfl⟩ := taken
    obtain ⟨front, hfront⟩ := exists_lowercaseAfter_append textBefore start rest
    rw [hfront]
    refine .star (List.suffix_append front _) (ih (tells_of_wildcard (Or.inl rfl)) ?_ ?_)
    · exact hdotted.imp (fun hnot hmem => hnot (List.mem_cons_of_mem _ hmem))
        fun hnot hmem => hnot (List.mem_append_right start hmem)
    · exact (Bool.and_eq_true_iff.mp hsettled).2
  | @any pattern text c matched ih =>
    have hplain : dottedCapitalI ∉ c :: text :=
      hdotted.resolve_left (not_not_intro List.mem_cons_self)
    obtain ⟨hc, htext⟩ := not_or.mp (mt List.mem_cons.mpr hplain)
    obtain ⟨d, hd⟩ := exists_lowercaseBetween_eq_singleton (Ne.symm hc) textBefore text
    rw [lowercaseAfter_cons textBefore, hd]
    exact .any d (ih (tells_of_wildcard (Or.inr rfl)) (Or.inr htext)
      (Bool.and_eq_true_iff.mp hsettled).2)
  | @same c pattern text notStar notAny matched ih =>
    obtain ⟨hsigma, hrest⟩ := Bool.and_eq_true_iff.mp hsettled
    rw [lowercaseAfter_cons, lowercaseAfter_cons,
      lowercaseBetween_eq hsigma hbefore matched.tells]
    refine (ih (hbefore.cons notStar notAny) ?_ hrest).append_self _
    exact hdotted.imp (fun hnot hmem => hnot (List.mem_cons_of_mem c hmem))
      fun hnot hmem => hnot (List.mem_cons_of_mem c hmem)

/-- A text that a pattern covers is covered in lower case too if `_` meets no dotted capital I and
the pattern settles its capital sigmas. -/
theorem covers_lowercase {pattern text : List Char} (hsettled : settlesSigmas pattern = true)
    (hdotted : '_' ∉ pattern ∨ dottedCapitalI ∉ text) (h : covers pattern text = true) :
    covers (lowercase pattern) (lowercase text) = true :=
  (covers_iff_matches _ _).mpr
    (((covers_iff_matches _ _).mp h).lowercaseAfter (tells_self []) hdotted hsettled)

/-- If a pattern settles the form of its capital sigmas, then what it matches it also matches when
case is ignored, texts and rows alike, unless the pattern has a `_` and the text a dotted
capital I. -/
theorem like_ignoring_case {pattern : String} (hsettled : settlesSigmas pattern.toList = true) :
    (∀ text, '_' ∉ pattern.toList ∨ dottedCapitalI ∉ text.toList →
      coversText pattern text false = true → coversText pattern text true = true) ∧
    ∀ row column, (∀ value, row column = some value →
        '_' ∉ pattern.toList ∨ dottedCapitalI ∉ value.plainText.toList) →
      (Predicate.like column pattern false).eval row = true →
        (Predicate.like column pattern true).eval row = true := by
  refine ⟨fun text hdotted h => covers_lowercase hsettled hdotted h,
    fun row column hdotted h => ?_⟩
  cases hvalue : row column with
  | none => simp only [Predicate.eval, Predicate.onValue, hvalue, Bool.false_eq_true] at h
  | some value =>
    simp only [Predicate.eval, Predicate.onValue, hvalue, Bool.and_eq_true] at h ⊢
    exact ⟨h.1, covers_lowercase hsettled (hdotted value hvalue) h.2⟩

/-- A street is found by its name, which ends in a sigma, after any character. -/
theorem like_ignoring_case_street :
    settlesSigmas "_ ΟΔΟΣ".toList = true ∧ dottedCapitalI ∉ "Η ΟΔΟΣ".toList ∧
    coversText "_ ΟΔΟΣ" "Η ΟΔΟΣ" false = true ∧ coversText "_ ΟΔΟΣ" "Η ΟΔΟΣ" true = true := by
  have hsettled : settlesSigmas "_ ΟΔΟΣ".toList = true := by decide +kernel
  have hplain : dottedCapitalI ∉ "Η ΟΔΟΣ".toList := by decide +kernel
  have hmatched : coversText "_ ΟΔΟΣ" "Η ΟΔΟΣ" false = true :=
    (covers_iff_matches _ _).mpr (.any 'Η' (Matches.nil.append_self " ΟΔΟΣ".toList))
  exact ⟨hsettled, hplain, hmatched,
    (like_ignoring_case hsettled).1 _ (Or.inr hplain) hmatched⟩

/-- Ignoring case loses matches: the dotted capital I becomes two characters, and the sigma that
ends the text has another form than the sigma of the pattern. -/
theorem like_lost_ignoring_case :
    coversText "_" "İ" false = true ∧ coversText "_" "İ" true = false ∧
    coversText "%Σ" "ΑΣ" false = true ∧ coversText "%Σ" "ΑΣ" true = false ∧
    ¬ ∀ pattern text, coversText pattern text false = true → coversText pattern text true = true := by
  have hdotted : coversText "_" "İ" false = true :=
    (covers_iff_matches _ _).mpr (.any 'İ' .nil)
  have hlost : coversText "_" "İ" true = false := by
    have hpattern : lowercase "_".toList = ['_'] := by decide +kernel
    have htext : lowercase "İ".toList = ['i', Char.ofNat 0x307] := by decide +kernel
    rw [coversText, if_pos rfl, hpattern, htext, Bool.eq_false_iff, ne_eq, covers_iff_matches]
    simp [matches_cons_iff, matches_nil_iff]
  have hsigma : coversText "%Σ" "ΑΣ" false = true :=
    (covers_iff_matches _ _).mpr
      (.star (List.suffix_cons 'Α' ['Σ']) (.same (by decide) (by decide) .nil))
  have hfinal : coversText "%Σ" "ΑΣ" true = false := by
    have hpattern : lowercase "%Σ".toList = ['%', 'σ'] := by decide +kernel
    have htext : lowercase "ΑΣ".toList = ['α', 'ς'] := by decide +kernel
    rw [coversText, if_pos rfl, hpattern, htext, Bool.eq_false_iff, ne_eq, covers_iff_matches]
    simp [matches_star_iff, matches_cons_iff, matches_nil_iff, List.suffix_cons_iff, Fits]
  refine ⟨hdotted, hlost, hsigma, hfinal, fun hkept => ?_⟩
  rw [hkept "_" "İ" hdotted] at hlost
  cases hlost

end Tabula.Pattern
