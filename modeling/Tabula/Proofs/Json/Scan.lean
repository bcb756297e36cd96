import Mathlib.Control.Basic
import Mathlib.Data.List.TakeWhile
import Mathlib.Data.Option.Basic
import Tabula.Json.Text

/-!
# Written tokens

What is written for a word, a string or a character of punctuation is scanned as the token that it
was written for. A word ends where something follows that belongs to no word, a string with its
closing quote. Integers have one spelling, so that they are read back exactly; each character of a
string has one escape, which denotes it.
-/

namespace Tabula.Json

/-! ### Integers -/

namespace Number

/-- A positive number is written without leading zeros. -/
theorem exists_digitText_eq_cons {n : Nat} (h : 0 < n) :
    ∃ c rest, Decimal.digitText n = c :: rest ∧ c ≠ '0' := by
  induction n using Nat.strongRecOn with
  | ind n ih =>
    rw [Decimal.digitText, Nat.toDigits_eq_if (by decide)]
    split
    · exact ⟨n.digitChar, [], rfl, fun hzero => by rw [Nat.digitChar_eq_zero] at hzero; omega⟩
    · obtain ⟨c, rest, hdigits, hc⟩ := ih (n / 10) (by omega) (by omega)
      rw [Decimal.digitText] at hdigits
      exact ⟨c, rest ++ [(n % 10).digitChar], by rw [hdigits]; rfl, hc⟩

/-- The digits of a natural number are well formed. -/
theorem isWhole_digitText (n : Nat) : isWhole (Decimal.digitText n) = true := by
  rcases Nat.eq_zero_or_pos n with rfl | hpos
  · rfl
  · obtain ⟨c, rest, hdigits, hc⟩ := exists_digitText_eq_cons hpos
    rw [hdigits]
    unfold isWhole
    split
    · cases ‹_ = []›
    · rfl
    · cases ‹_ = '0' :: _›
      exact absurd rfl hc
    · rfl

/-- A natural number is written in digits. -/
theorem isDigit_of_mem_digitText {n : Nat} {c : Char} (h : c ∈ Decimal.digitText n) :
    Numeral.isDigit c = true := by
  obtain ⟨hzero, hnine⟩ := Char.isDigit_iff_toNat.mp
    (Nat.isDigit_of_mem_toDigits (by decide) (Nat.le_refl 10) h)
  simp only [Numeral.isDigit, Bool.and_eq_true, decide_eq_true_eq]
  exact ⟨hzero, hnine⟩

/-- The digits of a natural number denote it. -/
theorem digitsValue_digitText (n : Nat) : Numeral.digitsValue (Decimal.digitText n) = n :=
  Nat.ofDigitChars_ten_toDigits

/-- Digits alone are read as the integer that they denote with their sign. -/
theorem ofChars?_digits (negative : Bool) {whole : List Char}
    (hdigits : ∀ c ∈ whole, Numeral.isDigit c = true) (hwhole : isWhole whole = true) {json : Json}
    (hinteger : integer? negative whole = some json) :
    ofChars? (if negative then '-' :: whole else whole) = some json := by
  have htake : whole.takeWhile Numeral.isDigit = whole := List.takeWhile_eq_self_iff.mpr hdigits
  have hdrop : whole.dropWhile Numeral.isDigit = [] := List.dropWhile_eq_nil_iff.mpr hdigits
  cases negative with
  | true =>
    simp [ofChars?, htake, hdrop, hwhole, Numeral.splitFraction?, Numeral.exponent?, hinteger]
  | false =>
    simp only [ofChars?, Bool.false_eq_true, if_false]
    split
    · exact absurd (hdigits '-' List.mem_cons_self) (by decide)
    · simp [htake, hdrop, hwhole, Numeral.splitFraction?, Numeral.exponent?, hinteger]

/-- A written integer is read back. -/
theorem ofChars?_integerChars {n : Int} (h : IsWireInt n) :
    ofChars? (integerChars n) = some (.int n h) := by
  have hvalue : (if decide (n < 0) = true then -(n.natAbs : Int) else n.natAbs) = n := by
    by_cases hnegative : n < 0
    · rw [if_pos (decide_eq_true hnegative)]
      omega
    · rw [if_neg (by simpa using hnegative)]
      omega
  have hzero : ¬ (decide (n < 0) = true ∧ n.natAbs = 0) := by
    simp only [decide_eq_true_eq]
    omega
  have hinteger : integer? (decide (n < 0)) (Decimal.digitText n.natAbs) = some (.int n h) := by
    simp only [integer?, digitsValue_digitText, hvalue]
    exact dif_pos ⟨h, hzero⟩
  have hread := ofChars?_digits (decide (n < 0)) (fun c hc => isDigit_of_mem_digitText hc)
    (isWhole_digitText n.natAbs) hinteger
  simpa only [integerChars, decide_eq_true_eq] using hread

end Number

namespace Token

/-! ### Words -/

/-- The characters of a written integer are digits, and perhaps a minus sign. -/
theorem mem_integerChars {n : Int} {c : Char} (h : c ∈ integerChars n) :
    c = '-' ∨ Numeral.isDigit c = true := by
  unfold integerChars at h
  split at h
  · exact (List.mem_cons.mp h).imp id Number.isDigit_of_mem_digitText
  · exact Or.inr (Number.isDigit_of_mem_digitText h)

/-- Every integer is written with some characters. -/
theorem integerChars_ne_nil (n : Int) : integerChars n ≠ [] := by
  unfold integerChars
  split
  · exact List.cons_ne_nil _ _
  · exact Nat.toDigits_ne_nil

/-- Digits belong to words. -/
theorem isWordChar_of_isDigit {c : Char} (h : Numeral.isDigit c = true) : isWordChar c = true := by
  have hne (other : Char) (hother : Numeral.isDigit other = false) : c ≠ other := by
    rintro rfl
    rw [h] at hother
    cases hother
  have hpunctuation : ofPunctuation? c = none := by
    unfold ofPunctuation?
    split
    all_goals first | rfl | exact absurd h (by decide)
  have hblank : isBlank c = false := by
    simp only [isBlank, Bool.or_eq_false_iff, beq_eq_false_iff_ne]
    exact ⟨⟨⟨hne ' ' (by decide), hne '\t' (by decide)⟩, hne '\n' (by decide)⟩,
      hne '\r' (by decide)⟩
  simp [isWordChar, hpunctuation, hblank, hne '"' (by decide)]

/-- The characters of a written integer belong to words. -/
theorem isWordChar_of_mem_integerChars {n : Int} {c : Char} (h : c ∈ integerChars n) :
    isWordChar c = true := by
  rcases mem_integerChars h with rfl | hdigit
  · decide
  · exact isWordChar_of_isDigit hdigit

/-- A written integer is read as a word. -/
theorem ofWord?_integerChars {n : Int} (h : IsWireInt n) :
    ofWord? (integerChars n) = some (.int n h) := by
  -- the words with a meaning of their own have letters in them
  have hne (name : String) (c : Char) (hmem : c ∈ name.toList)
      (hc : ¬ (c = '-' ∨ Numeral.isDigit c = true)) : String.ofList (integerChars n) ≠ name := by
    intro heq
    rw [← heq, String.toList_ofList] at hmem
    exact hc (mem_integerChars hmem)
  unfold ofWord?
  split
  · exact absurd ‹_› (hne "null" 'n' (by decide) (by decide))
  · exact absurd ‹_› (hne "true" 't' (by decide) (by decide))
  · exact absurd ‹_› (hne "false" 'f' (by decide) (by decide))
  · exact Number.ofChars?_integerChars h

/-! ### Strings -/

/-- A hexadecimal digit that is written for a number has that value. -/
theorem hexDigit?_hexDigitChar {n : Nat} (h : n < 16) : hexDigit? (hexDigitChar n) = some n := by
  revert n
  decide

/-- An escaped character is read as that character. -/
theorem readText?_escaped (c : Char) (rest : List Char) :
    readText? (escaped c ++ rest) =
      (readText? rest).map fun (pieces, after) => (.char c :: pieces, after) := by
  unfold escaped
  -- seven characters have an escape of their own
  iterate 7
    split
    · subst c
      rfl
  split
  · have hhigh := hexDigit?_hexDigitChar (by omega : c.toNat / 16 < 16)
    have hlow := hexDigit?_hexDigitChar (by omega : c.toNat % 16 < 16)
    have hzero : hexDigit? '0' = some 0 := by decide
    have hvalue : ((0 * 16 + 0) * 16 + c.toNat / 16) * 16 + c.toNat % 16 = c.toNat := by omega
    have hunit : codeUnit? '0' '0' (hexDigitChar (c.toNat / 16)) (hexDigitChar (c.toNat % 16)) =
        some c.toNat := by
      simp only [codeUnit?, hzero, hhigh, hlow, Option.bind_eq_bind, Option.bind_some, hvalue]
      rfl
    have hpiece : Piece.ofUnit c.toNat = .char c := by
      rw [Piece.ofUnit, if_neg (by omega), Char.ofNat_toNat]
    simp only [List.cons_append, List.nil_append, readText?, hunit, hpiece]
  · rename_i hquote hbackslash _ _ _ _ _ hcontrol
    have hplain : ¬ (c.toNat < 0x20 ∨ c = '\\') := not_or.mpr ⟨hcontrol, hbackslash⟩
    rw [List.singleton_append, readText?, if_neg hplain]
    all_goals simp_all

/-- The escaped characters of a text are read as these characters, up to the closing quote. -/
theorem readText?_flatMap_escaped (text rest : List Char) :
    readText? (text.flatMap escaped ++ '"' :: rest) = some (text.map .char, rest) := by
  induction text with
  | nil => rfl
  | cons c text ih =>
    rw [List.flatMap_cons, List.append_assoc, readText?_escaped, ih]
    rfl

/-- Characters make up the text that they are. -/
theorem joinPieces?_map_char (text : List Char) : joinPieces? (text.map .char) = some text := by
  induction text with
  | nil => rfl
  | cons c text ih =>
    rw [List.map_cons, joinPieces?, ih]
    rfl

/-! ### Scanning -/

/-- The text does not go on with a character of a word. -/
def EndsWord (rest : List Char) : Prop := ∀ c ∈ rest.head?, isWordChar c = false

/-- A word is scanned as the value that it stands for. -/
theorem scan?_word {word rest : List Char} {json : Json} (hne : word ≠ [])
    (hword : ∀ c ∈ word, isWordChar c = true) (hjson : ofWord? word = some json)
    (hrest : EndsWord rest) : scan? (word ++ rest) = (scan? rest).map (.scalar json :: ·) := by
  obtain ⟨c, tail, rfl⟩ := List.exists_cons_of_ne_nil hne
  obtain ⟨hfirst, htail⟩ := List.forall_mem_cons.mp hword
  simp only [isWordChar, Bool.and_eq_true, Bool.not_eq_true', Option.isNone_iff_eq_none,
    bne_iff_ne, ne_eq] at hfirst
  obtain ⟨⟨hblank, hpunctuation⟩, hquote⟩ := hfirst
  have hstop : rest.takeWhile isWordChar = [] ∧ rest.dropWhile isWordChar = rest := by
    cases rest with
    | nil => exact ⟨rfl, rfl⟩
    | cons next rest =>
      have hnext := hrest next rfl
      simp [hnext]
  have htake : (tail ++ rest).takeWhile isWordChar = tail := by
    rw [List.takeWhile_append_of_pos htail, hstop.1, List.append_nil]
  have hdrop : (tail ++ rest).dropWhile isWordChar = rest := by
    rw [List.dropWhile_append_of_pos htail, hstop.2]
  rw [List.cons_append, scan?]
  simp only [hblank, hpunctuation, hquote, Bool.false_eq_true, if_false, htake, hjson, hdrop]

/-- A character of punctuation is scanned as the token that it stands for. -/
theorem scan?_punctuation {c : Char} {token : Token} (h : ofPunctuation? c = some token)
    (hblank : isBlank c = false) (rest : List Char) :
    scan? (c :: rest) = (scan? rest).map (token :: ·) := by
  rw [scan?]
  simp only [hblank, h, Bool.false_eq_true, if_false]

/-- A string between quotes is scanned as the text that it was written for. -/
theorem scan?_quoted (text : String) (rest : List Char) :
    scan? (quoted text ++ rest) = (scan? rest).map (.text (some text) :: ·) := by
  have hread := readText?_flatMap_escaped text.toList rest
  have hblank : isBlank '"' = false := by decide
  have hpunctuation : ofPunctuation? '"' = none := rfl
  have hquoted : quoted text ++ rest = '"' :: (text.toList.flatMap escaped ++ '"' :: rest) := by
    simp [quoted]
  rw [hquoted, scan?]
  simp only [hblank, hpunctuation, Bool.false_eq_true, if_false, if_true]
  split
  · rename_i hnone
    rw [hread] at hnone
    cases hnone
  · rename_i hsome
    rw [hread] at hsome
    cases hsome
    rw [joinPieces?_map_char, Option.map_some, String.ofList_toList]

end Token

end Tabula.Json
