import Mathlib.Algebra.Group.Nat.Defs
import Tabula.Calendar.Date
import Tabula.Proofs.Text.Blank

/-!
# Written dates

The written form of a date has four digits for the year and two for month and day, whatever the
date. So reading takes exactly the digits that were written, and gives the date back. There are no
blanks in the written form.
-/

namespace Tabula

/-! ### Days -/

namespace IsCalendarDay

variable {year : Int} {month day : Nat}

/-- The months are those that have days. -/
theorem month_le (h : IsCalendarDay year month day) : month ≤ 12 := by
  obtain ⟨-, -, hfirst, hlast⟩ := h
  unfold daysInMonth at hlast
  split at hlast <;> omega

/-- No month has more than 31 days. -/
theorem day_le (h : IsCalendarDay year month day) : day ≤ 31 := by
  obtain ⟨-, -, -, hlast⟩ := h
  have hfebruary : (if isLeapYear year then 29 else 28) ≤ 31 := by split <;> decide
  refine Nat.le_trans hlast ?_
  unfold daysInMonth
  split <;> omega

end IsCalendarDay

namespace Date

/-! ### Digits -/

/-- A number with leading zeros consists of digits. -/
theorem isDigit_of_mem_padded {width n : Nat} {c : Char} (h : c ∈ padded width n) :
    c.isDigit = true := by
  rcases List.mem_append.mp h with hzero | hdigit
  · rw [List.eq_of_mem_replicate hzero]
    rfl
  · exact Nat.isDigit_of_mem_toDigits (by decide) (Nat.le_refl 10) hdigit

/-- A number that needs no more places than the width is written in exactly that many. -/
theorem length_padded {width n : Nat} (hwidth : 0 < width) (h : n < 10 ^ width) :
    (padded width n).length = width := by
  have hle : (Decimal.digitText n).length ≤ width :=
    (Nat.length_toDigits_le_iff (by decide) hwidth).mpr h
  rw [padded, List.length_append, List.length_replicate, Nat.sub_add_cancel hle]

/-- Leading zeros do not count. -/
theorem ofDigitChars_padded (width n : Nat) : Nat.ofDigitChars 10 (padded width n) 0 = n := by
  rw [padded, Nat.ofDigitChars_append, Nat.ofDigitChars_replicate_zero, Nat.mul_zero]
  exact Nat.ofDigitChars_ten_toDigits

/-- A digit has its value. -/
theorem digit?_of_isDigit {c : Char} (h : c.isDigit = true) :
    digit? c = some (c.toNat - '0'.toNat) := by
  obtain ⟨hzero, hnine⟩ := Char.isDigit_iff_toNat.mp h
  exact if_pos ⟨hzero, hnine⟩

/-- As many digits as are asked for are read as the number that they denote. -/
theorem readDigits?_append {digits : List Char} (h : ∀ c ∈ digits, c.isDigit = true) (value : Nat)
    (rest : List Char) :
    readDigits? digits.length value (digits ++ rest) =
      some (Nat.ofDigitChars 10 digits value, rest) := by
  induction digits generalizing value with
  | nil => rfl
  | cons c digits ih =>
    obtain ⟨hfirst, hrest⟩ := List.forall_mem_cons.mp h
    rw [List.length_cons, List.cons_append, readDigits?, digit?_of_isDigit hfirst,
      Option.bind_some, ih hrest, Nat.ofDigitChars_cons]

/-- A number that was written in some places is read back from these. -/
theorem readDigits?_padded {width n : Nat} (hwidth : 0 < width) (h : n < 10 ^ width)
    (rest : List Char) : readDigits? width 0 (padded width n ++ rest) = some (n, rest) := by
  have hread := readDigits?_append (fun c hc => @isDigit_of_mem_padded width n c hc) 0 rest
  rwa [length_padded hwidth h, ofDigitChars_padded] at hread

/-! ### Dates -/

/-- A year with its sign is read as such. -/
theorem readSign_year (negative : Bool) {year : List Char} (hne : year ≠ [])
    (h : ∀ c ∈ year, c.isDigit = true) (rest : List Char) :
    readSign ((if negative then '-' :: year else year) ++ rest) = (negative, year ++ rest) := by
  cases negative with
  | true => rfl
  | false =>
    obtain ⟨c, digits, rfl⟩ := List.exists_cons_of_ne_nil hne
    have hdigit := h c List.mem_cons_self
    unfold readSign
    split
    · cases ‹_ = '-' :: _›
      cases hdigit
    · cases ‹_ = '+' :: _›
      cases hdigit
    · rfl

/-- A date is read back from its written form. -/
theorem ofText?_text (d : Date) : ofText? d.text = some d := by
  obtain ⟨hlow, hhigh, -, -⟩ := d.isCalendarDay
  have hmonth := d.isCalendarDay.month_le
  have hday := d.isCalendarDay.day_le
  have hyear : d.year.natAbs < 10 ^ 4 := by omega
  have hne : padded 4 d.year.natAbs ≠ [] :=
    List.ne_nil_of_length_pos (by rw [length_padded (by decide) hyear]; decide)
  have hsign := readSign_year (decide (d.year < 0)) hne (fun c hc => isDigit_of_mem_padded hc)
    ('-' :: (padded 2 d.month ++ '-' :: padded 2 d.day))
  have hvalue : (if decide (d.year < 0) = true then -(d.year.natAbs : Int) else d.year.natAbs) =
      d.year := by
    by_cases hnegative : d.year < 0
    · rw [if_pos (decide_eq_true hnegative)]
      omega
    · rw [if_neg (by simpa using hnegative)]
      omega
  have hyearRead := readDigits?_padded (by decide : 0 < 4) hyear
  have hmonthRead := readDigits?_padded (by decide : 0 < 2) (by omega : d.month < 10 ^ 2)
  have hdayRead := readDigits?_padded (by decide : 0 < 2) (by omega : d.day < 10 ^ 2) []
  rw [List.append_nil] at hdayRead
  simp only [decide_eq_true_eq] at hsign
  rw [ofText?, text, String.toList_ofList, ofChars?, toChars, List.append_assoc, List.cons_append]
  simp only [hsign, hyearRead, hmonthRead, hdayRead, Option.bind_eq_bind, Option.bind_some,
    readDash?, List.isEmpty_nil, if_true, hvalue]
  exact dif_pos d.isCalendarDay

/-- A written date consists of digits and dashes. -/
theorem mem_toChars {d : Date} {c : Char} (h : c ∈ d.toChars) : c = '-' ∨ c.isDigit = true := by
  have hpadded {width n : Nat} (hc : c ∈ padded width n) : c = '-' ∨ c.isDigit = true :=
    Or.inr (isDigit_of_mem_padded hc)
  simp only [toChars, List.mem_append, List.mem_cons] at h
  rcases h with (hyear | hdash | hmonth) | hdash | hday
  · split at hyear
    · exact (List.mem_cons.mp hyear).elim Or.inl hpadded
    · exact hpadded hyear
  · exact Or.inl hdash
  · exact hpadded hmonth
  · exact Or.inl hdash
  · exact hpadded hday

/-- A written date stays as it is when it is trimmed. -/
theorem trim_text (d : Date) : trim d.text = d.text := by
  refine trim_of_forall fun c hc => ?_
  rw [text, String.toList_ofList] at hc
  rcases mem_toChars hc with rfl | hdigit
  · decide
  · obtain ⟨hzero, hnine⟩ := Char.isDigit_iff_toNat.mp hdigit
    simp only [Char.reduceToNat] at hzero hnine
    simp only [isBlank]
    grind

end Date

end Tabula
