import Mathlib.Data.List.DropRight
import Tabula.Text.Blank

/-!
# Trimming

Trimming takes all blanks off both ends, so trimming once more changes nothing, and neither does
trimming a text without blanks.
-/

namespace Tabula

/-- Trimming drops blanks from the front and then from the back. -/
theorem trimChars_eq_rdropWhile (chars : List Char) :
    trimChars chars = (chars.dropWhile isBlank).rdropWhile isBlank := rfl

/-- A list that starts with no blank starts with none when its end is cut off. -/
theorem dropWhile_of_isPrefix {chars start : List Char} (hchars : chars.dropWhile isBlank = chars)
    (hstart : start <+: chars) : start.dropWhile isBlank = start := by
  obtain ⟨rest, rfl⟩ := hstart
  cases start with
  | nil => rfl
  | cons c start =>
    have hfirst := List.dropWhile_eq_self_iff.mp hchars (Nat.succ_pos _)
    exact List.dropWhile_cons_of_neg hfirst

/-- Trimmed characters stay as they are when they are trimmed again. -/
theorem trimChars_trimChars (chars : List Char) :
    trimChars (trimChars chars) = trimChars chars := by
  have hfront : (trimChars chars).dropWhile isBlank = trimChars chars :=
    dropWhile_of_isPrefix (List.dropWhile_idempotent isBlank _)
      (List.rdropWhile_prefix isBlank _)
  rw [trimChars_eq_rdropWhile (trimChars chars), hfront]
  exact List.rdropWhile_idempotent isBlank _

/-- A trimmed text stays as it is when it is trimmed again. -/
theorem trim_trim (text : String) : trim (trim text) = trim text := by
  rw [trim, trim, String.toList_ofList, trimChars_trimChars]

/-- A text without blanks stays as it is when it is trimmed. -/
theorem trim_of_forall {text : String} (h : ∀ c ∈ text.toList, isBlank c = false) :
    trim text = text := by
  have hfront : text.toList.dropWhile isBlank = text.toList :=
    List.dropWhile_eq_self_iff.mpr fun hlt => by simp [h _ (List.getElem_mem hlt)]
  have hback : text.toList.rdropWhile isBlank = text.toList :=
    List.rdropWhile_eq_self_iff.mpr fun hne => by simp [h _ (List.getLast_mem hne)]
  rw [trim, trimChars_eq_rdropWhile, hfront, hback, String.ofList_toList]

end Tabula
