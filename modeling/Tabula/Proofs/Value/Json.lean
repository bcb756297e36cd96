import Tabula.Proofs.Calendar.Date
import Tabula.Proofs.Number.Double
import Tabula.Proofs.Value.Types

/-!
# Values through JSON

JSON has a form for every value but dates and numbers that are not finite. A finite value is read
back from its tree; only a date comes back as its written form, and converting that to the type of
the value, in either way, gives the date again.
-/

namespace Tabula

/-- A signed word is the word that its integer is. -/
theorem signedWord?_toInt (n : Int64) : signedWord? n.toInt = some n := by
  have hlow := n.le_toInt
  have hhigh := n.toInt_lt
  rw [signedWord?, if_pos (by omega), Int64.ofInt_toInt]

/-- A tree that is a number is a finite one. Every tree that is read from a text is so. -/
def Json.IsFinite : Json → Prop
  | .float number => number.isFinite = true
  | _ => True

namespace Value

/-- A value that is a floating-point number is a finite one. -/
def IsFinite : Value → Prop
  | .float number => number.isFinite = true
  | _ => True

/-- What JSON makes of a value: a date becomes its written form. -/
def inJson : Value → Value
  | .date day => .text day.text
  | value => value

variable {value result : Value} {type : ScalarType}

/-! ### There and back -/

/-- A finite value is read back from its tree. -/
theorem ofJson_toJson (h : value.IsFinite) : ofJson value.toJson = .ok value.inJson := by
  cases value with
  | int n => simp only [toJson, Json.ofInt64, ofJson, signedWord?_toInt, inJson]
  | float number =>
    simp only [IsFinite] at h
    simp only [toJson, h, if_true, ofJson, inJson]
  | _ => rfl

/-- In a request too, a finite value is read back from its tree. -/
theorem decode_toJson (h : value.IsFinite) : decode value.toJson = .ok value.inJson := by
  cases value with
  | int n => simp only [toJson, Json.ofInt64, decode, signedWord?_toInt, inJson]
  | float number =>
    simp only [IsFinite] at h
    simp only [toJson, h, if_true, decode, inJson]
  | _ => rfl

/-- The strict conversion to its own type restores a value. -/
theorem cast?_inJson (h : value.hasType type = true) : value.inJson.cast? type = some value := by
  cases value with
  | null => cases h
  | date day =>
    obtain rfl : ScalarType.date = type := Option.some.inj (eq_of_beq h)
    rw [inJson, cast?, Date.ofText?_text, Option.map_some]
  | text given =>
    obtain rfl : ScalarType.text = type := Option.some.inj (eq_of_beq h)
    rfl
  | _ => exact if_pos h

/-- The lax conversion to its own type restores a value, if a text is trimmed. -/
theorem coerce?_inJson (h : value.hasType type = true)
    (htrimmed : ∀ text, value = .text text → trim text = text) :
    value.inJson.coerce? type = some value := by
  cases value with
  | null => cases h
  | date day =>
    obtain rfl : ScalarType.date = type := Option.some.inj (eq_of_beq h)
    rw [inJson, coerce?, Date.trim_text, Date.ofText?_text, Option.map_some]
  | text given =>
    obtain rfl : ScalarType.text = type := Option.some.inj (eq_of_beq h)
    simp only [inJson, coerce?, htrimmed given rfl]
  | int n =>
    obtain rfl : ScalarType.int = type := Option.some.inj (eq_of_beq h)
    rfl
  | _ => exact if_pos h

/-- A finite value equals itself. -/
theorem same_self (h : value.IsFinite) : value.same value = true := by
  cases value with
  | float number => rw [same, compare?, Double.compare?_self h, beq_self_eq_true]
  | date day => simp [same, compare?, Date.compare]
  | _ => simp [same, compare?]

/-! ### Finite and trimmed values -/

/-- A finite tree is read as a finite value. -/
theorem isFinite_of_ofJson {json : Json} (h : ofJson json = .ok value) (hfinite : json.IsFinite) :
    value.IsFinite := by
  unfold ofJson at h
  split at h
  · cases h
    trivial
  · cases h
    trivial
  · split at h
    · cases h
      trivial
    · cases h
  · cases h
    exact hfinite
  · cases h
    trivial
  · cases h

/-- The strict conversion keeps a value, or makes a date of a text. -/
theorem cast?_cases (h : value.cast? type = some result) :
    result = value ∨ ∃ date, result = .date date := by
  unfold cast? at h
  split at h
  · obtain ⟨date, -, rfl⟩ := Option.map_eq_some_iff.mp h
    exact Or.inr ⟨date, rfl⟩
  · split at h
    · cases h
      exact Or.inl rfl
    · cases h

/-- The lax conversion gives finite numbers for finite ones: it widens integers to such. -/
theorem isFinite_of_coerce? (h : value.coerce? type = some result) (hfinite : value.IsFinite) :
    result.IsFinite := by
  unfold coerce? at h
  split at h
  · rename_i n
    cases h
    have hbounds := n.le_toInt
    have hlt := n.toInt_lt
    exact Double.isFinite_ofInt (by simp only [twoTo, Nat.pow_eq]; omega)
  · cases h
    trivial
  · obtain ⟨day, -, rfl⟩ := Option.map_eq_some_iff.mp h
    trivial
  · rcases cast?_cases h with rfl | ⟨day, rfl⟩
    · exact hfinite
    · trivial

/-- The lax conversion gives trimmed texts. -/
theorem trim_of_coerce? {given : String} (h : value.coerce? type = some (.text given)) :
    trim given = given := by
  unfold coerce? at h
  split at h
  · cases h
  · cases h
    exact trim_trim _
  · obtain ⟨day, -, hday⟩ := Option.map_eq_some_iff.mp h
    cases hday
  · rename_i hother _
    have htype := hasType_of_cast? h
    rcases cast?_cases h with rfl | ⟨day, hday⟩
    · obtain rfl : ScalarType.text = type := Option.some.inj (eq_of_beq htype)
      exact absurd rfl (hother given rfl)
    · cases hday

end Value

end Tabula
