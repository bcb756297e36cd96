import Tabula.Value.Convert

/-!
# Types of values

What either conversion gives has the type that was asked for. A value of a type is not null.
-/

namespace Tabula.Value

variable {value result : Value} {type : ScalarType}

/-- A strictly converted value has the type. -/
theorem hasType_of_cast? (h : value.cast? type = some result) : result.hasType type = true := by
  unfold cast? at h
  split at h
  · obtain ⟨date, -, rfl⟩ := Option.map_eq_some_iff.mp h
    rfl
  · split at h
    · rename_i htype
      cases h
      exact htype
    · cases h

/-- A laxly converted value has the type. -/
theorem hasType_of_coerce? (h : value.coerce? type = some result) :
    result.hasType type = true := by
  unfold coerce? at h
  split at h
  · cases h
    rfl
  · cases h
    rfl
  · obtain ⟨date, -, rfl⟩ := Option.map_eq_some_iff.mp h
    rfl
  · exact hasType_of_cast? h

/-- Only null is null. -/
theorem isNull_iff : value.isNull = true ↔ value = .null := by
  cases value <;> simp [isNull]

/-- A value of a type is not null. -/
theorem isNull_of_hasType (h : value.hasType type = true) : value.isNull = false := by
  cases value with
  | null => cases type <;> cases h
  | _ => rfl

end Tabula.Value
