import Tabula.Json.Text
import Tabula.Proofs.Value.Json

/-!
# The two ways of values through JSON

A value is read from a text directly or by way of a tree, and it is written directly or by way of a
tree. Both ways read the same values from the same texts and write the same texts.
-/

namespace Tabula

namespace Value

variable {value : Value} {json : Json}

/-- A tree is read directly as a value exactly if it is read so once repeated names are merged. -/
theorem decode_eq_ok_iff : decode json = .ok value ↔ ofJson json.mergeRepeated = .ok value := by
  cases json with
  | int n isWireInt =>
    simp only [Json.mergeRepeated, decode, ofJson]
    cases signedWord? n with
    | none => simp only [reduceCtorEq]
    | some word => simp only [Except.ok.injEq]
  | _ => simp only [Json.mergeRepeated, decode, ofJson, Except.ok.injEq, reduceCtorEq]

/-- A text is read directly as a value exactly if it denotes a tree that is one. -/
theorem ofText_decode_eq_ok_iff {text : String} :
    decode.ofText text = .ok value ↔
      ∃ json, Json.parse? text = some json ∧ ofJson json.mergeRepeated = .ok value := by
  rw [Decoder.ofText]
  cases Json.parse? text with
  | none => exact iff_of_false nofun (by rintro ⟨json, hjson, -⟩; cases hjson)
  | some json => simp only [decode_eq_ok_iff, Option.some.injEq, exists_eq_left']

/-- A value is written directly as its tree is written. -/
theorem ofList_jsonChars (value : Value) : String.ofList value.jsonChars = value.toJson.render := by
  have hsingle (json : Json) (token : Json.Token) (htokens : json.tokens = [token]) :
      String.ofList token.chars = json.render := by
    rw [Json.render, htokens, List.flatMap_singleton]
  cases value with
  | null => exact hsingle .null (.scalar .null) rfl
  | bool truth =>
    cases truth with
    | false => exact hsingle (.bool false) (.scalar (.bool false)) rfl
    | true => exact hsingle (.bool true) (.scalar (.bool true)) rfl
  | int n => exact hsingle (.ofInt64 n) (.scalar (.ofInt64 n)) rfl
  | float number =>
    cases hfinite : number.isFinite with
    | true =>
      rw [toJson, if_pos hfinite]
      exact hsingle (.float number) (.scalar (.float number)) rfl
    | false =>
      have hnone : number.exchangeText? = none := by
        rw [Double.exchangeText?, hfinite]
        rfl
      rw [toJson, hfinite, jsonChars, hnone]
      exact hsingle .null (.scalar .null) rfl
  | text content => exact hsingle (.text content) (.text (some content)) rfl
  | date day => exact hsingle (.text day.text) (.text (some day.text)) rfl

/-- The two ways of values through JSON agree: they read the same values from the same texts, and
they write the same texts. A finite value other than a date is read back from its tree. A date comes
back as its written form, which both conversions to a date turn into the date again. -/
theorem json_paths_agree :
    (∀ text value, decode.ofText text = .ok value ↔
      ∃ json, Json.parse? text = some json ∧ ofJson json.mergeRepeated = .ok value) ∧
    (∀ value : Value, String.ofList value.jsonChars = value.toJson.render) ∧
    (∀ value : Value, value.IsFinite → (∀ day, value ≠ .date day) →
      ofJson value.toJson = .ok value) ∧
    ∀ day : Date, ofJson (toJson (.date day)) = .ok (.text day.text) ∧
      (text day.text).cast? .date = some (.date day) ∧
      (text day.text).coerce? .date = some (.date day) := by
  refine ⟨fun _ _ => ofText_decode_eq_ok_iff, ofList_jsonChars, ?_, ?_⟩
  · intro value hfinite hdate
    have hsame : value.inJson = value := by
      cases value with
      | date day => exact absurd rfl (hdate day)
      | _ => rfl
    rw [ofJson_toJson hfinite, hsame]
  · intro day
    have htype : (date day).hasType .date = true := rfl
    have hcast := cast?_inJson htype
    have hcoerce := coerce?_inJson htype nofun
    exact ⟨ofJson_toJson trivial, hcast, hcoerce⟩

/-- A price is read back from its tree, and a date is found again in its written form. -/
theorem json_paths_agree_rooms :
    ofJson (toJson (.float ⟨0x3ff8000000000000⟩)) = .ok (.float ⟨0x3ff8000000000000⟩) ∧
      (text "-0044-03-15").cast? .date = some (.date ⟨-44, 3, 15, by decide⟩) := by
  obtain ⟨-, -, hback, hdates⟩ := json_paths_agree
  have hfinite : IsFinite (.float ⟨0x3ff8000000000000⟩) := by
    rw [IsFinite]
    decide
  have htext : Date.text ⟨-44, 3, 15, by decide⟩ = "-0044-03-15" := by decide
  obtain ⟨-, hcast, -⟩ := hdates ⟨-44, 3, 15, by decide⟩
  rw [htext] at hcast
  have hdate (number : Double) (day : Date) : float number ≠ .date day := by rintro ⟨⟩
  exact ⟨hback _ hfinite (hdate _), hcast⟩

end Value

end Tabula
