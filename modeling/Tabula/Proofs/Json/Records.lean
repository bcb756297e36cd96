import Tabula.Json.Decoder
import Tabula.Proofs.Json.RoundTrip
import Tabula.Proofs.Outcome

/-!
# Trees that are read back

Which tree a decoder reads back as the value that it was written for, form by form: scalars, lists,
enumerations, and records by their fields. Since such a tree is exact and not nested too deeply, its
text is read back as well.
-/

namespace Tabula

namespace Json

/-- The trees of a list are sound if every one of them is. -/
theorem itemsSound_of_forall {depth : Nat} {items : List Json}
    (h : ∀ item ∈ items, item.isSound depth = true) : itemsSound depth items = true := by
  induction items with
  | nil => rfl
  | cons item rest ih =>
    obtain ⟨hitem, hrest⟩ := List.forall_mem_cons.mp h
    rw [itemsSound, hitem, ih hrest, Bool.and_self]

/-- The values of fields are sound if every one of them is. -/
theorem fieldsSound_of_forall {depth : Nat} {fields : List (String × Json)}
    (h : ∀ field ∈ fields, field.2.isSound depth = true) : fieldsSound depth fields = true := by
  induction fields with
  | nil => rfl
  | cons field rest ih =>
    obtain ⟨hfield, hrest⟩ := List.forall_mem_cons.mp h
    rw [fieldsSound, hfield, ih hrest, Bool.and_self]

end Json

/-- The decoder reads the tree back as the value. The tree is exact, and its lists and records are
nested at most `depth` deep. -/
structure Decoder.Restores {A : Type} (decode : Decoder A) (depth : Nat) (json : Json) (a : A) :
    Prop where
  isExact : json.IsExact
  isSound : json.isSound depth = true
  decoded : decode json = .ok a

/-- The fields are read back from the named trees and make up the value. -/
structure Fields.Restore {A : Type} (fields : Fields A) (depth : Nat)
    (named : List (String × Json)) (a : A) : Prop where
  /-- What is found under the name of a declared field is a tree for it. -/
  found : ∀ field ∈ fields.declared, ∀ json, named.lookup field.name = some json →
    json.IsExact ∧ json.isSound depth = true ∧ field.check json = .ok ()
  built : fields.build named = .ok a

variable {A B : Type} {depth : Nat}

/-! ### Scalars and lists -/

namespace Decoder.Restores

variable {decode : Decoder A} {json : Json} {a : A}
/-- A text is read back. -/
theorem text (value : String) : Decoder.text.Restores depth (.text value) value :=
  ⟨.text value, rfl, rfl⟩

/-- A truth value is read back. -/
theorem bool (value : Bool) : Decoder.bool.Restores depth (.bool value) value :=
  ⟨.bool value, rfl, rfl⟩

/-- An integer that is a word is read back as it. -/
theorem word {expected : String} {ofInt? : Int → Option A} {value : Int}
    (isWireInt : IsWireInt value) (h : ofInt? value = some a) :
    (Decoder.word expected ofInt?).Restores depth (.int value isWireInt) a :=
  ⟨.int value isWireInt, rfl, by simp only [Decoder.word, h]⟩

/-- The name of a case is read back as the case. -/
theorem enumeration {dialect : Dialect} {known : List String} {ofName? : String → Option A}
    {name : String} (h : ofName? name = some a) :
    (Decoder.enumeration dialect known ofName?).Restores depth (.text name) a :=
  ⟨.text name, rfl, by simp only [Decoder.enumeration, caseNamed, h]⟩

/-- What may be missing, and is null then, is read back. -/
theorem optional {toJson : A → Json} {value : Option A}
    (h : ∀ a ∈ value, decode.Restores depth (toJson a) a ∧ toJson a ≠ .null) :
    (Decoder.optional decode).Restores depth ((value.map toJson).getD .null) value := by
  cases value with
  | none => exact ⟨.null, rfl, rfl⟩
  | some a =>
    obtain ⟨ha, hne⟩ := h a rfl
    have hread : (Decoder.optional decode) (toJson a) = Option.some <$> decode (toJson a) := by
      unfold Decoder.optional
      split
      · exact absurd ‹_› hne
      · rfl
    refine ⟨ha.isExact, ha.isSound, ?_⟩
    rw [Option.map_some, Option.getD_some, hread, ha.decoded]
    rfl

/-- A list is read back if its items are. -/
theorem list {toJson : A → Json} {items : List A}
    (h : ∀ item ∈ items, decode.Restores depth (toJson item) item) :
    (Decoder.list decode).Restores (depth + 1) (.list (items.map toJson)) items where
  isExact := .list (List.forall_mem_map.mpr fun item hitem => (h item hitem).isExact)
  isSound := Json.itemsSound_of_forall
    (List.forall_mem_map.mpr fun item hitem => (h item hitem).isSound)
  decoded := by
    refine mapM_eq_ok_iff.mpr ?_
    rw [List.forall₂_map_left_iff, List.forall₂_same]
    exact fun item hitem => (h item hitem).decoded

end Decoder.Restores

/-! ### Fields -/

namespace Fields.Restore

variable {named : List (String × Json)} {name : String} {decode : Decoder A} {a : A} {json : Json}

/-- A function is read back with its argument. -/
theorem seq {make : A → B} {first : Fields (A → B)} {rest : Fields A}
    (hfirst : first.Restore depth named make) (hrest : rest.Restore depth named a) :
    (first <*> rest).Restore depth named (make a) where
  found field hfield := by
    rcases List.mem_append.mp hfield with hmem | hmem
    · exact hfirst.found field hmem
    · exact hrest.found field hmem
  built := by
    change (first.build named <*> rest.build named) = _
    rw [hfirst.built, hrest.built]
    rfl

/-- A function of what is read back is read back. -/
theorem map {rest : Fields A} (make : A → B) (hrest : rest.Restore depth named a) :
    (make <$> rest).Restore depth named (make a) :=
  seq ⟨fun _ hfield => absurd hfield List.not_mem_nil, rfl⟩ hrest

/-- A tree found under the name of a single field is a tree for it if the decoder reads it. -/
theorem found_single {hasDefault : Bool} (hfound : named.lookup name = some json)
    (h : decode.Restores depth json a) :
    ∀ field ∈ [Field.mk name hasDefault fun json => (fun _ => ()) <$> decode json], ∀ json,
      named.lookup field.name = some json →
        json.IsExact ∧ json.isSound depth = true ∧ field.check json = .ok () := by
  intro field hfield other hother
  obtain rfl := List.mem_singleton.mp hfield
  obtain rfl : json = other := Option.some.inj (hfound.symm.trans hother)
  refine ⟨h.isExact, h.isSound, ?_⟩
  simp only [h.decoded]
  rfl

/-- A field that must be there is read back from the tree under its name. -/
theorem required (hfound : named.lookup name = some json) (h : decode.Restores depth json a) :
    (Fields.required name decode).Restore depth named a where
  found := found_single hfound h
  built := by simp only [Fields.required, Json.field?, hfound, h.decoded]

/-- A field that may be left out is read back from the tree under its name. -/
theorem defaulted {default : A} (hfound : named.lookup name = some json)
    (h : decode.Restores depth json a) :
    (Fields.defaulted name decode default).Restore depth named a where
  found := found_single hfound h
  built := by simp only [Fields.defaulted, Json.field?, hfound, h.decoded]

/-- A field that is left out has its default. -/
theorem omitted {default : A} (habsent : named.lookup name = none) :
    (Fields.defaulted name decode default).Restore depth named default where
  found field hfield other hother := by
    obtain rfl := List.mem_singleton.mp hfield
    cases habsent.symm.trans hother
  built := by simp only [Fields.defaulted, Json.field?, habsent]

/-- A field that is written only if there is something to write is read back. -/
theorem skipped {toJson : A → Json} {value : Option A}
    (hfound : named.lookup name = value.map toJson)
    (h : ∀ a ∈ value, decode.Restores depth (toJson a) a ∧ toJson a ≠ .null) :
    (Fields.defaulted name (.optional decode) none).Restore depth named value := by
  cases value with
  | none => exact omitted hfound
  | some a => exact defaulted hfound (Decoder.Restores.optional h)

end Fields.Restore

/-! ### Records and texts -/

namespace Decoder

/-- Written fields with different names pass if each of them is declared and every declaration of
its name accepts it. -/
theorem checkFields_eq_ok {declared : List Field} {closed : Bool} {seen : List String}
    {written : List (String × Json)} (hnames : (written.map (·.1)).Nodup)
    (hseen : ∀ name ∈ written.map (·.1), name ∉ seen)
    (hdeclared : ∀ name ∈ written.map (·.1), name ∈ declared.map (·.name))
    (hcheck : ∀ named ∈ written, ∀ field ∈ declared, field.name = named.1 →
      field.check named.2 = .ok ()) :
    checkFields declared closed seen written = .ok () := by
  induction written generalizing seen with
  | nil => rfl
  | cons named rest ih =>
    obtain ⟨name, json⟩ := named
    obtain ⟨hnew, hrest⟩ := List.nodup_cons.mp hnames
    obtain ⟨hunseen, hrestUnseen⟩ := List.forall_mem_cons.mp hseen
    obtain ⟨hknown, hrestKnown⟩ := List.forall_mem_cons.mp hdeclared
    obtain ⟨hchecked, hrestChecked⟩ := List.forall_mem_cons.mp hcheck
    obtain ⟨field, hfield⟩ : ∃ field, declared.find? (·.name == name) = some field := by
      rw [← Option.isSome_iff_exists, List.find?_isSome]
      obtain ⟨field, hmem, hname⟩ := List.mem_map.mp hknown
      exact ⟨field, hmem, beq_iff_eq.mpr hname⟩
    have hname : field.name = name := by simpa using List.find?_some hfield
    have hpassed := hchecked field (List.mem_of_find?_eq_some hfield) hname
    have hcontains : seen.contains name = false := by simpa using hunseen
    simp only [checkFields, hfield, hcontains, hpassed, Bool.false_eq_true, if_false]
    refine ih hrest (fun other hother => ?_) hrestKnown hrestChecked
    rw [List.mem_cons, not_or]
    exact ⟨fun heq => hnew (heq ▸ hother), hrestUnseen other hother⟩

namespace Restores

variable {decode : Decoder A} {json : Json} {a : A}

/-- A record is read back if it has some of the declared fields in their order and they are. -/
theorem record {dialect : Dialect} {title : String} {closed : Bool} {fields : Fields A}
    {named : List (String × Json)}
    (hnames : (named.map (·.1)).Sublist (fields.declared.map (·.name)))
    (hdeclared : (fields.declared.map (·.name)).Nodup) (h : fields.Restore depth named a) :
    (Decoder.record dialect title closed fields).Restores (depth + 1) (.record named) a := by
  have hnodup := hdeclared.sublist hnames
  have hfound : ∀ tree ∈ named, ∀ field ∈ fields.declared, field.name = tree.1 →
      tree.2.IsExact ∧ tree.2.isSound depth = true ∧ field.check tree.2 = .ok () := by
    intro tree htree field hfield hname
    exact h.found field hfield tree.2 (hname ▸ (lookup_eq_some_iff_mem hnodup).mpr htree)
  have hparts : ∀ tree ∈ named, tree.2.IsExact ∧ tree.2.isSound depth = true := by
    intro tree htree
    obtain ⟨field, hfield, hname⟩ :=
      List.mem_map.mp (hnames.subset (List.mem_map_of_mem htree))
    obtain ⟨hexact, hsound, -⟩ := hfound tree htree field hfield hname
    exact ⟨hexact, hsound⟩
  have hchecked : checkFields fields.declared closed [] named = .ok () :=
    checkFields_eq_ok hnodup (fun _ _ => List.not_mem_nil) (fun _ hname => hnames.subset hname)
      fun tree htree field hfield hname => (hfound tree htree field hfield hname).2.2
  exact {
    isExact := .record hnodup fun tree htree => (hparts tree htree).1
    isSound := Json.fieldsSound_of_forall fun tree htree => (hparts tree htree).2
    decoded := bind_eq_ok_iff.mpr ⟨(), hchecked, h.built⟩ }

/-- What is read back from a tree is read back from its text. -/
theorem ofText (h : decode.Restores Json.maxDepth json a) : decode.ofText json.render = .ok a := by
  rw [Decoder.ofText, Json.parse?_render h.isExact h.isSound]
  exact h.decoded

/-- What is read back from a tree is read back from its text by a decoder that may pass over parts
of it. -/
theorem ofSpelledText (h : decode.Restores Json.maxDepth json a) :
    decode.ofSpelledText json.render = .ok a := by
  rw [Decoder.ofSpelledText, Json.spelled?_render h.isExact]
  exact mapError_eq_ok_iff.mpr h.decoded

end Restores

end Decoder

end Tabula
