import Tabula.Proofs.Json.Fields
import Tabula.Proofs.Json.Scan

/-!
# What is written is read back

A tree without floating-point numbers, flaws and repeated names is read back from the text that is
written for it: its tokens are scanned from their characters, and the reader builds the tree from
the tokens. Merging repeated names leaves it as it is.
-/

namespace Tabula.Json

/-- The tree is exact: it has no floating-point numbers and no flaws, and no record in it has a name
twice. -/
inductive IsExact : Json → Prop
  | null : IsExact .null
  | bool (value : Bool) : IsExact (.bool value)
  | int (value : Int) (isWireInt : IsWireInt value) : IsExact (.int value isWireInt)
  | text (value : String) : IsExact (.text value)
  | list {items : List Json} (all : ∀ item ∈ items, IsExact item) : IsExact (.list items)
  | record {fields : List (String × Json)} (names : (fields.map (·.1)).Nodup)
      (all : ∀ field ∈ fields, IsExact field.2) : IsExact (.record fields)

/-! ### Tokens -/

namespace Token

/-- The token is written as one character of punctuation. -/
def IsPunctuation (token : Token) : Prop :=
  ∃ c, chars token = [c] ∧ ofPunctuation? c = some token ∧ isBlank c = false

/-- The tokens are scanned from what is written for them, whatever follows, as long as that does not
go on with a word. -/
def Readable (tokens : List Token) : Prop :=
  ∀ rest, EndsWord rest → scan? (tokens.flatMap chars ++ rest) = (scan? rest).map (tokens ++ ·)

namespace Readable

variable {token : Token} {tokens more : List Token}

/-- No tokens are readable. -/
theorem nil : Readable [] := fun rest _ => by simp

/-- A word is readable. -/
theorem word {json : Json} (hne : scalarChars json ≠ [])
    (hword : ∀ c ∈ scalarChars json, isWordChar c = true)
    (hjson : ofWord? (scalarChars json) = some json) : Readable [.scalar json] := by
  intro rest hrest
  rw [List.flatMap_singleton, chars]
  exact scan?_word hne hword hjson hrest

/-- A string before readable tokens is readable. -/
theorem text (h : Readable tokens) (value : String) : Readable (.text (some value) :: tokens) := by
  intro rest hrest
  rw [List.flatMap_cons, List.append_assoc, chars, Option.getD_some, scan?_quoted, h rest hrest,
    Option.map_map]
  rfl

/-- Punctuation before readable tokens is readable. -/
theorem punctuation (h : Readable tokens) (htoken : token.IsPunctuation) :
    Readable (token :: tokens) := by
  obtain ⟨c, hchars, hc, hblank⟩ := htoken
  intro rest hrest
  rw [List.flatMap_cons, List.append_assoc, hchars, List.singleton_append,
    scan?_punctuation hc hblank, h rest hrest, Option.map_map]
  rfl

/-- Readable tokens may be followed by punctuation and more of them. -/
theorem append (h : Readable tokens) (htoken : token.IsPunctuation) (hmore : Readable more) :
    Readable (tokens ++ token :: more) := by
  intro rest hrest
  have hends : EndsWord ((token :: more).flatMap chars ++ rest) := by
    obtain ⟨c, hchars, hc, -⟩ := htoken
    intro first hfirst
    rw [List.flatMap_cons, hchars, List.singleton_append, List.cons_append, List.head?_cons,
      Option.mem_some] at hfirst
    simp [← hfirst, isWordChar, hc]
  rw [List.flatMap_append, List.append_assoc, h _ hends, hmore.punctuation htoken rest hrest,
    Option.map_map]
  simp [Function.comp_def]

/-- Readable tokens are scanned from their characters. -/
theorem scan?_eq (h : Readable tokens) : scan? (tokens.flatMap chars) = some tokens := by
  have hend := h [] (by simp [EndsWord])
  rwa [List.append_nil, scan?, Option.map_some, List.append_nil] at hend

end Readable

end Token

open Token

/-- The tokens of a list are readable if those of its items are. -/
theorem readable_itemTokens {items : List Json} (h : ∀ item ∈ items, Readable item.tokens) :
    Readable (itemTokens items) := by
  induction items with
  | nil => exact .nil
  | cons item rest ih =>
    obtain ⟨hitem, hrest⟩ := List.forall_mem_cons.mp h
    cases rest with
    | nil => rwa [itemTokens]
    | cons next rest =>
      rw [itemTokens]
      · exact hitem.append ⟨',', rfl, rfl, rfl⟩ (ih hrest)
      · simp

/-- The tokens of a record are readable if those of its values are. -/
theorem readable_fieldTokens {fields : List (String × Json)}
    (h : ∀ field ∈ fields, Readable field.2.tokens) : Readable (fieldTokens fields) := by
  induction fields with
  | nil => exact .nil
  | cons field rest ih =>
    obtain ⟨hfield, hrest⟩ := List.forall_mem_cons.mp h
    have hcolon : IsPunctuation .colon := ⟨':', rfl, rfl, rfl⟩
    cases rest with
    | nil => exact (hfield.punctuation hcolon).text field.1
    | cons next rest =>
      rw [fieldTokens]
      · exact ((hfield.append ⟨',', rfl, rfl, rfl⟩ (ih hrest)).punctuation hcolon).text field.1
      · simp

/-- The tokens of an exact tree are readable. -/
theorem IsExact.readable {json : Json} (h : json.IsExact) : Readable json.tokens := by
  induction h with
  | null => exact .word (by decide) (List.all_eq_true.mp rfl) rfl
  | bool value => cases value <;> exact .word (by decide) (List.all_eq_true.mp rfl) rfl
  | int value isWireInt =>
    exact .word (integerChars_ne_nil value) (fun c hc => isWordChar_of_mem_integerChars hc)
      (ofWord?_integerChars isWireInt)
  | text value => exact Readable.nil.text value
  | list all ih =>
    exact ((readable_itemTokens ih).append ⟨']', rfl, rfl, rfl⟩ .nil).punctuation
      ⟨'[', rfl, rfl, rfl⟩
  | record names all ih =>
    exact ((readable_fieldTokens ih).append ⟨'}', rfl, rfl, rfl⟩ .nil).punctuation
      ⟨'{', rfl, rfl, rfl⟩

/-! ### The reader -/

namespace Reader

variable {frames : List Frame} {rest : List Token}

/-- Reading goes on after the tokens of a tree as if the tree had been handed on. -/
def Delivers (json : Json) : Prop :=
  ∀ frames rest, (json.tokens ++ rest).foldlM step? (.value frames) =
    rest.foldlM step? (deliver json frames)

/-- The first item of a list is read as any value. -/
theorem foldlM_listStart (item : Json) (items : List Json) :
    (itemTokens (item :: items) ++ rest).foldlM step? (.listStart frames) =
      (itemTokens (item :: items) ++ rest).foldlM step? (.value (.list [] :: frames)) := by
  -- all tokens with which a value begins are read alike in both places
  have hfirst (more : List Token) : (item.tokens ++ more).foldlM step? (.listStart frames) =
      (item.tokens ++ more).foldlM step? (.value (.list [] :: frames)) := by
    cases item <;> rfl
  cases items with
  | nil => exact hfirst rest
  | cons next items =>
    rw [itemTokens, List.append_assoc]
    · exact hfirst _
    · simp

/-- The items of a list are read one after the other. -/
theorem foldlM_itemTokens {items : List Json} (h : ∀ item ∈ items, Delivers item) (hne : items ≠ [])
    (before : List Json) :
    (itemTokens items ++ .endList :: rest).foldlM step? (.value (.list before :: frames)) =
      rest.foldlM step? (deliver (.list (before.reverse ++ items)) frames) := by
  induction items generalizing before with
  | nil => exact absurd rfl hne
  | cons item items ih =>
    obtain ⟨hitem, hitems⟩ := List.forall_mem_cons.mp h
    cases items with
    | nil =>
      rw [itemTokens, hitem, List.foldlM_cons]
      simp [deliver, step?]
    | cons next items =>
      rw [itemTokens, List.append_assoc, hitem, List.cons_append, List.foldlM_cons]
      · have hnext := ih hitems (by simp) (item :: before)
        rw [List.reverse_cons, List.append_assoc, List.singleton_append] at hnext
        rw [← hnext]
        rfl
      · simp

/-- A record is put together from its named fields. -/
theorem ofFieldsBackward_named (fields : List (String × Json)) :
    ofFieldsBackward (fields.map fun field => (some field.1, field.2)).reverse =
      .record fields := by
  have hnames : (fields.map fun field => (some field.1, field.2)).mapM
      (fun field : Option String × Json => field.1.map (·, field.2)) = some fields := by
    induction fields with
    | nil => rfl
    | cons field fields ih => simp [List.mapM_cons, ih]
  simp only [ofFieldsBackward, List.reverse_reverse, hnames]

/-- The fields of a record are read one after the other. -/
theorem foldlM_fieldTokens {fields : List (String × Json)} (h : ∀ field ∈ fields, Delivers field.2)
    (hne : fields ≠ []) (before : List (Option String × Json)) :
    (fieldTokens fields ++ .endRecord :: rest).foldlM step? (.name before frames) =
      rest.foldlM step? (deliver (ofFieldsBackward
        ((fields.map fun field => (some field.1, field.2)).reverse ++ before)) frames) := by
  induction fields generalizing before with
  | nil => exact absurd rfl hne
  | cons field fields ih =>
    obtain ⟨hfield, hfields⟩ := List.forall_mem_cons.mp h
    have hvalue (more : List Token) :
        (.text (some field.1) :: .colon :: (field.2.tokens ++ more)).foldlM step?
            (.name before frames) =
          more.foldlM step? (.afterField ((some field.1, field.2) :: before) frames) :=
      hfield (.record before (some field.1) :: frames) more
    cases fields with
    | nil => exact hvalue (.endRecord :: rest)
    | cons next fields =>
      have hnext := ih hfields (by simp) ((some field.1, field.2) :: before)
      rw [List.map_cons, List.reverse_cons, List.append_assoc, List.singleton_append, ← hnext,
        fieldTokens, List.cons_append, List.cons_append, List.append_assoc, hvalue]
      · rfl
      · simp

/-- The tokens of an exact tree are read as that tree. -/
theorem delivers_of_isExact {json : Json} (h : json.IsExact) : Delivers json := by
  induction h with
  | list all ih =>
    rename_i items
    intro frames rest
    rw [tokens, List.cons_append, List.append_assoc, List.singleton_append, List.foldlM_cons]
    change List.foldlM step? (.listStart frames) _ = _
    cases items with
    | nil => rfl
    | cons item items =>
      have hread := @foldlM_itemTokens frames rest _ ih (List.cons_ne_nil item items) []
      rw [List.reverse_nil, List.nil_append] at hread
      rw [← hread, ← foldlM_listStart item items]
  | record names all ih =>
    rename_i fields
    intro frames rest
    rw [tokens, List.cons_append, List.append_assoc, List.singleton_append, List.foldlM_cons]
    change List.foldlM step? (.recordStart frames) _ = _
    cases fields with
    | nil => rfl
    | cons field fields =>
      have hread := @foldlM_fieldTokens frames rest _ ih (List.cons_ne_nil field fields) []
      rw [List.append_nil, ofFieldsBackward_named] at hread
      rw [← hread]
      cases fields <;> rfl
  | _ => intro frames rest; rfl

end Reader

/-! ### Texts -/

/-- An exact tree is spelled by the text that is written for it. -/
theorem spelled?_render {json : Json} (h : json.IsExact) : spelled? json.render = some json := by
  have hread := Reader.delivers_of_isExact h [] []
  rw [List.append_nil] at hread
  simp only [spelled?, render, String.toList_ofList, h.readable.scan?_eq, Option.bind_some,
    ofTokens?, hread]
  rfl

/-- An exact tree that is not nested too deeply is denoted by the text that is written for it. -/
theorem parse?_render {json : Json} (h : json.IsExact) (hsound : json.isSound maxDepth = true) :
    parse? json.render = some json := by
  rw [parse?, spelled?_render h, Option.filter_some, if_pos hsound]

/-! ### Merging -/

/-- Lists whose items have nothing to merge have nothing to merge. -/
theorem mergeItems_eq_self {items : List Json} (h : ∀ item ∈ items, item.mergeRepeated = item) :
    mergeItems items = items := by
  induction items with
  | nil => rfl
  | cons item rest ih =>
    obtain ⟨hitem, hrest⟩ := List.forall_mem_cons.mp h
    rw [mergeItems, hitem, ih hrest]

/-- Fields whose values have nothing to merge keep their values. -/
theorem mergeFields_eq_self {fields : List (String × Json)}
    (h : ∀ field ∈ fields, field.2.mergeRepeated = field.2) : mergeFields fields = fields := by
  induction fields with
  | nil => rfl
  | cons field rest ih =>
    obtain ⟨hfield, hrest⟩ := List.forall_mem_cons.mp h
    rw [mergeFields, hfield, ih hrest]

/-- An exact tree has nothing to merge. -/
theorem IsExact.mergeRepeated_eq {json : Json} (h : json.IsExact) : json.mergeRepeated = json := by
  induction h with
  | list all ih => rw [mergeRepeated, mergeItems_eq_self ih]
  | record names all ih => rw [mergeRepeated, mergeFields_eq_self ih, lastOfEach_of_nodup names]
  | _ => rw [mergeRepeated]

end Tabula.Json
