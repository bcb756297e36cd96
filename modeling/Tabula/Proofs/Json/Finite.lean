import Mathlib.Data.Option.Basic
import Tabula.Json.Decoder
import Tabula.Proofs.Json.Fields
import Tabula.Proofs.Outcome
import Tabula.Proofs.Value.Json

/-!
# Numbers that are read from texts

A numeral that is too large for double precision denotes nothing, so a word is never read as a
number that is not finite. The reader puts trees together and adds no numbers of its own; so every
number in a tree that is read from a text is finite. Decoders take such trees apart, and what they
build a record from are parts of the tree.
-/

namespace Tabula

namespace Json

/-- All numbers in a tree are finite. -/
inductive AllFinite : Json → Prop
  | null : AllFinite .null
  | bool (value : Bool) : AllFinite (.bool value)
  | int (value : Int) (isWireInt : IsWireInt value) : AllFinite (.int value isWireInt)
  | float {value : Double} (finite : value.isFinite = true) : AllFinite (.float value)
  | text (value : String) : AllFinite (.text value)
  | list {items : List Json} (all : ∀ item ∈ items, AllFinite item) : AllFinite (.list items)
  | record {fields : List (String × Json)} (all : ∀ field ∈ fields, AllFinite field.2) :
      AllFinite (.record fields)
  | flawed : AllFinite .flawed

/-- If all numbers in a tree are finite, the tree is no other number. -/
theorem AllFinite.isFinite {json : Json} (h : json.AllFinite) : json.IsFinite := by
  cases h with
  | float finite => exact finite
  | _ => trivial

/-! ### Words and tokens -/

/-- A number is read as a finite one, or as nothing. -/
theorem Number.allFinite_ofDouble (value : Double) : (ofDouble value).AllFinite := by
  unfold ofDouble
  split
  · rename_i hfinite
    exact .float hfinite
  · exact .flawed

/-- A numeral without fraction and exponent is read as an integer, if it is one of the words. -/
theorem Number.allFinite_integer (negative : Bool) (whole : List Char) (value : Double) :
    ((integer? negative whole).getD (ofDouble value)).AllFinite := by
  cases hinteger : integer? negative whole with
  | none => exact allFinite_ofDouble value
  | some json =>
    obtain ⟨hrange, heq⟩ := Option.dite_none_right_eq_some.mp hinteger
    cases heq
    exact .int _ hrange.1

/-- A numeral is read as a finite number, or as nothing. -/
theorem Number.allFinite_of_ofChars? {chars : List Char} {json : Json}
    (h : ofChars? chars = some json) : json.AllFinite := by
  have hnumber (plain negative : Bool) (whole : List Char) (value : Double) :
      (if plain then (integer? negative whole).getD (ofDouble value)
        else ofDouble value).AllFinite := by
    split
    · exact allFinite_integer negative whole value
    · exact allFinite_ofDouble value
  simp only [ofChars?, Option.bind_eq_bind, Option.bind_eq_some_iff, Option.pure_def,
    Option.some.injEq] at h
  obtain ⟨-, -, fraction, -, exponent, -, rfl⟩ := h
  exact hnumber _ _ _ _

/-- All numbers in a token are finite. -/
def Token.AllFinite (token : Token) : Prop := ∀ json, token = .scalar json → json.AllFinite

/-- A word is read as a tree of finite numbers. -/
theorem Token.allFinite_of_ofWord? {word : List Char} {json : Json}
    (h : ofWord? word = some json) : json.AllFinite := by
  unfold ofWord? at h
  split at h
  · cases h
    exact .null
  · cases h
    exact .bool true
  · cases h
    exact .bool false
  · exact Number.allFinite_of_ofChars? h

/-- Punctuation is no number. -/
theorem Token.allFinite_of_ofPunctuation? {c : Char} {token : Token}
    (h : ofPunctuation? c = some token) : token.AllFinite := by
  intro json heq
  unfold ofPunctuation? at h
  split at h <;> cases h <;> cases heq

/-- The numbers in the tokens of a text are finite. -/
theorem Token.allFinite_of_scan? {chars : List Char} {tokens : List Token}
    (h : scan? chars = some tokens) : ∀ token ∈ tokens, token.AllFinite := by
  fun_induction scan? chars generalizing tokens with
  | case1 =>
    cases h
    nofun
  | case2 c rest hblank ih => exact ih h
  | case3 c rest hblank token htoken ih =>
    obtain ⟨others, hothers, rfl⟩ := Option.map_eq_some_iff.mp h
    exact List.forall_mem_cons.mpr ⟨allFinite_of_ofPunctuation? htoken, ih hothers⟩
  | case4 => cases h
  | case5 rest pieces after hread hblank hpunctuation ih =>
    obtain ⟨others, hothers, rfl⟩ := Option.map_eq_some_iff.mp h
    exact List.forall_mem_cons.mpr ⟨nofun, ih hothers⟩
  | case6 => cases h
  | case7 c rest hblank hpunctuation hquote value hword ih =>
    obtain ⟨others, hothers, rfl⟩ := Option.map_eq_some_iff.mp h
    refine List.forall_mem_cons.mpr ⟨fun json heq => ?_, ih hothers⟩
    cases heq
    exact allFinite_of_ofWord? hword

/-! ### The reader -/

/-- What a partial function makes of a list, it makes of the items. -/
theorem exists_of_mem_mapM {A B : Type} {read : A → Option B} {items : List A} {results : List B}
    (h : items.mapM read = some results) {result : B} (hresult : result ∈ results) :
    ∃ item ∈ items, read item = some result := by
  induction items generalizing results with
  | nil =>
    cases h
    cases hresult
  | cons item rest ih =>
    simp only [List.mapM_cons, Option.bind_eq_bind, Option.bind_eq_some_iff, Option.pure_def,
      Option.some.injEq] at h
    obtain ⟨first, hfirst, others, hothers, rfl⟩ := h
    rcases List.mem_cons.mp hresult with rfl | hmem
    · exact ⟨item, List.mem_cons_self, hfirst⟩
    · obtain ⟨found, hfound, hread⟩ := ih hothers hmem
      exact ⟨found, List.mem_cons_of_mem item hfound, hread⟩

/-- All numbers that have been read of an open list or record are finite. -/
def Frame.AllFinite : Frame → Prop
  | .list before => ∀ item ∈ before, item.AllFinite
  | .record before _ => ∀ field ∈ before, field.2.AllFinite

namespace Reader

/-- All numbers that have been read so far are finite. -/
def AllFinite : Reader → Prop
  | .value frames | .listStart frames | .recordStart frames => ∀ frame ∈ frames, frame.AllFinite
  | .name before frames | .colon before _ frames | .afterField before frames =>
    (∀ field ∈ before, field.2.AllFinite) ∧ ∀ frame ∈ frames, frame.AllFinite
  | .afterItem before frames =>
    (∀ item ∈ before, item.AllFinite) ∧ ∀ frame ∈ frames, frame.AllFinite
  | .done json => json.AllFinite

/-- A complete value is handed on with the numbers in it. -/
theorem allFinite_deliver {json : Json} {frames : List Frame} (hjson : json.AllFinite)
    (hframes : ∀ frame ∈ frames, frame.AllFinite) : (deliver json frames).AllFinite := by
  cases frames with
  | nil => exact hjson
  | cons frame frames =>
    obtain ⟨hframe, hrest⟩ := List.forall_mem_cons.mp hframes
    cases frame with
    | list before => exact ⟨List.forall_mem_cons.mpr ⟨hjson, hframe⟩, hrest⟩
    | record before label => exact ⟨List.forall_mem_cons.mpr ⟨hjson, hframe⟩, hrest⟩

/-- A record has the numbers of its fields. -/
theorem allFinite_ofFieldsBackward {fields : List (Option String × Json)}
    (h : ∀ field ∈ fields, field.2.AllFinite) : (ofFieldsBackward fields).AllFinite := by
  unfold ofFieldsBackward
  split
  · rename_i named hnamed
    refine .record fun field hfield => ?_
    obtain ⟨given, hgiven, hname⟩ := exists_of_mem_mapM hnamed hfield
    obtain ⟨name, -, rfl⟩ := Option.map_eq_some_iff.mp hname
    exact h given (List.mem_reverse.mp hgiven)
  · exact .flawed

/-- The first token of a value adds the number that it is. -/
theorem allFinite_of_beginValue? {frames : List Frame} {token : Token} {next : Reader}
    (h : beginValue? frames token = some next) (htoken : token.AllFinite)
    (hframes : ∀ frame ∈ frames, frame.AllFinite) : next.AllFinite := by
  unfold beginValue? at h
  split at h <;> cases h
  · exact allFinite_deliver (htoken _ rfl) hframes
  · rename_i content
    cases content with
    | none => exact allFinite_deliver .flawed hframes
    | some text => exact allFinite_deliver (.text text) hframes
  · exact hframes
  · exact hframes

/-- A token adds the number that it is. -/
theorem allFinite_of_step? {reader next : Reader} {token : Token}
    (h : reader.step? token = some next) (htoken : token.AllFinite) (hreader : reader.AllFinite) :
    next.AllFinite := by
  unfold step? at h
  split at h
  · exact allFinite_of_beginValue? h htoken hreader
  · cases h
    exact allFinite_deliver (.list nofun) hreader
  · exact allFinite_of_beginValue? h htoken (List.forall_mem_cons.mpr ⟨nofun, hreader⟩)
  · cases h
    exact allFinite_deliver (.record nofun) hreader
  · cases h
    exact ⟨nofun, hreader⟩
  · cases h
    exact hreader
  · cases h
    exact List.forall_mem_cons.mpr hreader
  · cases h
    exact List.forall_mem_cons.mpr hreader
  · cases h
    exact allFinite_deliver (.list fun item hitem => hreader.1 item (List.mem_reverse.mp hitem))
      hreader.2
  · cases h
    exact hreader
  · cases h
    exact allFinite_deliver (allFinite_ofFieldsBackward hreader.1) hreader.2
  · cases h

/-- Tokens add the numbers that they are. -/
theorem allFinite_of_foldlM {reader next : Reader} {tokens : List Token}
    (h : tokens.foldlM step? reader = some next) (htokens : ∀ token ∈ tokens, token.AllFinite)
    (hreader : reader.AllFinite) : next.AllFinite := by
  induction tokens generalizing reader with
  | nil =>
    cases h
    exact hreader
  | cons token rest ih =>
    obtain ⟨htoken, hrest⟩ := List.forall_mem_cons.mp htokens
    obtain ⟨middle, hstep, hfold⟩ := Option.bind_eq_some_iff.mp h
    exact ih hfold hrest (allFinite_of_step? hstep htoken hreader)

end Reader

/-- All numbers in a tree that a text spells are finite. -/
theorem allFinite_of_spelled? {text : String} {json : Json} (h : spelled? text = some json) :
    json.AllFinite := by
  obtain ⟨tokens, hscan, hread⟩ := Option.bind_eq_some_iff.mp h
  obtain ⟨reader, hfold, hresult⟩ := Option.bind_eq_some_iff.mp hread
  have hreader := Reader.allFinite_of_foldlM hfold (Token.allFinite_of_scan? hscan) nofun
  unfold Reader.result? at hresult
  split at hresult <;> cases hresult
  exact hreader

/-- All numbers in a tree that a text denotes are finite. -/
theorem allFinite_of_parse? {text : String} {json : Json} (h : parse? text = some json) :
    json.AllFinite :=
  allFinite_of_spelled? (Option.eq_some_of_filter_eq_some h)

/-! ### Parts of trees -/

/-- Merging repeated names does not make a tree a number that it is not. -/
theorem isFinite_mergeRepeated {json : Json} (h : json.IsFinite) : json.mergeRepeated.IsFinite := by
  cases json with
  | float value => exact h
  | _ => trivial

/-- Merging keeps the names of fields and merges their values. -/
theorem exists_of_mem_mergeFields {fields : List (String × Json)} {field : String × Json}
    (h : field ∈ mergeFields fields) :
    ∃ given ∈ fields, field = (given.1, given.2.mergeRepeated) := by
  induction fields with
  | nil =>
    rw [mergeFields] at h
    cases h
  | cons first rest ih =>
    rw [mergeFields] at h
    rcases List.mem_cons.mp h with rfl | hmem
    · exact ⟨first, List.mem_cons_self, rfl⟩
    · obtain ⟨given, hgiven, hfield⟩ := ih hmem
      exact ⟨given, List.mem_cons_of_mem first hgiven, hfield⟩

end Json

namespace Decoder

/-- The items of a list are named, none is added. -/
theorem mem_of_mem_nameItems {dialect : Dialect} {expected : String} {position : Nat}
    {fields : List Field} {items : List Json} {named : List (String × Json)}
    (h : nameItems dialect expected position fields items = .ok named) {field : String × Json}
    (hfield : field ∈ named) : field.2 ∈ items := by
  fun_induction nameItems dialect expected position fields items generalizing named with
  | case1 =>
    cases h
    cases hfield
  | case2 =>
    cases h
    cases hfield
  | case3 => cases h
  | case4 position field fields hdefault ih => exact absurd (ih h hfield) List.not_mem_nil
  | case5 => cases h
  | case6 position declared fields item items ih =>
    obtain ⟨-, -, h⟩ := bind_eq_ok_iff.mp h
    obtain ⟨rest, hrest, h⟩ := bind_eq_ok_iff.mp h
    cases h
    rcases List.mem_cons.mp hfield with rfl | hmem
    · exact List.mem_cons_self
    · exact List.mem_cons_of_mem item (ih hrest hmem)

/-- A record is built from trees that are parts of the one it is read from. -/
theorem build_of_record {A : Type} {dialect : Dialect} {title : String} {closed : Bool}
    {fields : Fields A} {json : Json} {result : A} (hjson : json.AllFinite)
    (h : record dialect title closed fields json = .ok result) :
    ∃ named, (∀ field ∈ named, field.2.AllFinite) ∧ fields.build named = .ok result := by
  cases hjson with
  | record all =>
    obtain ⟨-, -, hbuild⟩ := bind_eq_ok_iff.mp h
    exact ⟨_, all, hbuild⟩
  | list all =>
    obtain ⟨named, hnamed, hbuild⟩ := bind_eq_ok_iff.mp h
    exact ⟨named, fun field hfield => all field.2 (mem_of_mem_nameItems hnamed hfield), hbuild⟩
  | _ => cases h

end Decoder

end Tabula
