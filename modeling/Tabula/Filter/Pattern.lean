import Tabula.Text.Lowercase

/-!
# Text patterns

In a pattern `%` stands for any run of characters, `_` for any single one, and every other
character for itself; nothing escapes them. Matching goes through the pattern and the text from
left to right. Where they part it goes back to the latest `%`, which then takes one more character
of the text, and never to an earlier one, which makes it quadratic at worst.
-/

namespace Tabula.Pattern

/-- A place in a pattern and in a text, by the number of characters before it in each. -/
structure Place where
  pattern : Nat
  text : Nat
deriving DecidableEq, Repr

/-- Where matching stands. Once a `%` has been passed, `restart` is the place after it, where the
`%` takes the text up to there. -/
structure Cursor extends Place where
  restart : Option Place
  restart_le : ∀ place ∈ restart, place.text ≤ text

/-- A turn of matching goes on from another place, or matching ends. -/
inductive Turn where
  | goOn (cursor : Cursor)
  | ended (matched : Bool)

namespace Cursor

/-- Before the first character of both. -/
def start : Cursor := ⟨⟨0, 0⟩, none, nofun⟩

/-- Past a `%`, which takes nothing of the text as yet. -/
def pastStar (cursor : Cursor) : Cursor where
  pattern := cursor.pattern + 1
  text := cursor.text
  restart := some ⟨cursor.pattern + 1, cursor.text⟩
  restart_le place hplace := by cases hplace; exact Nat.le_refl _

/-- Past a character of both. -/
def pastChar (cursor : Cursor) : Cursor where
  pattern := cursor.pattern + 1
  text := cursor.text + 1
  restart := cursor.restart
  restart_le place hplace := Nat.le_succ_of_le (cursor.restart_le place hplace)

/-- Back at the place after a `%`, which takes one more character of the text. -/
def back (place : Place) : Cursor where
  pattern := place.pattern
  text := place.text + 1
  restart := some ⟨place.pattern, place.text + 1⟩
  restart_le place hplace := by cases hplace; exact Nat.le_refl _

/-- One turn of matching. When the text is used up, only `%` may be left of the pattern. -/
def turn (pattern text : Array Char) (cursor : Cursor) : Turn :=
  match text[cursor.text]? with
  | none => .ended ((pattern.toList.drop cursor.pattern).all (· == '%'))
  | some c =>
    if pattern[cursor.pattern]? = some '%' then .goOn cursor.pastStar
    else if pattern[cursor.pattern]? = some '_' ∨ pattern[cursor.pattern]? = some c then
      .goOn cursor.pastChar
    else match cursor.restart with
      | some place => .goOn (back place)
      | none => .ended false

/-- What is left to match: of the text after the latest `%`, of the text, and of the pattern. -/
def left (pattern text : Array Char) (cursor : Cursor) : Nat × Nat × Nat :=
  (cursor.restart.elim (text.size + 1) (text.size - ·.text), text.size - cursor.text,
    pattern.size - cursor.pattern)

/-- With every turn there is less left: passing a `%` uses up some of the pattern, passing a
character some of the text, and going back some of the text after the `%`. -/
theorem left_lt_of_turn {pattern text : Array Char} {cursor next : Cursor}
    (h : cursor.turn pattern text = .goOn next) :
    Prod.Lex (· < ·) (Prod.Lex (· < ·) (· < ·)) (next.left pattern text)
      (cursor.left pattern text) := by
  have hrestart := cursor.restart_le
  unfold turn at h
  split at h
  · cases h
  · rename_i c htext
    obtain ⟨hlt, -⟩ := Array.getElem?_eq_some_iff.mp htext
    split at h
    · rename_i hstar
      obtain ⟨hpattern, -⟩ := Array.getElem?_eq_some_iff.mp hstar
      cases h
      have hle : text.size - cursor.text ≤
          cursor.restart.elim (text.size + 1) (text.size - ·.text) := by
        cases hplace : cursor.restart with
        | none => exact Nat.le_succ_of_le (Nat.sub_le _ _)
        | some place => exact Nat.sub_le_sub_left (hrestart place hplace) _
      rcases Nat.lt_or_eq_of_le hle with hless | heq
      · exact .left _ _ hless
      · rw [left, left, ← heq]
        exact .right _ (.right _ (Nat.sub_succ_lt_self _ _ hpattern))
    · split at h
      · cases h
        exact .right _ (.left _ _ (Nat.sub_succ_lt_self _ _ hlt))
      · split at h
        · rename_i place hplace
          cases h
          have hle := hrestart place hplace
          rw [left, left, hplace]
          exact .left _ _ (Nat.sub_succ_lt_self _ _ (Nat.lt_of_le_of_lt hle hlt))
        · cases h

/-- Matching from a place on: one turn after the other until it ends. -/
def run (pattern text : Array Char) (cursor : Cursor) : Bool :=
  match _h : cursor.turn pattern text with
  | .ended matched => matched
  | .goOn next => next.run pattern text
termination_by cursor.left pattern text
decreasing_by exact left_lt_of_turn _h

end Cursor

/-- Whether a pattern matches the whole of a text. -/
def covers (pattern text : List Char) : Bool :=
  Cursor.start.run pattern.toArray text.toArray

/-- Whether a pattern matches the whole of a text, ignoring case if asked to: then both are put
into lower case as whole texts. -/
def coversText (pattern text : String) (ignoreCase : Bool) : Bool :=
  if ignoreCase then covers (lowercase pattern.toList) (lowercase text.toList)
  else covers pattern.toList text.toList

end Tabula.Pattern
