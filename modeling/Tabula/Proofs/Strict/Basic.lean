import Mathlib.Data.List.Basic

/-!
# Positions in lists

To read, set, take out or put in an item at a position that is out of range has no result here. An
operation that is written with these has a result if all positions that it uses are in range; its
outcome may still be an error.
-/

namespace Tabula

namespace Strict

section Lists

variable {A B : Type} {items : List A} {position : Nat}

/-- Reads the item at a position, which must be there. -/
def readAt (items : List A) (position : Nat) : Option A := items[position]?

/-- Sets the item at a position, which must be there. -/
def setAt (items : List A) (position : Nat) (item : A) : Option (List A) :=
  if position < items.length then some (items.set position item) else none

/-- Takes out the item at a position, which must be there. -/
def eraseAt (items : List A) (position : Nat) : Option (A × List A) :=
  items[position]?.map fun item => (item, items.eraseIdx position)

/-- Puts in an item at a position, which must be there or next after the last. -/
def insertAt (items : List A) (position : Nat) (item : A) : Option (List A) :=
  if position ≤ items.length then some (items.insertIdx position item) else none

/-- A number of items from the start, which must be there. -/
def upTo (items : List A) (count : Nat) : Option (List A) :=
  if count ≤ items.length then some (items.take count) else none

/-- The item at a position can be read if it is there. -/
theorem readAt_eq (h : position < items.length) : readAt items position = some items[position] :=
  List.getElem?_eq_getElem h

/-- The item at a position can be set if it is there. -/
theorem setAt_eq (h : position < items.length) (item : A) :
    setAt items position item = some (items.set position item) := if_pos h

/-- The item at a position can be taken out if it is there. -/
theorem eraseAt_eq (h : position < items.length) :
    eraseAt items position = some (items[position], items.eraseIdx position) := by
  rw [eraseAt, List.getElem?_eq_getElem h, Option.map_some]

/-- An item can be put in at a position up to the end. -/
theorem insertAt_eq (h : position ≤ items.length) (item : A) :
    insertAt items position item = some (items.insertIdx position item) := if_pos h

/-- The items before some others are there. -/
theorem upTo_append (before after : List A) :
    upTo (before ++ after) before.length = some before := by
  simp [upTo]

/-- If every item has a result, the list of the results is there. -/
theorem mapM_eq_some {f : A → Option B} {g : A → B} (h : ∀ item ∈ items, f item = some (g item)) :
    items.mapM f = some (items.map g) := by
  induction items with
  | nil => rfl
  | cons item rest ih =>
    obtain ⟨hitem, hrest⟩ := List.forall_mem_cons.mp h
    rw [List.mapM_cons, hitem, ih hrest]
    rfl

end Lists

/-! ### Outcomes -/

section Outcomes

variable {A B E F : Type}

/-- The outcome of an operation whose positions were all in range. -/
def inRange (outcome : Except E A) : ExceptT E Option A := ExceptT.mk (some outcome)

/-- An operation without positions. -/
@[simp] theorem liftExcept_eq (outcome : Except E A) :
    (liftExcept outcome : ExceptT E Option A) = inRange outcome := by
  cases outcome <;> rfl

/-- A result is an outcome. -/
@[simp] theorem pure_eq (a : A) : (pure a : ExceptT E Option A) = inRange (.ok a) := rfl

/-- An error is an outcome. -/
@[simp] theorem throw_eq (error : E) : (throw error : ExceptT E Option A) = inRange (.error error) :=
  rfl

/-- After a result the operation goes on with it. -/
@[simp] theorem inRange_ok_bind (a : A) (next : A → ExceptT E Option B) :
    inRange (.ok a) >>= next = next a := rfl

/-- After an error the operation ends. -/
@[simp] theorem inRange_error_bind (error : E) (next : A → ExceptT E Option B) :
    inRange (.error error) >>= next = inRange (.error error) := rfl

/-- With what was read the operation goes on. -/
@[simp] theorem liftM_some_bind (a : A) (next : A → ExceptT E Option B) :
    (liftM (some a) : ExceptT E Option A) >>= next = next a := rfl

/-- An outcome can be taken apart. -/
@[simp] theorem run_inRange (outcome : Except E A) : (inRange outcome).run = some outcome := rfl

/-- An operation is in range if its first part is, and the rest whatever that gives. -/
theorem inRange_bind {outcome : Except E A} {next : A → ExceptT E Option B}
    {outcomes : A → Except E B} (h : ∀ a, next a = inRange (outcomes a)) :
    inRange outcome >>= next = inRange (outcome >>= outcomes) := by
  cases outcome with
  | error error => rfl
  | ok a => exact h a

/-- Wrapping an error reads nothing. -/
@[simp] theorem adapt_inRange (wrap : E → F) (outcome : Except E A) :
    ExceptT.adapt wrap (inRange outcome) = inRange (outcome.mapError wrap) := rfl

end Outcomes

end Strict

end Tabula
