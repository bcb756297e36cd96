import Tabula.Json.Basic

/-!
# Tables of TOML

The tables of a document while it is read. A table comes into being by a header, by a dotted key,
or on the way to another table, and that decides how it may be extended later: each table is
defined once, and a value is never a table to extend.
-/

namespace Tabula.Toml

/-- How a table came into being. -/
inductive TableKind where
  /-- By a header of its own. -/
  | defined
  /-- On the way to a table with a header. -/
  | implied
  /-- By a dotted key. -/
  | dotted
deriving DecidableEq, Repr

/-- What stands under a key. -/
inductive Item where
  | value (json : Json)
  | table (kind : TableKind) (fields : List (String × Item))
  /-- A list of tables, each begun by a header. -/
  | tables (elements : List (List (String × Item)))

/-- The items of a table under their keys. -/
abbrev Items := List (String × Item)

mutual

/-- The tree of an item. -/
def Item.toJson : Item → Json
  | .value json => json
  | .table _ fields => .record (fieldsToJson fields)
  | .tables elements => .list (elementsToJson elements)

/-- The trees of the items of a table. -/
def fieldsToJson : Items → List (String × Json)
  | [] => []
  | (key, item) :: rest => (key, item.toJson) :: fieldsToJson rest

/-- The trees of a list of tables. -/
def elementsToJson : List Items → List Json
  | [] => []
  | fields :: rest => .record (fieldsToJson fields) :: elementsToJson rest

end

/-- Changes the table at the end of a path. Tables that are missing on the way are made; of a list
of tables the last one is meant. A dotted path does not enter tables that have a header. -/
def within (isDotted : Bool) (change : TableKind → Items → Option Items) :
    TableKind → (path : List String) → Items → Option Items
  | kind, [], items => change kind items
  | _, key :: path, items =>
    match items.lookup key with
    | none => do
      let kind : TableKind := if isDotted then .dotted else .implied
      let fields ← within isDotted change kind path []
      return items ++ [(key, .table kind fields)]
    | some (.table kind fields) =>
      if isDotted && kind == .defined then none
      else do
        let fields ← within isDotted change kind path fields
        return Json.putField key (.table kind fields) items
    | some (.tables elements) =>
      match elements.getLast? with
      | none => none
      | some fields => do
        let fields ← within isDotted change .defined path fields
        return Json.putField key (.tables (elements.dropLast ++ [fields])) items
    | some (.value _) => none

/-- Splits a path into the way to a table and a key in it. -/
def splitLast? (path : List String) : Option (List String × String) :=
  path.getLast?.map fun key => (path.dropLast, key)

/-- Puts a value under a new key. At the end of a dotted path only tables of dotted keys are
extended. -/
def assign (path : List String) (json : Json) (items : Items) : Option Items := do
  let (way, key) ← splitLast? path
  let put (kind : TableKind) (fields : Items) : Option Items :=
    if (!way.isEmpty && kind != .dotted) || (fields.lookup key).isSome then none
    else some (fields ++ [(key, .value json)])
  within true put .defined way items

/-- Puts a value under a new key of the table at the end of a header's path. -/
def assignUnder (header path : List String) (json : Json) : Items → Option Items :=
  within false (fun _ => assign path json) .defined header

/-- Begins the table of a header. It must be new, or have been made on the way to another one. -/
def define (header : List String) (items : Items) : Option Items := do
  let (way, key) ← splitLast? header
  let begin (_ : TableKind) (fields : Items) : Option Items :=
    match fields.lookup key with
    | none => some (fields ++ [(key, .table .defined [])])
    | some (.table .implied inner) => some (Json.putField key (.table .defined inner) fields)
    | _ => none
  within false begin .defined way items

/-- Begins one more table of a list of tables. -/
def defineNext (header : List String) (items : Items) : Option Items := do
  let (way, key) ← splitLast? header
  let begin (_ : TableKind) (fields : Items) : Option Items :=
    match fields.lookup key with
    | none => some (fields ++ [(key, .tables [[]])])
    | some (.tables elements) =>
      some (Json.putField key (.tables (elements ++ [[]])) fields)
    | _ => none
  within false begin .defined way items

end Tabula.Toml
