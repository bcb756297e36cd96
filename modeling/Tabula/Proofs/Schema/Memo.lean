import Tabula.Proofs.Schema.Lookup

/-!
# Looking up through a memo

One request looks up tables and fields through one memo, while tables may be created and dropped
beside it. The memo has exactly the tables that its calls have found, each as it was found first. So
a table that was found once stays as it was, one that was not found is looked up anew, and nothing
of the memo shows as long as the registry stays as it is.
-/

namespace Tabula

/-- What is looked up: a table, or a field by its path. -/
inductive Lookup where
  | table (database name : String)
  | field (path : String)

/-- What a look-up gives. -/
inductive Finding where
  | table (schema : TableSchema)
  | field (field : ResolvedField)

/-- The answer of the registry itself. -/
def Registry.answer (registry : Registry) : Lookup → Except SchemaError Finding
  | .table database name => (registry.resolve database name).map .table
  | .field path => (registry.resolveField path).map .field

/-- The answer through a memo. -/
def TableMemo.answer (registry : Registry) (memo : TableMemo) :
    Lookup → Except SchemaError Finding × TableMemo
  | .table database name =>
    let (found, memo) := memo.resolve registry database name
    (found.map .table, memo)
  | .field path =>
    let (found, memo) := memo.resolveField registry path
    (found.map .field, memo)

/-- A call through a memo, with the registry as it is at that time. -/
structure MemoCall where
  registry : Registry
  lookup : Lookup

namespace MemoCall

/-- The database and the name of the table that a call is after, if it gets so far. -/
def target? (call : MemoCall) : Option (String × String) :=
  match call.lookup with
  | .table database name => some (database, name)
  | .field text =>
    match FieldPath.ofText text with
    | .error _ => none
    | .ok path =>
      match call.registry.databaseOf path with
      | .error _ => none
      | .ok database => some (database, path.table)

/-- The schema of a table, if the call is after this table and the registry has it. -/
def finds? (call : MemoCall) (database name : String) : Option TableSchema :=
  if call.target? = some (database, name) then (call.registry.resolve database name).toOption
  else none

end MemoCall

namespace TableMemo

variable {memo : TableMemo} {registry : Registry} {database name : String}

/-- The memo after calls, whether or not they succeed. -/
def after (memo : TableMemo) (calls : List MemoCall) : TableMemo :=
  calls.foldl (fun memo call => (memo.answer call.registry call.lookup).2) memo

/-! ### What a memo has -/

/-- A table is given as the memo has it, or else as the registry has it now. -/
theorem fst_resolve (memo : TableMemo) (registry : Registry) (database name : String) :
    (TableMemo.resolve registry memo database name).1 =
      (memo.entries.lookup (database, name)).elim (registry.resolve database name) .ok := by
  unfold TableMemo.resolve
  cases memo.entries.lookup (database, name) with
  | some schema => rfl
  | none => cases registry.resolve database name <;> rfl

/-- Looking up a table adds this table, if the memo does not have it and the registry does. -/
theorem lookup_resolve (memo : TableMemo) (registry : Registry) (database name : String)
    (key : String × String) :
    (TableMemo.resolve registry memo database name).2.entries.lookup key =
      (memo.entries.lookup key).or
        (if (database, name) = key then (registry.resolve database name).toOption else none) := by
  unfold TableMemo.resolve
  cases hlookup : memo.entries.lookup (database, name) with
  | some schema =>
    by_cases hkey : (database, name) = key
    · simp [← hkey, hlookup]
    · simp [hkey]
  | none =>
    cases hresolve : registry.resolve database name with
    | error error => simp [Except.toOption]
    | ok schema =>
      by_cases hkey : (database, name) = key
      · subst hkey
        simp [hlookup, Except.toOption]
      · have hne : (key == (database, name)) = false := beq_false_of_ne (Ne.symm hkey)
        simp [hkey, List.lookup_cons, hne]

/-- A call looks up the table that it is after, and leaves the memo if it does not get so far. -/
theorem snd_answer (memo : TableMemo) (call : MemoCall) :
    (memo.answer call.registry call.lookup).2 =
      call.target?.elim memo fun target =>
        (TableMemo.resolve call.registry memo target.1 target.2).2 := by
  obtain ⟨registry, lookup⟩ := call
  cases lookup with
  | table database name => rfl
  | field text =>
    simp only [answer, TableMemo.resolveField, MemoCall.target?]
    cases FieldPath.ofText text with
    | error error => rfl
    | ok path =>
      simp only
      cases registry.databaseOf path <;> rfl

/-- A call adds the table that it finds, unless the memo has it. -/
theorem lookup_answer (memo : TableMemo) (call : MemoCall) (database name : String) :
    (memo.answer call.registry call.lookup).2.entries.lookup (database, name) =
      (memo.entries.lookup (database, name)).or (call.finds? database name) := by
  rw [snd_answer, MemoCall.finds?]
  cases htarget : call.target? with
  | none => simp
  | some target =>
    obtain ⟨own, table⟩ := target
    simp only [Option.elim_some, lookup_resolve, Option.some.injEq]
    split
    · rename_i heq
      cases heq
      rfl
    · rfl

/-- After calls, the memo has the tables that it had, and those that the calls have found, each as
it was found first. -/
theorem lookup_after (memo : TableMemo) (calls : List MemoCall) (database name : String) :
    (memo.after calls).entries.lookup (database, name) =
      (memo.entries.lookup (database, name)).or
        (calls.findSome? (·.finds? database name)) := by
  induction calls generalizing memo with
  | nil => simp [after]
  | cons call rest ih =>
    rw [after, List.foldl_cons, ← after, ih, lookup_answer, Option.or_assoc, List.findSome?_cons]
    cases call.finds? database name <;> simp

/-! ### Answers -/

/-- A memo that agrees with the registry gives the same answer, and agrees afterwards. -/
theorem Agrees.answer (h : memo.Agrees registry) (lookup : Lookup) :
    (memo.answer registry lookup).1 = registry.answer lookup ∧
      (memo.answer registry lookup).2.Agrees registry := by
  cases lookup with
  | table database name =>
    obtain ⟨hfound, hagrees⟩ := h.resolve database name
    exact ⟨congrArg (Except.map Finding.table) hfound, hagrees⟩
  | field path =>
    obtain ⟨hfound, hagrees⟩ := h.resolveField path
    exact ⟨congrArg (Except.map Finding.field) hfound, hagrees⟩

/-- A memo agrees with a registry as long as that stays as it is. -/
theorem Agrees.after (h : memo.Agrees registry) (lookups : List Lookup) :
    (memo.after (lookups.map (MemoCall.mk registry))).Agrees registry := by
  induction lookups generalizing memo with
  | nil => exact h
  | cons lookup rest ih => exact ih (h.answer lookup).2

/-- As long as the registry stays as it is, every call through the memo of a request is answered as
the registry answers it, be it by an error, whatever was looked up before. When tables are created
and dropped between the calls, a table that a call finds, directly or on the way to a field, is
given from then on as it was found first; and a table that no call has found is given as the registry
has it now, however often it was looked up in vain. -/
theorem transparent :
    (∀ (registry : Registry) (lookups : List Lookup) (lookup : Lookup),
      ((empty.after (lookups.map (MemoCall.mk registry))).answer registry lookup).1 =
        registry.answer lookup) ∧
    (∀ (before : List MemoCall) (call : MemoCall) (later : List MemoCall) (now : Registry)
        (database name : String) (schema : TableSchema),
      (∀ earlier ∈ before, earlier.finds? database name = none) →
      call.finds? database name = some schema →
      ((empty.after (before ++ call :: later)).resolve now database name).1 = .ok schema) ∧
    ∀ (calls : List MemoCall) (now : Registry) (database name : String),
      (∀ call ∈ calls, call.finds? database name = none) →
      ((empty.after calls).resolve now database name).1 = now.resolve database name := by
  refine ⟨fun registry lookups lookup => ?_, ?_, ?_⟩
  · exact (((agrees_empty registry).after lookups).answer lookup).1
  · intro before call later now database name schema hbefore hcall
    have hfirst : (before ++ call :: later).findSome? (·.finds? database name) = some schema := by
      rw [List.findSome?_append, List.findSome?_eq_none_iff.mpr hbefore, List.findSome?_cons, hcall]
      rfl
    rw [fst_resolve, lookup_after, hfirst]
    rfl
  · intro calls now database name hcalls
    rw [fst_resolve, lookup_after, List.findSome?_eq_none_iff.mpr hcalls]
    rfl

end TableMemo

/-! ### Pets at the desk -/

/-- The desk of a hotel with tables of the given names, each of them with one column. -/
def deskRegistry (tables : List (String × String)) : Registry where
  catalogs := [⟨"desk", tables.map fun table =>
    ⟨"desk", table.1, [⟨⟨table.2, .int, false, true, false, none, none⟩, 0⟩]⟩⟩]

/-- The pets are looked up before there are any, then a field that the visitors do not have; after
that the table of visitors is dropped and one of pets is created. -/
theorem TableMemo.transparent_desk :
    let before := deskRegistry [("visitors", "id")]
    let now := deskRegistry [("pets", "id")]
    let vain : MemoCall := ⟨before, .table "desk" "pets"⟩
    let found : MemoCall := ⟨before, .field "visitors.name"⟩
    let visitors : TableSchema :=
      ⟨"desk", "visitors", [⟨⟨"id", .int, false, true, false, none, none⟩, 0⟩]⟩
    before.resolveField "visitors.name" = .error (.columnNotFound "desk.visitors" "name") ∧
      now.resolve "desk" "visitors" = .error (.tableNotFound "desk" "visitors") ∧
      vain.finds? "desk" "visitors" = none ∧ found.finds? "desk" "visitors" = some visitors ∧
      ((empty.after [vain, found]).resolve now "desk" "visitors").1 = .ok visitors ∧
      (∀ call ∈ [vain, found], call.finds? "desk" "pets" = none) ∧
      ((empty.after [vain, found]).resolve now "desk" "pets").1 = now.resolve "desk" "pets" := by
  intro before now vain found visitors
  obtain ⟨-, hstays, hanew⟩ := transparent
  have hvain : vain.finds? "desk" "visitors" = none := rfl
  have hfound : found.finds? "desk" "visitors" = some visitors := rfl
  have hpets : ∀ call ∈ [vain, found], call.finds? "desk" "pets" = none := by decide
  exact ⟨rfl, rfl, hvain, hfound,
    hstays [vain] found [] now "desk" "visitors" visitors
      (List.forall_mem_singleton.mpr hvain) hfound,
    hpets, hanew [vain, found] now "desk" "pets" hpets⟩

end Tabula
