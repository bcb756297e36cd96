import Tabula.Proofs.Service.Integrity
import Tabula.Proofs.Table.Values

/-!
# What holds of all values in a service

A property of the values of columns holds of all values in the tables of a service, after any
requests, if it holds of what the rules keep of the records that are written and of what columns are
filled with. Rolling back brings back rows of before.

The length of texts is such a property, with one exception: the rules check it, but a default that
is longer than its column takes is accepted when the table is created, and it fills the column of
every row for which nothing else is given.
-/

namespace Tabula

variable {P : ColumnSpec → Value → Prop}

/-- All tables hold only values with the property. -/
def Engine.HoldsOnly (engine : Engine) (P : ColumnSpec → Value → Prop) : Prop :=
  engine.ForAllTables fun _ table => table.HoldsOnly P

/-- The values that a call writes have the property. -/
def TransactionCall.WritesOnly (engine : Engine) (P : ColumnSpec → Value → Prop) :
    TransactionCall → Prop
  | .insert statement =>
    ∀ table, engine.table statement.database statement.table = .ok table →
      table.schema.GivesOnly P statement.values
  | .update statement =>
    ∀ table, engine.table statement.database statement.table = .ok table →
      table.schema.GivesOnly P statement.values
  | .delete _ => True

/-- What the rules of columns keep of the records of a request has the property. -/
def ServiceRequest.KeepsOnly (P : ColumnSpec → Value → Prop) : ServiceRequest → Prop
  | .save request =>
    ∀ item ∈ request.items, ∀ (schema : TableSchema) (column : Column) (number : Nat) kept,
      (FieldRule.of schema column).apply number item = .ok (some kept) →
        P column.toColumnSpec kept.2
  | _ => True

/-! ### Calls -/

/-- A call that writes values with the property keeps it, as long as the schemas stay. -/
theorem TransactionCall.WritesOnly.keeps {before engine : Engine} {call : TransactionCall}
    (h : call.WritesOnly before P) (hrel : Engine.Related Table.SameSchema before engine) :
    call.Keeps engine fun _ table => table.HoldsOnly P where
  insert statement table hcall hfound hholds := by
    subst hcall
    obtain ⟨old, hold, hschema⟩ := Engine.schema_of_related hrel hfound
    exact hholds.insert (hschema ▸ h old hold)
  update statement table position old after hcall hfound hupdate hholds := by
    subst hcall
    obtain ⟨earlier, hearlier, hschema⟩ := Engine.schema_of_related hrel hfound
    exact hholds.update (hschema ▸ h earlier hearlier) hupdate
  part _ _ _ hpart hholds := hholds.sublist hpart

/-- What tables hold is a matter of schemas and rows. -/
theorem Engine.HoldsOnly.of_sameRows {engine after : Engine} (h : engine.HoldsOnly P)
    (hrel : Related Table.SameRows engine after) : after.HoldsOnly P := by
  refine ForAllTables.of_related h hrel fun database old new hsame hold => ?_
  obtain ⟨hschema, hrows⟩ := hsame
  refine ⟨hschema ▸ hold.lawful, hschema ▸ hold.fills, ?_⟩
  rw [hschema, hrows]
  exact hold.rows

/-! ### Requests -/

/-- If what the rules keep of a record has the property, then the values of a statement have it. -/
theorem RecordRules.givesOnly_of_validate {schema : TableSchema} (hlawful : schema.Lawful)
    {number : Nat} {item : WriteItem} {values : List (ColumnRef × Value)}
    (hkeeps : ∀ (column : Column) kept,
      (FieldRule.of schema column).apply number item = .ok (some kept) →
        P column.toColumnSpec kept.2)
    (h : (RecordRules.of schema).validate number item = .ok values) :
    schema.GivesOnly P values := by
  intro given hgiven column hfound
  obtain ⟨own, hown, -, happly⟩ := RecordRules.exists_apply_of_validate h hgiven
  rw [FieldRule.column_of_apply happly, FieldRule.of, ColumnRef.of, hlawful.column?_name hown,
    Option.some.injEq] at hfound
  rw [← hfound]
  exact hkeeps own given happly

namespace Service

variable {service start : Service}

/-- If what the rules keep has the property, then a call of the request writes values with it. -/
theorem LeadsTo.writesOnly {request : ServiceRequest} {call : TransactionCall}
    (hleads : service.LeadsTo request call) (h : service.engine.Sound)
    (hkeeps : request.KeepsOnly P) : call.WritesOnly service.engine P := by
  cases hleads with
  | delete request plan => trivial
  | write compiled mem =>
    obtain ⟨table, htable, key, kept, hkept, rfl, -⟩ := statements_eq_ok compiled
    obtain ⟨hdatabase, hsound⟩ := Engine.ForAllTables.of_table h htable
    obtain ⟨values, hvalues, rfl⟩ := List.mem_map.mp mem
    obtain ⟨number, item, hitem, hvalidate⟩ :=
      RecordRules.exists_item_of_mem_kept hkept hvalues
    have hgives := RecordRules.givesOnly_of_validate hsound.lawful
      (fun column kept => hkeeps item hitem table.schema column number kept) hvalidate
    have hown : ∀ found, service.engine.table table.schema.database table.schema.name =
        .ok found → found.schema.GivesOnly P values := by
      intro found hfound
      rw [hdatabase, Engine.name_of_table htable, htable] at hfound
      cases hfound
      exact hgives
    cases key with
    | none => exact hown
    | some key => exact hown

/-- A request keeps the property if what the rules keep of its records has it. -/
theorem holdsOnly_after (hsound : service.engine.Sound) (h : service.engine.HoldsOnly P)
    {request : ServiceRequest} (hkeeps : request.KeepsOnly P) :
    (service.after request).engine.HoldsOnly P := by
  rcases service.after_cases request with hsame | ⟨calls, hleads, -, hcommit | hrollback⟩
  · rw [hsame]
    exact h
  · rw [hcommit]
    exact Transaction.forAllTables_run h fun call hcall engine hrel =>
      ((hleads call hcall).writesOnly hsound hkeeps).keeps hrel
  · rw [hrollback]
    exact h.of_sameRows (Transaction.sameRows_rollback_run (.begin service.engine) calls)

/-- A run of requests keeps the property if what the rules keep of their records has it. -/
theorem holdsOnly_run (hsound : start.engine.Sound) (h : start.engine.HoldsOnly P)
    {requests : List ServiceRequest} (hkeeps : ∀ request ∈ requests, request.KeepsOnly P) :
    (start.run requests).engine.HoldsOnly P := by
  induction requests generalizing start with
  | nil => exact h
  | cons request rest ih =>
    obtain ⟨hfirst, hrest⟩ := List.forall_mem_cons.mp hkeeps
    exact ih (integrity_after hsound request).1 (holdsOnly_after hsound h hfirst) hrest

end Service

/-! ### Lengths of texts -/

/-- A text is no longer than the column takes, or it is the default of the column. -/
def ColumnSpec.Bounds (spec : ColumnSpec) : Value → Prop
  | .text text => ∀ maxLength, spec.maxLength = some maxLength →
      text.length ≤ maxLength.toNat ∨ spec.default = some (.text text)
  | _ => True

/-- The rule of a column keeps no text that is longer than the column takes. -/
theorem FieldRule.bounds_of_apply {schema : TableSchema} {column : Column} {number : Nat}
    {item : WriteItem} {kept : ColumnRef × Value}
    (h : (FieldRule.of schema column).apply number item = .ok (some kept)) :
    column.Bounds kept.2 := by
  obtain ⟨-, -, -, hshort, -, -⟩ := FieldRule.apply_eq_some h
  generalize kept.2 = value at hshort ⊢
  cases value with
  | text text =>
    exact fun maxLength hmax => Or.inl (FieldRule.exceeds_text_eq_none_iff.mp hshort maxLength hmax)
  | _ => trivial

/-- What a column is filled with is the default, or no text. -/
theorem ColumnSpec.fillsOnly_bounds (spec : ColumnSpec) : spec.FillsOnly ColumnSpec.Bounds where
  number _ := trivial
  default value hdefault := by
    cases value with
    | text text => exact fun _ _ => Or.inr hdefault
    | _ => trivial
  null := trivial

namespace Service

/-- After any requests to a service that has been set up, every text that a table holds in a column
of bounded length is no longer than that, or it is the default of the column. -/
theorem stored_texts_bounded {start : Service} (h : start.engine.SetUp)
    (requests : List ServiceRequest) :
    ∀ database ∈ (start.run requests).engine.databases, ∀ table ∈ database.tables,
      ∀ row ∈ table.rows, ∀ column ∈ table.schema.columns, ∀ maxLength text,
        column.maxLength = some maxLength → row.at column = .text text →
          text.length ≤ maxLength.toNat ∨ column.default = some (.text text) := by
  have hstart : start.engine.HoldsOnly ColumnSpec.Bounds := by
    intro database hdatabase table htable
    obtain ⟨hlawful, -, hempty⟩ := h.fresh database hdatabase table htable
    refine ⟨hlawful, fun column _ => column.fillsOnly_bounds, ?_⟩
    rw [hempty]
    exact List.forall_mem_nil _
  have hkeeps : ∀ request ∈ requests, request.KeepsOnly ColumnSpec.Bounds := by
    intro request _
    cases request with
    | save request => exact fun _ _ _ _ _ _ => FieldRule.bounds_of_apply
    | _ => trivial
  have hrun := holdsOnly_run h.sound hstart hkeeps
  intro database hdatabase table htable row hrow column hcolumn maxLength text hmax htext
  have hbounds := (hrun database hdatabase table htable).rows row hrow column hcolumn
  rw [htext] at hbounds
  exact hbounds maxLength hmax

end Service

/-! ### A hotel -/

/-- The names of two guests who come are no longer than the column takes. -/
theorem Service.stored_texts_bounded_guests :
    let service := (guestService [] 1).run [.save guestArrivals]
    (guestEngine [] 1).SetUp ∧
      service.engine.databases = [⟨"hotel", [⟨guestSchema,
        [[.int 1, .text "Ann", .int 1], [.int 2, .text "Bob", .int 3]], 3⟩]⟩] ∧
      "Bob".length ≤ (20 : UInt32).toNat := by
  intro service
  have hdatabases : service.engine.databases = [⟨"hotel", [⟨guestSchema,
      [[.int 1, .text "Ann", .int 1], [.int 2, .text "Bob", .int 3]], 3⟩]⟩] := by decide +kernel
  have hbounded := @stored_texts_bounded (guestService [] 1) setUp_guestEngine
    [.save guestArrivals] _ (hdatabases ▸ List.mem_singleton_self _) _ (List.mem_singleton_self _)
    _ (List.mem_cons_of_mem _ (List.mem_singleton_self _))
    ⟨⟨"name", .text, false, false, false, none, some 20⟩, 1⟩
    (List.mem_cons_of_mem _ List.mem_cons_self) 20 "Bob" rfl rfl
  exact ⟨setUp_guestEngine, hdatabases, hbounded.resolve_right nofun⟩

/-- Suites have codes of three characters, and a longer one by default. -/
def suiteSchema : TableSchema where
  database := "hotel"
  name := "suites"
  columns := [
    ⟨⟨"id", .int, false, true, true, none, none⟩, 0⟩,
    ⟨⟨"code", .text, false, false, false, some (.text "abcdef"), some 3⟩, 1⟩]

/-- A hotel with the given suites. -/
def suiteEngine (suites : List Row) (nextId : Int64) : Engine where
  databases := [⟨"hotel", [{ schema := suiteSchema, rows := suites, nextId := nextId }]⟩]
  transactions := 0

/-- The settings of the suites are accepted, and a suite for which no code is given has one that is
longer than the column takes. -/
theorem Service.stored_text_unbounded_suites :
    let settings : EngineSettings :=
      ⟨[⟨"hotel", [⟨"suites", suiteSchema.columns.map (·.toColumnSpec)⟩]⟩]⟩
    let service := (Service.mk (suiteEngine [] 1) .standard).run
      [.save (.insert "hotel" "suites" [[]])]
    settings.build = .ok (suiteEngine [] 1) ∧
      service.engine.databases = (suiteEngine [[.int 1, .text "abcdef"]] 2).databases ∧
      ¬ ∀ database ∈ service.engine.databases, ∀ table ∈ database.tables,
        ∀ row ∈ table.rows, ∀ column ∈ table.schema.columns, ∀ maxLength text,
          column.maxLength = some maxLength → row.at column = .text text →
            text.length ≤ maxLength.toNat := by
  intro settings service
  have hdatabases : service.engine.databases =
      (suiteEngine [[.int 1, .text "abcdef"]] 2).databases := by decide +kernel
  refine ⟨rfl, hdatabases, fun hbounded => ?_⟩
  rw [hdatabases] at hbounded
  have hlength := hbounded _ (List.mem_singleton_self _) _ (List.mem_singleton_self _)
    _ (List.mem_singleton_self _)
    ⟨⟨"code", .text, false, false, false, some (.text "abcdef"), some 3⟩, 1⟩
    (List.mem_cons_of_mem _ (List.mem_singleton_self _)) 3 "abcdef" rfl rfl
  exact absurd hlength (by decide)

end Tabula
