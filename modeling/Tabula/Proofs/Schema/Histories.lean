import Tabula.Proofs.Related
import Tabula.Proofs.Schema.Lawful
import Tabula.Schema.Catalog

/-!
# Histories of catalogs

A catalog takes calls: create and drop a table, describe it, ask whether it is there, list all names.
What a call must give follows from the calls before it and their answers, for a catalog is a map in
the order of insertion: the tables that stand are those that were created and not dropped since, in
the order of their latest creation.
-/

namespace Tabula

/-! ### Calls and answers -/

/-- A call to a catalog. -/
inductive CatalogCall where
  | create (spec : TableSpec)
  | drop (table : String)
  | describe (table : String)
  | contains (table : String)
  | names

/-- What a call gives. -/
inductive CatalogAnswer where
  | done
  | refused (error : SchemaError)
  | described (schema : Option TableSchema)
  | present (found : Bool)
  | listed (names : List String)

/-- A call with its answer. -/
abbrev CatalogEvent := CatalogCall × CatalogAnswer

/-- The answer to a change of tables, and the state after it. What is refused has no effect. -/
def CatalogAnswer.ofChange {A : Type} (before : A) : Except SchemaError A → CatalogAnswer × A
  | .ok after => (.done, after)
  | .error error => (.refused error, before)

namespace Catalog

/-- The answer of a catalog to a call, and the catalog after it. -/
def answer (catalog : Catalog) : CatalogCall → CatalogAnswer × Catalog
  | .create spec => CatalogAnswer.ofChange catalog (catalog.create spec)
  | .drop table => CatalogAnswer.ofChange catalog (catalog.drop table)
  | .describe table => (.described (catalog.describe? table), catalog)
  | .contains table => (.present (catalog.contains table), catalog)
  | .names => (.listed catalog.tableNames, catalog)

/-- The catalog after some calls. -/
def after (catalog : Catalog) (calls : List CatalogCall) : Catalog :=
  calls.foldl (fun catalog call => (catalog.answer call).2) catalog

/-- Calls in their order, each with its answer. -/
def history (catalog : Catalog) : List CatalogCall → List CatalogEvent
  | [] => []
  | call :: rest => (call, (catalog.answer call).1) :: (catalog.answer call).2.history rest

end Catalog

/-! ### What a history says -/

namespace CatalogEvent

/-- The table that the event has created. -/
def created? : CatalogEvent → Option TableSpec
  | (.create spec, .done) => some spec
  | _ => none

/-- The name of the table that the event has dropped. -/
def dropped? : CatalogEvent → Option String
  | (.drop table, .done) => some table
  | _ => none

/-- Whether one of the events has dropped a table of the given name. -/
def dropsIn (table : String) (events : List CatalogEvent) : Bool :=
  events.any (·.dropped? == some table)

/-- The tables that were created and not dropped since, in the order of their creation. -/
def standing : List CatalogEvent → List TableSpec
  | [] => []
  | event :: later =>
    match event.created? with
    | none => standing later
    | some spec =>
      if dropsIn spec.name later then standing later else spec :: standing later

/-- The answer that a call must have after some events in a catalog of the given name. -/
def expected (catalog : String) (events : List CatalogEvent) : CatalogCall → CatalogAnswer
  | .create spec =>
    if spec.name ∈ (standing events).map (·.name) then .refused (.tableExists spec.name)
    else
      match TableSchema.ofSpec catalog spec with
      | .ok _ => .done
      | .error error => .refused error
  | .drop table =>
    if table ∈ (standing events).map (·.name) then .done
    else .refused (.tableNotFound catalog table)
  | .describe table =>
    .described (((standing events).find? (·.name == table)).bind fun spec =>
      (TableSchema.ofSpec catalog spec).toOption)
  | .contains table => .present (decide (table ∈ (standing events).map (·.name)))
  | .names => .listed ((standing events).map (·.name))

variable {event : CatalogEvent} {spec : TableSpec} {table : String}
  {events earlier later : List CatalogEvent}

/-- A table is created by a call to do so that succeeds. -/
theorem created?_eq_some : event.created? = some spec ↔ event = (.create spec, .done) := by
  unfold created?
  split
  · simp
  · rename_i hother
    exact iff_of_false nofun (hother spec)

/-- A table is dropped by a call to do so that succeeds. -/
theorem dropped?_eq_some : event.dropped? = some table ↔ event = (.drop table, .done) := by
  unfold dropped?
  split
  · simp
  · rename_i hother
    exact iff_of_false nofun (hother table)

/-- A name has been dropped if the call to do so is among the events and succeeded. -/
theorem dropsIn_iff : dropsIn table events = true ↔ (.drop table, .done) ∈ events := by
  simp only [dropsIn, List.any_eq_true, beq_iff_eq, dropped?_eq_some, exists_eq_right]

/-- Later events leave the tables that they do not drop, and add their own. -/
theorem standing_append (earlier later : List CatalogEvent) :
    standing (earlier ++ later) =
      (standing earlier).filter (fun spec => !dropsIn spec.name later) ++ standing later := by
  induction earlier with
  | nil => rfl
  | cons event rest ih =>
    cases hcreated : event.created? with
    | none => simp only [List.cons_append, standing, hcreated, ih]
    | some spec =>
      have hdrops : dropsIn spec.name (rest ++ later) =
          (dropsIn spec.name rest || dropsIn spec.name later) := List.any_append
      by_cases hrest : dropsIn spec.name rest = true <;>
        by_cases hlater : dropsIn spec.name later = true <;>
        simp [standing, hcreated, hdrops, hrest, hlater, ih]

/-- A table stands if the first event has created it and no later one has dropped it, or if it was
created later. -/
theorem mem_standing_cons_iff :
    spec ∈ standing (event :: later) ↔
      (event = (.create spec, .done) ∧ (.drop spec.name, .done) ∉ later) ∨ spec ∈ standing later := by
  rw [← created?_eq_some, ← dropsIn_iff, standing]
  cases event.created? with
  | none => simp
  | some own =>
    by_cases hdrops : dropsIn own.name later = true
    · simp only [hdrops, if_true, Option.some.injEq]
      exact ⟨Or.inr, Or.rec (fun hown => absurd (hown.1 ▸ hdrops) hown.2) id⟩
    · simp only [if_neg hdrops, List.mem_cons, Option.some.injEq]
      refine or_congr_left ⟨?_, fun hown => hown.1.symm⟩
      rintro rfl
      exact ⟨rfl, hdrops⟩

/-- A table stands if it was created and not dropped since. -/
theorem mem_standing_iff :
    spec ∈ standing events ↔ ∃ earlier later, events = earlier ++ (.create spec, .done) :: later ∧
      (.drop spec.name, .done) ∉ later := by
  induction events with
  | nil => simp [standing]
  | cons event rest ih =>
    rw [mem_standing_cons_iff, ih]
    constructor
    · rintro (⟨rfl, hrest⟩ | ⟨earlier, later, rfl, hlater⟩)
      · exact ⟨[], rest, rfl, hrest⟩
      · exact ⟨event :: earlier, later, rfl, hlater⟩
    · rintro ⟨earlier, later, hsplit, hlater⟩
      cases earlier with
      | nil =>
        obtain ⟨rfl, rfl⟩ := List.cons.inj hsplit
        exact Or.inl ⟨rfl, hlater⟩
      | cons first earlier =>
        obtain ⟨rfl, rfl⟩ := List.cons.inj hsplit
        exact Or.inr ⟨earlier, later, rfl, hlater⟩

end CatalogEvent

/-! ### Lists and outcomes -/

section Labels

variable {A B : Type} [DecidableEq B] {label : A → B} {items : List A}

/-- The first item that passes is the only one where labels differ. -/
theorem eraseP_eq_filter_of_nodup (hlabels : (items.map label).Nodup) (dropped : B) :
    items.eraseP (label · == dropped) = items.filter (label · != dropped) := by
  induction items with
  | nil => rfl
  | cons head rest ih =>
    rw [List.map_cons, List.nodup_cons] at hlabels
    by_cases hhead : label head = dropped
    · have hrest : ∀ item ∈ rest, (label item != dropped) = true := fun item hitem =>
        bne_iff_ne.mpr fun heq => hlabels.1 (List.mem_map.mpr ⟨item, hitem, heq.trans hhead.symm⟩)
      rw [List.eraseP_cons_of_pos (by simpa using hhead),
        List.filter_cons_of_neg (by simpa using hhead), List.filter_eq_self.mpr hrest]
    · rw [List.eraseP_cons_of_neg (by simpa using hhead),
        List.filter_cons_of_pos (by simpa using hhead), ih hlabels.2]

/-- Where labels differ, searching for the label of an item finds the item. -/
theorem find?_eq_some_iff_of_nodup (hlabels : (items.map label).Nodup) {item : A} {wanted : B} :
    items.find? (label · == wanted) = some item ↔ item ∈ items ∧ label item = wanted := by
  constructor
  · intro h
    have hlabel := List.find?_some h
    exact ⟨List.mem_of_find?_eq_some h, eq_of_beq hlabel⟩
  · rintro ⟨hitem, rfl⟩
    obtain ⟨found, hfound⟩ := Option.isSome_iff_exists.mp
      (List.find?_isSome (p := (label · == label item)).mpr ⟨item, hitem, beq_self_eq_true _⟩)
    have hlabel := List.find?_some hfound
    have heq : found = item :=
      List.inj_on_of_nodup_map hlabels (List.mem_of_find?_eq_some hfound) hitem (eq_of_beq hlabel)
    rw [hfound, heq]

end Labels

/-- An outcome is kept by its optional form if it is a success. -/
theorem toOption_eq_some_iff {E A : Type} {outcome : Except E A} {value : A} :
    outcome.toOption = some value ↔ outcome = .ok value := by
  cases outcome <;> simp [Except.toOption]

/-! ### Catalogs -/

/-- A change that is not made has no effect. -/
theorem CatalogAnswer.ofChange_of_ne_done {A : Type} {before : A} {change : Except SchemaError A}
    (h : (ofChange before change).1 ≠ .done) : (ofChange before change).2 = before := by
  cases change with
  | ok after => exact absurd rfl h
  | error error => rfl

namespace Catalog

open CatalogEvent

/-- The catalog has the tables that stand after some events, in their order. -/
structure Shows (named : String) (events : List CatalogEvent) (catalog : Catalog) : Prop where
  name : catalog.name = named
  tables : List.Forall₂ (fun spec schema => TableSchema.ofSpec named spec = .ok schema)
    (standing events) catalog.tables
  nodup : ((standing events).map (·.name)).Nodup

variable {catalog : Catalog} {name table : String} {events : List CatalogEvent} {spec : TableSpec}
  {event : CatalogEvent} {call : CatalogCall}

/-- A call has no effect unless it changes the tables. -/
theorem answer_of_ne_done (catalog : Catalog) (call : CatalogCall)
    (h : (catalog.answer call).1 ≠ .done) : (catalog.answer call).2 = catalog := by
  cases call with
  | create spec => exact CatalogAnswer.ofChange_of_ne_done h
  | drop table => exact CatalogAnswer.ofChange_of_ne_done h
  | describe table => rfl
  | contains table => rfl
  | names => rfl

/-- A catalog without tables shows no events. -/
theorem shows_empty (name : String) : (empty name).Shows name [] := ⟨rfl, .nil, List.nodup_nil⟩

namespace Shows

/-- The names are those of the tables that stand. -/
theorem tableNames_eq (h : catalog.Shows name events) :
    catalog.tableNames = (standing events).map (·.name) := by
  rw [tableNames, ← List.forall₂_eq_eq_eq, List.forall₂_map_left_iff, List.forall₂_map_right_iff]
  exact (h.tables.imp fun _ _ hschema => (TableSchema.lawful_of_ofSpec hschema).2.2).flip

/-- A table is described as it was created. -/
theorem describe?_eq (h : catalog.Shows name events) (table : String) :
    catalog.describe? table = ((standing events).find? (·.name == table)).bind fun spec =>
      (TableSchema.ofSpec name spec).toOption := by
  rw [describe?]
  have htables := h.tables
  generalize standing events = specs at htables
  generalize catalog.tables = schemas at htables
  induction htables with
  | nil => rfl
  | cons hschema hrest ih =>
    rename_i spec schema specs schemas
    have hname : schema.name = spec.name := (TableSchema.lawful_of_ofSpec hschema).2.2
    by_cases htable : spec.name = table
    · simp [hname, htable, hschema, Except.toOption]
    · simpa [hname, htable] using ih

/-- A table is there if its name is among those of the tables that stand. -/
theorem contains_iff (h : catalog.Shows name events) :
    catalog.contains table = true ↔ table ∈ (standing events).map (·.name) := by
  rw [← h.tableNames_eq, contains, describe?, List.find?_isSome, tableNames, List.mem_map]
  simp only [beq_iff_eq]

/-- An event that neither creates nor drops a table leaves what is shown. -/
theorem append_of_none (h : catalog.Shows name events) (hcreated : event.created? = none)
    (hdropped : event.dropped? = none) : catalog.Shows name (events ++ [event]) := by
  have hstanding : standing (events ++ [event]) = standing events := by
    simp [standing_append, standing, dropsIn, hcreated, hdropped]
  exact ⟨h.name, hstanding ▸ h.tables, hstanding ▸ h.nodup⟩

/-- A created table is shown as the last one. -/
theorem append_created {schema : TableSchema} (h : catalog.Shows name events)
    (hnew : spec.name ∉ (standing events).map (·.name))
    (hschema : TableSchema.ofSpec name spec = .ok schema) :
    Shows name (events ++ [(.create spec, .done)])
      { catalog with tables := catalog.tables ++ [schema] } := by
  have hstanding : standing (events ++ [(.create spec, .done)]) = standing events ++ [spec] := by
    simp [standing_append, standing, dropsIn, created?, dropped?]
  refine ⟨h.name, hstanding ▸ List.rel_append h.tables (.cons hschema .nil), ?_⟩
  rw [hstanding, List.map_append, List.map_singleton, ← List.concat_eq_append]
  exact h.nodup.concat hnew

/-- A dropped table is not shown any more. -/
theorem append_dropped (h : catalog.Shows name events) (table : String) :
    Shows name (events ++ [(.drop table, .done)])
      { catalog with tables := catalog.tables.eraseP (·.name == table) } := by
  have hstanding : standing (events ++ [(.drop table, .done)]) =
      (standing events).filter (·.name != table) := by
    simp [standing_append, standing, dropsIn, created?, dropped?, bne, Bool.beq_comm]
  have hnames : (catalog.tables.map (·.name)).Nodup := by
    have hnodup := h.nodup
    rwa [← h.tableNames_eq] at hnodup
  refine ⟨h.name, ?_, ?_⟩
  -- the catalog drops the first table of the name, the history all of them: names differ
  · rw [hstanding, eraseP_eq_filter_of_nodup hnames]
    refine List.rel_filter (fun spec schema hschema => ?_) h.tables
    simp only [(TableSchema.lawful_of_ofSpec hschema).2.2]
  · rw [hstanding]
    exact h.nodup.sublist (List.filter_sublist.map _)

/-- A call is answered as the events demand, and its event is shown afterwards. -/
theorem answer (h : catalog.Shows name events) (call : CatalogCall) :
    (catalog.answer call).1 = expected name events call ∧
      (catalog.answer call).2.Shows name (events ++ [(call, (catalog.answer call).1)]) := by
  cases call with
  | create spec =>
    by_cases hold : spec.name ∈ (standing events).map (·.name)
    · have hcreate : catalog.create spec = .error (.tableExists spec.name) :=
        if_pos (h.contains_iff.mpr hold)
      simp only [Catalog.answer, hcreate, CatalogAnswer.ofChange, expected, if_pos hold, true_and]
      exact h.append_of_none rfl rfl
    · have hcreate : catalog.create spec = TableSchema.ofSpec name spec >>= fun schema =>
          pure { catalog with tables := catalog.tables ++ [schema] } :=
        h.name ▸ if_neg (mt h.contains_iff.mp hold)
      cases hschema : TableSchema.ofSpec name spec with
      | error error =>
        rw [hschema] at hcreate
        simp only [Catalog.answer, hcreate, expected, if_neg hold, hschema]
        exact ⟨rfl, h.append_of_none rfl rfl⟩
      | ok schema =>
        rw [hschema] at hcreate
        simp only [Catalog.answer, hcreate, expected, if_neg hold, hschema]
        exact ⟨rfl, h.append_created hold hschema⟩
  | drop table =>
    by_cases hold : table ∈ (standing events).map (·.name)
    · simp only [Catalog.answer, Catalog.drop, if_pos (h.contains_iff.mpr hold), expected,
        if_pos hold]
      exact ⟨rfl, h.append_dropped table⟩
    · simp only [Catalog.answer, Catalog.drop, if_neg (mt h.contains_iff.mp hold), expected,
        if_neg hold, h.name]
      exact ⟨rfl, h.append_of_none rfl rfl⟩
  | describe table =>
    exact ⟨congrArg _ (h.describe?_eq table), h.append_of_none rfl rfl⟩
  | contains table =>
    refine ⟨congrArg CatalogAnswer.present ?_, h.append_of_none rfl rfl⟩
    rw [Bool.eq_iff_iff, h.contains_iff, decide_eq_true_iff]
  | names => exact ⟨congrArg _ h.tableNames_eq, h.append_of_none rfl rfl⟩

/-- After some calls their events are shown. -/
theorem after (h : catalog.Shows name events) (calls : List CatalogCall) :
    (catalog.after calls).Shows name (events ++ catalog.history calls) := by
  induction calls generalizing catalog events with
  | nil => rwa [history, List.append_nil]
  | cons call rest ih =>
    have hrest := ih (h.answer call).2
    rwa [List.append_assoc] at hrest

/-- Every call of a history is answered as the events before it demand. -/
theorem expected_of_history (h : catalog.Shows name events) {calls : List CatalogCall}
    {earlier later : List CatalogEvent} {answer : CatalogAnswer}
    (hhistory : catalog.history calls = earlier ++ (call, answer) :: later) :
    answer = expected name (events ++ earlier) call := by
  induction calls generalizing catalog events earlier with
  | nil => simp [history] at hhistory
  | cons first rest ih =>
    obtain ⟨hanswer, hnext⟩ := h.answer first
    cases earlier with
    | nil =>
      rw [history, List.nil_append, List.cons.injEq, Prod.mk.injEq] at hhistory
      obtain ⟨⟨rfl, rfl⟩, -⟩ := hhistory
      rw [hanswer, List.append_nil]
    | cons event earlier =>
      rw [history, List.cons_append, List.cons.injEq] at hhistory
      obtain ⟨rfl, hrest⟩ := hhistory
      rw [ih hnext hrest, List.append_assoc, List.singleton_append]

end Shows

end Catalog

end Tabula
