import Tabula.Proofs.Engine.SetUp

/-!
# Creating and dropping tables

To create or to drop a table changes one database in its place. Both go together with putting
another state of a table in its place: it makes no difference which of the two is done first, unless
they are about one and the same table. And both do the same to engines whose tables are related.
-/

namespace Tabula

/-- A change of the tables that an engine has. -/
inductive Reshaping where
  | create (database : String) (spec : TableSpec)
  | drop (database table : String)

namespace Reshaping

/-- The database that gets or loses a table. -/
def database : Reshaping → String
  | create database _ => database
  | drop database _ => database

/-- The name of the table that is created or dropped. -/
def table : Reshaping → String
  | create _ spec => spec.name
  | drop _ table => table

/-- The database with the table, or without it. -/
def apply (found : Database) : Reshaping → Except SchemaError Database
  | create _ spec => found.create spec
  | drop _ table => found.drop table

end Reshaping

namespace Engine

/-- Creates or drops a table. -/
def reshaped? (engine : Engine) : Reshaping → Except SchemaError Engine
  | .create database spec => engine.createTable database spec
  | .drop database table => engine.dropTable database table

/-- The engine after a table is created or dropped. What is refused has no effect. -/
def reshaped (engine : Engine) (reshaping : Reshaping) : Engine :=
  match engine.reshaped? reshaping with
  | .ok after => after
  | .error _ => engine

/-- In each database the names of the tables differ. -/
def NamesDiffer (engine : Engine) : Prop :=
  ∀ database ∈ engine.databases, (database.tables.map (·.schema.name)).Nodup

end Engine

/-! ### Lists -/

section ReplaceFirst

variable {A : Type} {test other : A → Bool} {new new' item : A} {items : List A}

/-- An item at the end that does not pass is not replaced. -/
theorem replaceFirst_append_singleton (hitem : test item = false) :
    replaceFirst test new (items ++ [item]) = replaceFirst test new items ++ [item] := by
  induction items with
  | nil => simp [replaceFirst, hitem]
  | cons head rest ih =>
    by_cases hhead : test head = true
    · simp [replaceFirst, hhead]
    · simp [replaceFirst, hhead, ih]

/-- Replacements of different items can be made in either order. -/
theorem replaceFirst_comm (hnew : test new = true) (hnew' : other new' = true)
    (hdisjoint : ∀ item, test item = true → other item = false) :
    replaceFirst test new (replaceFirst other new' items) =
      replaceFirst other new' (replaceFirst test new items) := by
  have hnew'' : test new' = false := by
    rw [← Bool.not_eq_true]
    intro htest
    rw [hdisjoint new' htest] at hnew'
    cases hnew'
  induction items with
  | nil => rfl
  | cons head rest ih =>
    by_cases hhead : test head = true
    · simp [replaceFirst, hhead, hdisjoint head hhead, hdisjoint new hnew]
    · by_cases hother : other head = true
      · simp [replaceFirst, hhead, hother, hnew'']
      · simp [replaceFirst, hhead, hother, ih]

/-- To erase a replaced item is to erase the item. -/
theorem eraseP_replaceFirst_self (hnew : test new = true) :
    (replaceFirst test new items).eraseP test = items.eraseP test := by
  induction items with
  | nil => rfl
  | cons head rest ih =>
    by_cases hhead : test head = true
    · simp [replaceFirst, hhead, hnew]
    · simp [replaceFirst, hhead, ih]

/-- An item can be erased before or after another one is replaced. -/
theorem eraseP_replaceFirst_of_disjoint (hnew : test new = true)
    (hdisjoint : ∀ item, test item = true → other item = false) :
    (replaceFirst test new items).eraseP other = replaceFirst test new (items.eraseP other) := by
  induction items with
  | nil => rfl
  | cons head rest ih =>
    by_cases hhead : test head = true
    · simp [replaceFirst, hhead, hdisjoint head hhead, hdisjoint new hnew]
    · by_cases hother : other head = true
      · simp [replaceFirst, hhead, hother]
      · simp [replaceFirst, hhead, hother, ih]

/-- A search that passes over an erased item is not affected. -/
theorem find?_eraseP_of_disjoint (hdisjoint : ∀ item, test item = true → other item = false) :
    (items.eraseP test).find? other = items.find? other := by
  induction items with
  | nil => rfl
  | cons head rest ih =>
    by_cases hhead : test head = true
    · rw [List.eraseP_cons_of_pos hhead, List.find?_cons_of_neg (by simp [hdisjoint head hhead])]
    · rw [List.eraseP_cons_of_neg hhead, List.find?_cons, List.find?_cons, ih]

/-- Where the items that pass have one label, and labels differ, no item passes after the first one
is erased. -/
theorem not_of_mem_eraseP {B : Type} {label : A → B} (hlabels : (items.map label).Nodup)
    (htest : ∀ a b, test a = true → test b = true → label a = label b) :
    ∀ item ∈ items.eraseP test, test item ≠ true := by
  induction items with
  | nil => simp
  | cons head rest ih =>
    rw [List.map_cons, List.nodup_cons] at hlabels
    by_cases hhead : test head = true
    · rw [List.eraseP_cons_of_pos hhead]
      intro item hitem hpass
      exact hlabels.1 (List.mem_map.mpr ⟨item, hitem, htest item head hpass hhead⟩)
    · rw [List.eraseP_cons_of_neg hhead]
      exact List.forall_mem_cons.mpr ⟨hhead, ih hlabels.2⟩

variable {R : A → A → Prop} {others : List A}

/-- Lists related item by item stay so when the first items that pass are erased. -/
theorem forall₂_eraseP (h : List.Forall₂ R items others)
    (htest : ∀ a b, R a b → test a = test b) :
    List.Forall₂ R (items.eraseP test) (others.eraseP test) := by
  induction h with
  | nil => exact List.Forall₂.nil
  | cons hitem hrest ih =>
    rename_i a b _ _
    by_cases ha : test a = true
    · rw [List.eraseP_cons_of_pos ha, List.eraseP_cons_of_pos (htest a b hitem ▸ ha)]
      exact hrest
    · rw [List.eraseP_cons_of_neg ha, List.eraseP_cons_of_neg (htest a b hitem ▸ ha)]
      exact List.Forall₂.cons hitem ih

end ReplaceFirst

/-! ### One database -/

namespace Reshaping

variable {reshaping : Reshaping} {database after : Database} {name : String} {table : Table}

/-- The database keeps its name. -/
theorem name_of_apply (h : reshaping.apply database = .ok after) : after.name = database.name := by
  cases reshaping with
  | create own spec =>
    obtain ⟨schema, -, -, -, rfl⟩ := Database.create_appends h
    rfl
  | drop own name =>
    obtain ⟨-, rfl⟩ := Database.drop_erases h
    rfl

/-- Tables of other names are found as before. -/
theorem find?_of_apply (h : reshaping.apply database = .ok after) (hname : name ≠ reshaping.table) :
    after.find? name = database.find? name := by
  cases reshaping with
  | create own spec =>
    obtain ⟨schema, -, hschema, -, rfl⟩ := Database.create_appends h
    have hother : (schema.name == name) = false := by
      rw [hschema]
      exact beq_false_of_ne hname.symm
    simp [Database.find?, List.find?_append, Table.empty, hother]
  | drop own dropped =>
    obtain ⟨-, rfl⟩ := Database.drop_erases h
    exact find?_eraseP_of_disjoint fun item hitem => by
      rw [eq_of_beq hitem]
      exact beq_false_of_ne hname.symm

/-- Where names differ, a table that is dropped is not there any more. -/
theorem find?_of_drop (hnames : (database.tables.map (·.schema.name)).Nodup)
    (h : database.drop name = .ok after) : after.find? name = none := by
  obtain ⟨-, rfl⟩ := Database.drop_erases h
  refine List.find?_eq_none.mpr fun item hitem hname => ?_
  exact not_of_mem_eraseP hnames (fun a b ha hb => (eq_of_beq ha).trans (eq_of_beq hb).symm)
    item hitem hname

/-- Another state of a table can be put before or after a table of another name is created or
dropped. -/
theorem apply_put (h : reshaping.apply database = .ok after)
    (hname : table.schema.name ≠ reshaping.table) :
    reshaping.apply (database.put table) = .ok (after.put table) := by
  cases reshaping with
  | create own spec =>
    obtain ⟨schema, hschema, hnew, hfind, rfl⟩ := Database.create_appends h
    have hfind' : (database.put table).find? spec.name = none :=
      (Database.find?_put_of_ne hname.symm).trans hfind
    have hother : ((Table.empty schema).schema.name == table.schema.name) = false := by
      rw [Table.empty, hnew]
      exact beq_false_of_ne hname.symm
    rw [apply, Database.create, hfind', if_neg (by simp)]
    refine bind_eq_ok_iff.mpr ⟨schema, hschema, ?_⟩
    have hput : replaceFirst (·.schema.name == table.schema.name) table
        (database.tables ++ [.empty schema]) =
          replaceFirst (·.schema.name == table.schema.name) table database.tables ++
            [.empty schema] := replaceFirst_append_singleton hother
    simp only [Database.put, hput]
    rfl
  | drop own dropped =>
    obtain ⟨hfound, rfl⟩ := Database.drop_erases h
    rw [← @Database.find?_put_of_ne database dropped table hname.symm] at hfound
    have herase : (database.put table).tables.eraseP (·.schema.name == dropped) =
        replaceFirst (·.schema.name == table.schema.name) table
          (database.tables.eraseP (·.schema.name == dropped)) :=
      eraseP_replaceFirst_of_disjoint (beq_self_eq_true _) fun item hitem => by
        rw [eq_of_beq hitem]
        exact beq_false_of_ne hname
    rw [apply, Database.drop, if_pos hfound, herase]
    rfl

/-- It makes no difference in which state a table is dropped. -/
theorem drop_put (h : database.drop name = .ok after) (hname : table.schema.name = name) :
    (database.put table).drop name = .ok after := by
  obtain ⟨hfound, rfl⟩ := Database.drop_erases h
  subst hname
  obtain ⟨old, hold⟩ := Option.isSome_iff_exists.mp hfound
  have herase : (database.put table).tables.eraseP (·.schema.name == table.schema.name) =
      database.tables.eraseP (·.schema.name == table.schema.name) :=
    eraseP_replaceFirst_self (beq_self_eq_true _)
  have hfound' : ((database.put table).find? table.schema.name).isSome = true := by
    rw [Database.find?_put_self hold, Option.isSome_some]
  rw [Database.drop, if_pos hfound', herase]
  rfl

/-- A table is created or dropped in databases with related tables alike. -/
theorem apply_cases {R : Table → Table → Prop} (hrefl : ∀ table, R table table)
    (hname : ∀ old new, R old new → new.schema.name = old.schema.name) {old new : Database}
    (hsame : new.name = old.name) (htables : List.Forall₂ R old.tables new.tables)
    (reshaping : Reshaping) :
    (∃ error, reshaping.apply old = .error error ∧ reshaping.apply new = .error error) ∨
    ∃ old' new', reshaping.apply old = .ok old' ∧ reshaping.apply new = .ok new' ∧
      new'.name = old'.name ∧ List.Forall₂ R old'.tables new'.tables := by
  have hfind (name : String) : (new.find? name).isSome = (old.find? name).isSome := by
    have hrel : Option.Rel R (old.find? name) (new.find? name) :=
      rel_find? htables fun _ _ hpair => by rw [hname _ _ hpair]
    generalize old.find? name = before at hrel
    generalize new.find? name = after at hrel
    cases hrel <;> rfl
  cases reshaping with
  | create own spec =>
    simp only [apply, Database.create, hfind, hsame]
    split
    · exact Or.inl ⟨_, rfl, rfl⟩
    · cases TableSchema.ofSpec old.name spec with
      | error error => exact Or.inl ⟨error, rfl, rfl⟩
      | ok schema =>
        refine Or.inr ⟨_, _, rfl, rfl, rfl, ?_⟩
        exact List.rel_append htables (.cons (hrefl (.empty schema)) .nil)
  | drop own dropped =>
    simp only [apply, Database.drop, hfind, hsame]
    split
    · refine Or.inr ⟨_, _, rfl, rfl, rfl, ?_⟩
      exact forall₂_eraseP htables fun _ _ hpair => by rw [hname _ _ hpair]
    · exact Or.inl ⟨_, rfl, rfl⟩

end Reshaping

/-! ### All databases -/

namespace Engine

variable {engine after : Engine} {reshaping : Reshaping} {database name : String} {table : Table}

/-- A database that was put under its name is found there. -/
theorem find?_put_of_name {found changed : Database} (h : engine.find? database = some found)
    (hname : changed.name = found.name) : (engine.put changed).find? database = some changed := by
  have hown := name_of_find? h
  subst hown
  simp only [Engine.find?, put, hname]
  exact find?_replaceFirst_self (by simp [hname]) h

/-- Of two states of one database that are put, the second counts. -/
theorem put_put_of_name {first second : Database} (h : first.name = second.name) :
    (engine.put first).put second = engine.put second := by
  simp only [put, h]
  rw [replaceFirst_replaceFirst (by simp [h])]

/-- Two databases can be put in either order. -/
theorem put_put_of_ne {first second : Database} (h : first.name ≠ second.name) :
    (engine.put first).put second = (engine.put second).put first := by
  have hcomm : replaceFirst (·.name == second.name) second
      (replaceFirst (·.name == first.name) first engine.databases) =
        replaceFirst (·.name == first.name) first
          (replaceFirst (·.name == second.name) second engine.databases) :=
    replaceFirst_comm (beq_self_eq_true _) (beq_self_eq_true _) fun item hitem => by
      rw [eq_of_beq hitem]
      exact beq_false_of_ne h.symm
  simp only [put, hcomm]

/-- A database is looked up, changed and put in its place. -/
theorem reshaped?_eq_bind (engine : Engine) (reshaping : Reshaping) :
    engine.reshaped? reshaping = engine.database reshaping.database >>= fun found =>
      reshaping.apply found >>= fun changed => pure (engine.put changed) := by
  cases reshaping <;> rfl

/-- What is created or dropped changes one database. -/
theorem reshaped?_eq_ok_iff :
    engine.reshaped? reshaping = .ok after ↔
      ∃ found changed, engine.find? reshaping.database = some found ∧
        reshaping.apply found = .ok changed ∧ after = engine.put changed := by
  rw [reshaped?_eq_bind, bind_eq_ok_iff]
  constructor
  · rintro ⟨found, hfound, h⟩
    obtain ⟨changed, hchanged, h⟩ := bind_eq_ok_iff.mp h
    cases h
    refine ⟨found, changed, ?_, hchanged, rfl⟩
    unfold Engine.database at hfound
    split at hfound
    · rename_i hfind
      cases hfound
      exact hfind
    · cases hfound
  · rintro ⟨found, changed, hfound, hchanged, rfl⟩
    refine ⟨found, ?_, bind_eq_ok_iff.mpr ⟨changed, hchanged, rfl⟩⟩
    simp only [Engine.database, hfound]

/-- Other tables are found as before. -/
theorem table_reshaped (h : engine.reshaped? reshaping = .ok after)
    (hother : ¬ (database = reshaping.database ∧ name = reshaping.table)) :
    after.table database name = engine.table database name := by
  obtain ⟨found, changed, hfound, hchanged, rfl⟩ := reshaped?_eq_ok_iff.mp h
  have hname := Reshaping.name_of_apply hchanged
  by_cases hdatabase : database = reshaping.database
  · subst hdatabase
    have htable := Reshaping.find?_of_apply hchanged fun heq => hother ⟨rfl, heq⟩
    rw [table_eq_find? (find?_put_of_name hfound hname), table_eq_find? hfound, Database.table,
      Database.table, htable, hname]
  · have hne : database ≠ changed.name := by
      rw [hname, name_of_find? hfound]
      exact hdatabase
    simp only [Engine.table, Engine.database, find?_put_of_ne hne]

/-- A table that is dropped is not found any more. -/
theorem table_dropped (hnames : engine.NamesDiffer)
    (h : engine.reshaped? (.drop database name) = .ok after) (table : Table) :
    after.table database name ≠ .ok table := by
  obtain ⟨found, changed, hfound, hchanged, rfl⟩ := reshaped?_eq_ok_iff.mp h
  have hgone := Reshaping.find?_of_drop (hnames found (List.mem_of_find?_eq_some hfound)) hchanged
  have hput : (engine.put changed).find? database = some changed :=
    find?_put_of_name hfound (Reshaping.name_of_apply hchanged)
  rw [table_eq_find? hput, Database.table, hgone]
  rintro ⟨⟩

/-- Another state of a table can be put before or after another table is created or dropped. -/
theorem reshaped?_putTable (h : engine.reshaped? reshaping = .ok after)
    (hother : ¬ (database = reshaping.database ∧ table.schema.name = reshaping.table)) :
    (engine.putTable database table).reshaped? reshaping = .ok (after.putTable database table) := by
  obtain ⟨found, changed, hfound, hchanged, rfl⟩ := reshaped?_eq_ok_iff.mp h
  have hname := Reshaping.name_of_apply hchanged
  by_cases hdatabase : database = reshaping.database
  · subst hdatabase
    have hput := Reshaping.apply_put hchanged fun heq => hother ⟨rfl, heq⟩
    rw [putTable_eq_put hfound, putTable_eq_put (find?_put_of_name hfound hname)]
    refine reshaped?_eq_ok_iff.mpr ⟨found.put table, changed.put table, find?_put_self hfound,
      hput, ?_⟩
    rw [put_put_of_name (by rw [Database.put_name]), put_put_of_name (by
      rw [Database.put_name, Database.put_name, hname])]
  · have hchangedName : changed.name = reshaping.database := hname.trans (name_of_find? hfound)
    cases hother : engine.find? database with
    | none =>
      have hstill : (engine.put changed).find? database = none := by
        rw [find?_put_of_ne (by rw [hchangedName]; exact hdatabase), hother]
      rw [putTable, putTable, hother, hstill]
      exact h
    | some other =>
      have hotherName := name_of_find? hother
      have hstill : (engine.put changed).find? database = some other := by
        rw [find?_put_of_ne (by rw [hchangedName]; exact hdatabase), hother]
      have hfound' : (engine.put (other.put table)).find? reshaping.database = some found := by
        rw [find?_put_of_ne (by rw [Database.put_name, hotherName]; exact Ne.symm hdatabase),
          hfound]
      rw [putTable_eq_put hother, putTable_eq_put hstill]
      refine reshaped?_eq_ok_iff.mpr ⟨found, changed, hfound', hchanged, put_put_of_ne ?_⟩
      rw [Database.put_name, hotherName, hchangedName]
      exact Ne.symm hdatabase

/-- It makes no difference in which state a table is dropped. -/
theorem dropped?_putTable (h : engine.reshaped? (.drop database name) = .ok after)
    (hname : table.schema.name = name) :
    (engine.putTable database table).reshaped? (.drop database name) = .ok after := by
  obtain ⟨found, changed, hfound, hchanged, rfl⟩ := reshaped?_eq_ok_iff.mp h
  have hput : engine.putTable database table = engine.put (found.put table) :=
    putTable_eq_put hfound
  rw [hput]
  refine reshaped?_eq_ok_iff.mpr
    ⟨found.put table, changed, find?_put_self hfound, Reshaping.drop_put hchanged hname, ?_⟩
  rw [put_put_of_name]
  rw [Database.put_name, Reshaping.name_of_apply hchanged]

/-! ### Names and related engines -/

/-- Names still differ after a table is created or dropped. -/
theorem NamesDiffer.reshaped? (h : engine.NamesDiffer)
    (hreshaped : engine.reshaped? reshaping = .ok after) : after.NamesDiffer := by
  obtain ⟨found, changed, hfound, hchanged, rfl⟩ := reshaped?_eq_ok_iff.mp hreshaped
  have hown := h found (List.mem_of_find?_eq_some hfound)
  intro database hdatabase
  rcases eq_or_mem_of_mem_replaceFirst hdatabase with rfl | hmem
  · cases reshaping with
    | create own spec =>
      obtain ⟨schema, -, hname, hnew, rfl⟩ := Database.create_appends hchanged
      rw [List.map_append, List.nodup_append]
      refine ⟨hown, List.nodup_singleton _, fun earlier hearlier later hlater => ?_⟩
      obtain ⟨table, htable, rfl⟩ := List.mem_map.mp hearlier
      rw [List.map_singleton, List.mem_singleton] at hlater
      rw [hlater, Table.empty, hname]
      simpa using List.find?_eq_none.mp hnew table htable
    | drop own dropped =>
      obtain ⟨-, rfl⟩ := Database.drop_erases hchanged
      exact hown.sublist (List.eraseP_sublist.map _)
  · exact h database hmem

/-- Names still differ where tables have kept their names. -/
theorem NamesDiffer.of_related {R : Table → Table → Prop}
    (hname : ∀ old new, R old new → new.schema.name = old.schema.name) (h : engine.NamesDiffer)
    (hrel : Related R engine after) : after.NamesDiffer := by
  intro database hdatabase
  obtain ⟨old, hold, -, htables⟩ := exists_of_mem_right hrel hdatabase
  have hnames : database.tables.map (·.schema.name) = old.tables.map (·.schema.name) :=
    map_eq_of_forall₂ (htables.imp hname)
  rw [hnames]
  exact h old hold

/-- A table is created or dropped in related engines alike. -/
theorem Related.reshaped?_cases {R : Table → Table → Prop} (hrefl : ∀ table, R table table)
    (hname : ∀ old new, R old new → new.schema.name = old.schema.name)
    (h : Related R engine after) (reshaping : Reshaping) :
    (∃ error, engine.reshaped? reshaping = .error error ∧
      after.reshaped? reshaping = .error error) ∨
    ∃ engine' after', engine.reshaped? reshaping = .ok engine' ∧
      after.reshaped? reshaping = .ok after' ∧ Related R engine' after' := by
  have hdatabase := h.rel_find? reshaping.database
  rw [reshaped?_eq_bind, reshaped?_eq_bind, Engine.database, Engine.database]
  generalize engine.find? reshaping.database = before at hdatabase
  generalize after.find? reshaping.database = later at hdatabase
  cases hdatabase with
  | none => exact Or.inl ⟨_, rfl, rfl⟩
  | some hpair =>
    rename_i old new
    rcases Reshaping.apply_cases hrefl hname hpair.1 hpair.2 reshaping with
      ⟨error, hold, hnew⟩ | ⟨old', new', hold, hnew, hsame, htables⟩
    · refine Or.inl ⟨error, ?_, ?_⟩
      · simp only [bind, Except.bind, hold]
      · simp only [bind, Except.bind, hnew]
    · refine Or.inr ⟨engine.put old', after.put new', ?_, ?_, ?_⟩
      · simp only [bind, Except.bind, hold, pure, Except.pure]
      · simp only [bind, Except.bind, hnew, pure, Except.pure]
      · simp only [Related, put, hsame]
        exact forall₂_replaceFirst h (fun _ _ hnames => by rw [hnames.1]) ⟨hsame, htables⟩

end Engine

end Tabula
