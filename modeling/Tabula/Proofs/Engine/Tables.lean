import Tabula.Proofs.Related
import Tabula.Store.Engine

/-!
# The tables of an engine

Every operation of the store looks up one table and puts another state in its place. The laws of
looking up and putting hold for all engines, whether or not names repeat: both go to the first
database and the first table of a name.

`Engine.Related` compares two engines table by table, and putting related tables in the same place
keeps them related.
-/

namespace Tabula

section ReplaceFirst

variable {A : Type} {test : A → Bool} {new found : A} {items : List A}

/-- Looking for the replaced item finds its replacement. -/
theorem find?_replaceFirst_self (hnew : test new = true) (h : items.find? test = some found) :
    (replaceFirst test new items).find? test = some new := by
  induction items with
  | nil => simp at h
  | cons item rest ih =>
    by_cases hitem : test item = true
    · simp [replaceFirst, hitem, hnew]
    · rw [List.find?_cons_of_neg hitem] at h
      rw [replaceFirst, if_neg hitem, List.find?_cons_of_neg hitem]
      exact ih h

/-- A search that passes over the replaced items is not affected. -/
theorem find?_replaceFirst_of_disjoint {other : A → Bool} (hnew : test new = true)
    (hdisjoint : ∀ item, test item = true → other item = false) :
    (replaceFirst test new items).find? other = items.find? other := by
  induction items with
  | nil => rfl
  | cons item rest ih =>
    by_cases hitem : test item = true
    · simp [replaceFirst, hitem, hdisjoint item hitem, hdisjoint new hnew]
    · rw [replaceFirst, if_neg hitem, List.find?_cons, List.find?_cons, ih]

/-- Replacing an item by itself changes nothing. -/
theorem replaceFirst_self (h : items.find? test = some found) :
    replaceFirst test found items = items := by
  induction items with
  | nil => rfl
  | cons item rest ih =>
    by_cases hitem : test item = true
    · rw [List.find?_cons_of_pos hitem, Option.some.injEq] at h
      rw [replaceFirst, if_pos hitem, h]
    · rw [List.find?_cons_of_neg hitem] at h
      rw [replaceFirst, if_neg hitem, ih h]

/-- Of two replacements of one item the second counts. -/
theorem replaceFirst_replaceFirst {first : A} (hfirst : test first = true) :
    replaceFirst test new (replaceFirst test first items) = replaceFirst test new items := by
  induction items with
  | nil => rfl
  | cons item rest ih =>
    by_cases hitem : test item = true
    · simp [replaceFirst, hitem, hfirst]
    · simp [replaceFirst, hitem, ih]

/-- A replacement brings in nothing but the new item. -/
theorem eq_or_mem_of_mem_replaceFirst {item : A} (h : item ∈ replaceFirst test new items) :
    item = new ∨ item ∈ items := by
  induction items with
  | nil => simp [replaceFirst] at h
  | cons head rest ih =>
    by_cases hhead : test head = true
    · rw [replaceFirst, if_pos hhead, List.mem_cons] at h
      exact h.imp id (List.mem_cons_of_mem head)
    · rw [replaceFirst, if_neg hhead, List.mem_cons] at h
      rcases h with rfl | h
      · exact Or.inr List.mem_cons_self
      · exact (ih h).imp id (List.mem_cons_of_mem head)

variable {R : A → A → Prop} {others : List A}

/-- Lists related item by item stay so when related items replace the first ones that pass. -/
theorem forall₂_replaceFirst {new' : A} (h : List.Forall₂ R items others)
    (htest : ∀ a b, R a b → test a = test b) (hnew : R new new') :
    List.Forall₂ R (replaceFirst test new items) (replaceFirst test new' others) := by
  induction h with
  | nil => exact List.Forall₂.nil
  | cons hitem hrest ih =>
    rename_i a b _ _
    by_cases ha : test a = true
    · simp only [replaceFirst, ← htest a b hitem, ha, if_true]
      exact List.Forall₂.cons hnew hrest
    · simp only [replaceFirst, ← htest a b hitem, if_neg ha]
      exact List.Forall₂.cons hitem ih

/-- Searching in lists related item by item finds related items, or nothing in both. -/
theorem rel_find? (h : List.Forall₂ R items others) (htest : ∀ a b, R a b → test a = test b) :
    Option.Rel R (items.find? test) (others.find? test) := by
  induction h with
  | nil => exact Option.Rel.none
  | cons hitem hrest ih =>
    rename_i a b _ _
    by_cases ha : test a = true
    · rw [List.find?_cons_of_pos ha, List.find?_cons_of_pos (htest a b hitem ▸ ha)]
      exact Option.Rel.some hitem
    · rw [List.find?_cons_of_neg ha, List.find?_cons_of_neg (htest a b hitem ▸ ha)]
      exact ih

end ReplaceFirst

/-! ### Looking up and putting -/

namespace Database

variable {database : Database} {name : String} {table : Table}

/-- Putting a table keeps the name of the database. -/
@[simp] theorem put_name : (database.put table).name = database.name := rfl

/-- A table is found under its own name. -/
theorem name_of_find? (h : database.find? name = some table) : table.schema.name = name := by
  have htest := List.find?_some h
  exact eq_of_beq htest

/-- A table that was put is found under its name. -/
theorem find?_put_self {old : Table} (h : database.find? table.schema.name = some old) :
    (database.put table).find? table.schema.name = some table :=
  find?_replaceFirst_self (beq_self_eq_true _) h

/-- Putting a table leaves those of other names. -/
theorem find?_put_of_ne (h : name ≠ table.schema.name) :
    (database.put table).find? name = database.find? name :=
  find?_replaceFirst_of_disjoint (beq_self_eq_true _) fun item hitem => by
    simp [eq_of_beq hitem, h.symm]

/-- Putting a table that is there changes nothing. -/
theorem put_self (h : database.find? name = some table) : database.put table = database := by
  rw [← name_of_find? h] at h
  rw [put, replaceFirst_self h]

/-- Of two states of one table that are put, the second counts. -/
theorem put_put {first : Table} (hname : first.schema.name = table.schema.name) :
    (database.put first).put table = database.put table := by
  simp only [put, hname]
  rw [replaceFirst_replaceFirst (by simp [hname])]

end Database

namespace Engine

variable {engine : Engine} {database name : String} {table : Table}

/-- A database is found under its own name. -/
theorem name_of_find? {found : Database} (h : engine.find? database = some found) :
    found.name = database := by
  have htest := List.find?_some h
  exact eq_of_beq htest

/-- A database with another table is found where it was put. -/
theorem find?_put_self {found : Database} (h : engine.find? database = some found) :
    (engine.put (found.put table)).find? database = some (found.put table) := by
  have hname := name_of_find? h
  subst hname
  exact find?_replaceFirst_self (beq_self_eq_true _) h

/-- Putting a database leaves those of other names. -/
theorem find?_put_of_ne {found : Database} (h : database ≠ found.name) :
    (engine.put found).find? database = engine.find? database :=
  find?_replaceFirst_of_disjoint (beq_self_eq_true _) fun item hitem => by
    simp [eq_of_beq hitem, h.symm]

/-- Putting a table puts the database that holds it. -/
theorem putTable_eq_put {found : Database} (h : engine.find? database = some found) :
    engine.putTable database table = engine.put (found.put table) := by
  simp only [putTable, h]

/-- A table is looked up in the first database of the name. -/
theorem table_eq_find? {found : Database} (h : engine.find? database = some found) :
    engine.table database name = found.table name := by
  simp only [Engine.table, Engine.database, h, bind, Except.bind]

/-- A table is found in the first database of the name. -/
theorem table_eq_ok_iff :
    engine.table database name = .ok table ↔
      ∃ found, engine.find? database = some found ∧ found.find? name = some table := by
  cases hfind : engine.find? database with
  | none => simp [Engine.table, Engine.database, hfind, bind, Except.bind]
  | some found =>
    rw [table_eq_find? hfind, Database.table]
    cases htable : found.find? name <;> simp [htable]

/-- A table is found under its own name. -/
theorem name_of_table (h : engine.table database name = .ok table) :
    table.schema.name = name := by
  obtain ⟨found, -, htable⟩ := table_eq_ok_iff.mp h
  exact Database.name_of_find? htable

/-- A table that is found is one of the tables of its database. -/
theorem mem_of_table (h : engine.table database name = .ok table) :
    ∃ found ∈ engine.databases, found.name = database ∧ table ∈ found.tables := by
  obtain ⟨found, hfound, htable⟩ := table_eq_ok_iff.mp h
  exact ⟨found, List.mem_of_find?_eq_some hfound, name_of_find? hfound,
    List.mem_of_find?_eq_some htable⟩

/-- The registry finds the tables that the engine finds, and fails alike. -/
theorem resolve_eq_map (engine : Engine) (database name : String) :
    engine.registry.resolve database name =
      (engine.table database name).map (·.schema) := by
  have hcatalog : engine.registry.catalog? database =
      (engine.find? database).map Database.catalog :=
    List.find?_map ..
  have hdescribe (found : Database) : found.catalog.describe? name =
      (found.find? name).map (·.schema) :=
    List.find?_map ..
  rw [Registry.resolve, hcatalog]
  cases hfound : engine.find? database with
  | none => simp only [Engine.table, Engine.database, hfound]; rfl
  | some found =>
    rw [table_eq_find? hfound, Database.table, Option.map_some]
    simp only [hdescribe]
    cases found.find? name with
    | none => rw [name_of_find? hfound]; rfl
    | some table => rfl

/-- The registry describes the tables that the engine has. -/
theorem resolve_eq_ok_iff {schema : TableSchema} :
    engine.registry.resolve database name = .ok schema ↔
      ∃ table, engine.table database name = .ok table ∧ table.schema = schema := by
  rw [resolve_eq_map]
  cases engine.table database name <;> simp [Except.map]

/-- A table that was put is found under its name. -/
theorem table_putTable_self {old : Table} (h : engine.table database name = .ok old)
    (hname : table.schema.name = name) :
    (engine.putTable database table).table database name = .ok table := by
  obtain ⟨found, hfound, htable⟩ := table_eq_ok_iff.mp h
  subst hname
  rw [putTable_eq_put hfound]
  exact table_eq_ok_iff.mpr
    ⟨found.put table, find?_put_self hfound, Database.find?_put_self htable⟩

/-- Putting a table leaves all others as they are. -/
theorem table_putTable_of_ne {other otherName : String}
    (h : (other, otherName) ≠ (database, table.schema.name)) :
    (engine.putTable database table).table other otherName = engine.table other otherName := by
  cases hfound : engine.find? database with
  | none => simp only [putTable, hfound]
  | some found =>
    rw [putTable_eq_put hfound]
    by_cases hother : other = database
    · subst hother
      have hname : otherName ≠ table.schema.name := fun heq => h (by rw [heq])
      rw [table_eq_find? (find?_put_self hfound), table_eq_find? hfound, Database.table,
        Database.table, Database.find?_put_of_ne hname]
      rfl
    · have hne : other ≠ (found.put table).name := name_of_find? hfound ▸ hother
      simp only [Engine.table, Engine.database, find?_put_of_ne hne]

/-- Putting a table that is there changes nothing. -/
theorem putTable_self (h : engine.table database name = .ok table) :
    engine.putTable database table = engine := by
  obtain ⟨found, hfound, htable⟩ := table_eq_ok_iff.mp h
  have hname := name_of_find? hfound
  subst hname
  rw [putTable_eq_put hfound, Database.put_self htable, put, replaceFirst_self hfound]

/-- Of two states of one table that are put, the second counts. -/
theorem putTable_putTable (first second : Table) (hname : first.schema.name = second.schema.name) :
    (engine.putTable database first).putTable database second =
      engine.putTable database second := by
  cases hfound : engine.find? database with
  | none => simp only [putTable, hfound]
  | some found =>
    rw [putTable_eq_put hfound, putTable_eq_put (find?_put_self hfound),
      putTable_eq_put hfound, Database.put_put hname]
    simp only [put, Database.put_name]
    rw [replaceFirst_replaceFirst (by simp)]

/-! ### Table by table -/

/-- The engines have the same databases in the same order, and their tables are pairwise
related. -/
def Related (R : Table → Table → Prop) (before after : Engine) : Prop :=
  List.Forall₂ (fun old new => new.name = old.name ∧ List.Forall₂ R old.tables new.tables)
    before.databases after.databases

namespace Related

variable {R S : Table → Table → Prop} {before after later : Engine}

/-- An engine is related to itself if all tables are. -/
theorem refl (h : ∀ table, R table table) (engine : Engine) : Related R engine engine :=
  List.forall₂_same.mpr fun _ _ => ⟨rfl, List.forall₂_same.mpr fun table _ => h table⟩

/-- A relation of tables that composes relates the first engine to the last. -/
theorem trans (h : ∀ a b c, R a b → R b c → R a c) (hfirst : Related R before after)
    (hsecond : Related R after later) : Related R before later := by
  have compose {A : Type} {Q : A → A → Prop} (hQ : ∀ a b c, Q a b → Q b c → Q a c)
      {l m n : List A} (hlm : List.Forall₂ Q l m) (hmn : List.Forall₂ Q m n) :
      List.Forall₂ Q l n := by
    induction hlm generalizing n with
    | nil => exact hmn
    | cons hab _ ih =>
      obtain ⟨hbc, hrest⟩ | _ := hmn
      exact List.Forall₂.cons (hQ _ _ _ hab ‹_›) (ih ‹_›)
  exact compose (fun _ _ _ hab hbc => ⟨hbc.1.trans hab.1, compose h hab.2 hbc.2⟩) hfirst hsecond

/-- Two relations that both relate the engines do so together. -/
theorem and (hR : Related R before after) (hS : Related S before after) :
    Related (fun old new => R old new ∧ S old new) before after := by
  have both {A : Type} {Q T U : A → A → Prop} (hU : ∀ a b, Q a b → T a b → U a b)
      {l m : List A} (hQ : List.Forall₂ Q l m) (hT : List.Forall₂ T l m) :
      List.Forall₂ U l m := by
    induction hQ with
    | nil => exact List.Forall₂.nil
    | cons hq _ ih =>
      obtain ⟨ht, hrest⟩ | _ := hT
      exact List.Forall₂.cons (hU _ _ hq ‹_›) (ih ‹_›)
  exact both (fun _ _ hq ht => ⟨hq.1, both (fun _ _ => And.intro) hq.2 ht.2⟩) hR hS

/-- Searching finds related databases, or none in both engines. -/
theorem rel_find? (h : Related R before after) (database : String) :
    Option.Rel (fun old new => new.name = old.name ∧ List.Forall₂ R old.tables new.tables)
      (before.find? database) (after.find? database) :=
  Tabula.rel_find? h fun _ _ hpair => by rw [hpair.1]

/-- Looking up finds related tables, or fails alike in both engines. -/
theorem table_cases (hname : ∀ old new, R old new → new.schema.name = old.schema.name)
    (h : Related R before after) (database name : String) :
    (∃ error, before.table database name = .error error ∧
      after.table database name = .error error) ∨
    ∃ old new, before.table database name = .ok old ∧
      after.table database name = .ok new ∧ R old new := by
  have hdatabase := h.rel_find? database
  generalize hbefore : before.find? database = oldDatabase at hdatabase
  generalize hafter : after.find? database = newDatabase at hdatabase
  cases hdatabase with
  | none =>
    refine Or.inl ⟨.databaseNotFound database, ?_, ?_⟩ <;>
      simp only [Engine.table, Engine.database, hbefore, hafter, bind, Except.bind]
  | some hpair =>
    rename_i old new
    have htable : Option.Rel R (old.find? name) (new.find? name) :=
      Tabula.rel_find? hpair.2 fun _ _ hpair => by rw [hname _ _ hpair]
    rw [table_eq_find? hbefore, table_eq_find? hafter, Database.table, Database.table, hpair.1]
    generalize old.find? name = oldTable at htable
    generalize new.find? name = newTable at htable
    cases htable with
    | none => exact Or.inl ⟨_, rfl, rfl⟩
    | some hpair => exact Or.inr ⟨_, _, rfl, rfl, hpair⟩

/-- Related tables put under one name keep the engines related. -/
theorem putTable (hname : ∀ old new, R old new → new.schema.name = old.schema.name)
    (h : Related R before after) (database : String) {old new : Table} (hpair : R old new) :
    Related R (before.putTable database old) (after.putTable database new) := by
  have hdatabase := h.rel_find? database
  generalize hbefore : before.find? database = oldDatabase at hdatabase
  generalize hafter : after.find? database = newDatabase at hdatabase
  cases hdatabase with
  | none => simpa only [Engine.putTable, hbefore, hafter] using h
  | some hdatabases =>
    rw [putTable_eq_put hbefore, putTable_eq_put hafter]
    simp only [Related, put, Database.put_name, hdatabases.1]
    refine forall₂_replaceFirst h (fun _ _ hnames => by rw [hnames.1]) ⟨hdatabases.1, ?_⟩
    simp only [Database.put, hname _ _ hpair]
    exact forall₂_replaceFirst hdatabases.2 (fun _ _ hpair => by rw [hname _ _ hpair]) hpair

end Related

/-- A related table put in the place of one that is there relates the engine to the new one. -/
theorem related_putTable {R : Table → Table → Prop} (hrefl : ∀ table, R table table)
    (hname : ∀ old new, R old new → new.schema.name = old.schema.name)
    {engine : Engine} {database name : String} {old new : Table}
    (h : engine.table database name = .ok old) (hpair : R old new) :
    Related R engine (engine.putTable database new) := by
  have hput := (Related.refl hrefl engine).putTable hname database hpair
  rwa [putTable_self h] at hput

/-! ### All tables -/

/-- A property of all tables of an engine, each with the name of its database. -/
def ForAllTables (P : String → Table → Prop) (engine : Engine) : Prop :=
  ∀ database ∈ engine.databases, ∀ table ∈ database.tables, P database.name table

namespace ForAllTables

variable {P : String → Table → Prop}

/-- What holds of all tables holds of a table that is found. -/
theorem of_table (h : engine.ForAllTables P) (hfound : engine.table database name = .ok table) :
    P database table := by
  obtain ⟨found, hmem, rfl, htable⟩ := mem_of_table hfound
  exact h found hmem table htable

/-- Putting a database whose tables have a property that all others have. -/
theorem put {found : Database} (h : engine.ForAllTables P)
    (hnew : ∀ table ∈ found.tables, P found.name table) : (engine.put found).ForAllTables P := by
  intro other hother table htable
  rcases eq_or_mem_of_mem_replaceFirst hother with rfl | hmem
  · exact hnew table htable
  · exact h other hmem table htable

/-- Putting a table with a property that all others have. -/
theorem putTable (h : engine.ForAllTables P) (hnew : P database table) :
    (engine.putTable database table).ForAllTables P := by
  cases hfound : engine.find? database with
  | none => simpa only [Engine.putTable, hfound] using h
  | some found =>
    have hname := name_of_find? hfound
    rw [putTable_eq_put hfound]
    refine h.put fun item hitem => ?_
    rw [Database.put_name, hname]
    rcases eq_or_mem_of_mem_replaceFirst hitem with rfl | hmem
    · exact hnew
    · exact hname ▸ h found (List.mem_of_find?_eq_some hfound) item hmem

/-- What a relation of tables carries over holds of all tables of a related engine. -/
theorem of_related {R : Table → Table → Prop} {after : Engine} (h : engine.ForAllTables P)
    (hrel : Related R engine after)
    (hP : ∀ database old new, R old new → P database old → P database new) :
    after.ForAllTables P := by
  intro database hdatabase table htable
  obtain ⟨old, hold, hname, htables⟩ := exists_of_mem_right hrel hdatabase
  obtain ⟨oldTable, holdTable, hpair⟩ := exists_of_mem_right htables htable
  rw [hname]
  exact hP _ _ _ hpair (h old hold oldTable holdTable)

end ForAllTables

end Engine

end Tabula
