import Tabula.Proofs.Select.Pages

/-!
# Joins in another order

A join needs the table of its left column and nothing else of the joins before it. The joins of a
plan may therefore stand in any order in which each finds that table. What comes out is the product
of other tables in another order, with the same filter and the same joins; and since values are
looked up by the names of the tables, which differ, every choice of rows is kept in both orders or
in neither, and gives the same row of the answer.
-/

namespace Tabula

/-! ### Looking up in another order -/

/-- Values are found whatever the order of the entries, if their names differ. -/
theorem JoinedRow.value?_of_perm {joined other : JoinedRow} (hnames : (joined.map (·.1)).Nodup)
    (hperm : other.Perm joined) (column : ColumnRef) :
    other.value? column = joined.value? column := by
  have hothers : (other.map (·.1)).Nodup := (hperm.map _).nodup_iff.mpr hnames
  refine Option.ext fun value => ?_
  rw [value?_eq_some_iff hothers, value?_eq_some_iff hnames]
  exact exists_congr fun row => and_congr_left fun _ => hperm.mem_iff

/-- A join holds whatever the order of the entries. -/
theorem JoinPlan.holdsIn_of_perm {joined other : JoinedRow} (hnames : (joined.map (·.1)).Nodup)
    (hperm : other.Perm joined) (join : JoinPlan) : join.holdsIn other = join.holdsIn joined := by
  simp only [holdsIn, JoinedRow.value?_of_perm hnames hperm]

/-- The requested values are found whatever the order of the entries. -/
theorem SelectPlan.project_of_perm {joined other : JoinedRow} (hnames : (joined.map (·.1)).Nodup)
    (hperm : other.Perm joined) (columns : List ColumnRef) :
    project columns other = project columns joined := by
  simp only [project, JoinedRow.value?_of_perm hnames hperm]

/-! ### Chains in another order -/

namespace JoinPlan

variable {tables others : List TableSchema} {joins before after : List JoinPlan}
  {join first second : JoinPlan}

/-- A join extends tables in whatever order they came in. -/
theorem Extends.of_perm (h : join.Extends tables) (hperm : others.Perm tables) :
    join.Extends others := by
  obtain ⟨schema, hschema, hbelongs⟩ := h.left
  exact ⟨⟨schema, hperm.mem_iff.mpr hschema, hbelongs⟩, h.right, h.types,
    fun hold => h.new ((hperm.map _).mem_iff.mp hold)⟩

/-- Joins extend tables one after the other in whatever order the tables came in. -/
theorem Chain.of_perm (h : Chain tables joins) (hperm : others.Perm tables) :
    Chain others joins := by
  induction joins generalizing tables others with
  | nil => trivial
  | cons join rest ih => exact ⟨h.1.of_perm hperm, ih h.2 (hperm.append_right _)⟩

/-- A join that does not need the table of the join before it can come first. -/
theorem Extends.of_append (h : second.Extends (tables ++ [join.table]))
    (hleft : second.left.belongsTo join.table = false) : second.Extends tables := by
  obtain ⟨schema, hschema, hbelongs⟩ := h.left
  refine ⟨⟨schema, ?_, hbelongs⟩, h.right, h.types, fun hold => h.new ?_⟩
  · rcases List.mem_append.mp hschema with hschema | hschema
    · exact hschema
    · rw [List.mem_singleton.mp hschema, hleft] at hbelongs
      cases hbelongs
  · rw [List.map_append]
    exact List.mem_append_left _ hold

/-- A join can come after a further one that brings in another table. -/
theorem Extends.append (h : first.Extends tables)
    (hnew : SelectPlan.nameOf second.table ≠ SelectPlan.nameOf first.table) :
    first.Extends (tables ++ [second.table]) := by
  obtain ⟨schema, hschema, hbelongs⟩ := h.left
  refine ⟨⟨schema, List.mem_append_left _ hschema, hbelongs⟩, h.right, h.types, fun hold => ?_⟩
  rw [List.map_append] at hold
  rcases List.mem_append.mp hold with hold | hold
  · exact h.new hold
  · exact hnew (List.mem_singleton.mp hold).symm

/-- Of two joins that follow each other, the second may stand first if it does not need the table
of the first. -/
theorem Chain.swap (h : Chain tables (before ++ first :: second :: after))
    (hleft : second.left.belongsTo first.table = false) :
    Chain tables (before ++ second :: first :: after) := by
  induction before generalizing tables with
  | nil =>
    obtain ⟨hfirst, hsecond, hafter⟩ := h
    refine ⟨hsecond.of_append hleft, hfirst.append fun hsame => hsecond.new ?_, hafter.of_perm ?_⟩
    · rw [hsame]
      exact List.mem_map_of_mem (List.mem_append_right _ (List.mem_singleton_self _))
    · rw [List.append_assoc, List.append_assoc]
      exact (List.Perm.swap ..).append_left tables
  | cons join rest ih => exact ⟨h.1, ih h.2⟩

end JoinPlan

namespace SelectPlan

variable {plan : SelectPlan} {joins : List JoinPlan}

/-! ### Answers in another order -/

/-- What a choice of rows under the names of their tables gives to the answer: one row if the filter
and all joins hold, and none otherwise. -/
def contribution (plan : SelectPlan) (joined : JoinedRow) : List Row :=
  if plan.holdsIn joined then [project plan.projection joined] else []

/-- The rows of a table under its name. -/
def entriesOf (rowsIn : TableSchema → List Row) (schema : TableSchema) :
    List (TableName × Row) :=
  (rowsIn schema).map (nameOf schema, ·)

variable {rowsIn : TableSchema → List Row}

/-- The rows that are answered before they are sorted are the contributions of all choices from the
tables. -/
theorem map_project_joinedRows (hchain : JoinPlan.Chain [plan.table] plan.joins) :
    (plan.joinedRows (rowsIn plan.table) (plan.joins.map fun join => rowsIn join.table)).map
        (project plan.projection) =
      (entriesOf rowsIn plan.table).flatMap fun entry =>
        (choices (plan.joins.map fun join => entriesOf rowsIn join.table)).flatMap fun joined =>
          plan.contribution (entry :: joined) := by
  have hentries : entries plan.tables
      (rowsIn plan.table :: plan.joins.map fun join => rowsIn join.table) =
        entriesOf rowsIn plan.table :: plan.joins.map fun join => entriesOf rowsIn join.table := by
    simp [entries, tables, entriesOf, List.zipWith_map, List.zipWith_self]
  rw [joinedRows_eq_filter hchain (by simp), hentries, List.map_eq_flatMap, flatMap_filter, choices,
    List.flatMap_assoc]
  simp only [List.flatMap_map, contribution]

/-- The names of the entries in a choice are those of the joined tables. -/
theorem names_of_mem_choices_joins {joined : JoinedRow}
    (h : joined ∈ choices (joins.map fun join => entriesOf rowsIn join.table)) :
    joined.map (·.1) = (joins.map (·.table)).map nameOf := by
  have hentries : joins.map (fun join => entriesOf rowsIn join.table) =
      entries (joins.map (·.table)) (joins.map fun join => rowsIn join.table) := by
    simp [entries, entriesOf, List.zipWith_map, List.zipWith_self]
  exact names_of_mem_choices (by simp) (hentries ▸ h)

/-- The joins contribute the same row or none in whatever order they and the entries stand. -/
theorem contribution_of_perm (hperm : joins.Perm plan.joins) {entry : TableName × Row}
    {joined other : JoinedRow} (hnames : ((entry :: joined).map (·.1)).Nodup)
    (hother : other.Perm joined) :
    contribution { plan with joins := joins } (entry :: other) =
      plan.contribution (entry :: joined) := by
  have hentries : (entry :: other).Perm (entry :: joined) := hother.cons entry
  have hjoins : joins.all (·.holdsIn (entry :: other)) =
      plan.joins.all (·.holdsIn (entry :: joined)) := by
    simp only [JoinPlan.holdsIn_of_perm hnames hentries]
    exact hperm.all_eq
  have hholds : holdsIn { plan with joins := joins } (entry :: other) =
      plan.holdsIn (entry :: joined) := by
    rw [holdsIn, holdsIn, hjoins]
    rfl
  rw [contribution, contribution, hholds, project_of_perm hnames hentries]

/-- The joins of a plan in another order give the same rows as often, if in both orders every join
finds the table of its left column. -/
theorem map_project_joinedRows_perm (hchain : JoinPlan.Chain [plan.table] plan.joins)
    (hjoins : JoinPlan.Chain [plan.table] joins) (hperm : joins.Perm plan.joins) :
    ((joinedRows { plan with joins := joins } (rowsIn plan.table)
        (joins.map fun join => rowsIn join.table)).map (project plan.projection)).Perm
      ((plan.joinedRows (rowsIn plan.table)
        (plan.joins.map fun join => rowsIn join.table)).map (project plan.projection)) := by
  have hnodup : (plan.tables.map nameOf).Nodup := hchain.nodup (List.nodup_singleton _)
  have hothers := @map_project_joinedRows { plan with joins := joins } rowsIn hjoins
  rw [map_project_joinedRows hchain, hothers]
  refine List.Perm.flatMap_left _ fun entry hentry => ?_
  obtain ⟨row, -, rfl⟩ := List.mem_map.mp hentry
  have hsame {joined : JoinedRow} (hjoined : joined ∈ choices
      (plan.joins.map fun join => entriesOf rowsIn join.table)) {other : JoinedRow}
      (hother : other.Perm joined) {joins : List JoinPlan} (hperm : joins.Perm plan.joins) :
      contribution { plan with joins := joins } ((nameOf plan.table, row) :: other) =
        plan.contribution ((nameOf plan.table, row) :: joined) := by
    refine contribution_of_perm hperm ?_ hother
    rwa [List.map_cons, names_of_mem_choices_joins hjoined]
  have hcongr : ∀ other ∈ choices (joins.map fun join => entriesOf rowsIn join.table),
      contribution { plan with joins := joins } ((nameOf plan.table, row) :: other) =
        plan.contribution ((nameOf plan.table, row) :: other) := by
    intro other hother
    obtain ⟨joined, hjoined, hperm'⟩ := exists_perm_of_mem_choices (hperm.symm.map _) hother
    exact (hsame hjoined hperm'.symm hperm).trans (hsame hjoined hperm'.symm (.refl _)).symm
  rw [List.flatMap_congr hcongr]
  exact flatMap_choices_perm (hperm.symm.map _) fun joined hjoined other hother =>
    hsame hjoined hother (.refl _)

/-! ### Plans in another order -/

/-- Without a page, and with repeated rows kept, every joined row is answered once. -/
theorem answer_perm (hpage : plan.page = none) (hdistinct : plan.distinct = false)
    (joinedRows : List JoinedRow) :
    (plan.answer joinedRows).Perm (joinedRows.map (project plan.projection)) := by
  have hsort : (sortRows plan.order joinedRows).Perm joinedRows := by
    cases plan.order with
    | none => rfl
    | some order => exact List.mergeSort_perm ..
  simp only [answer, hpage, hdistinct, Bool.false_eq_true, if_false]
  exact hsort.map _

/-- A plan without a page, which keeps repeated rows, gives the same rows as often when its joins
stand in another order, if in both orders every join finds the table of its left column. -/
theorem run_perm (hpage : plan.page = none) (hdistinct : plan.distinct = false)
    (hchain : JoinPlan.Chain [plan.table] plan.joins)
    (hjoins : JoinPlan.Chain [plan.table] joins) (hperm : joins.Perm plan.joins) {engine : Engine}
    (hknown : ∀ schema ∈ plan.tables, engine.registry.Has schema) :
    ∃ rows others, plan.run engine = .ok rows ∧
      run { plan with joins := joins } engine = .ok others ∧ others.Perm rows := by
  choose! rowsIn hrowsIn using fun schema hschema => exists_rowsNow (hknown schema hschema)
  have hrun (arranged : List JoinPlan) (hsub : ∀ join ∈ arranged, join ∈ plan.joins) :
      run { plan with joins := arranged } engine =
        .ok (plan.answer (joinedRows { plan with joins := arranged } (rowsIn plan.table)
          (arranged.map fun join => rowsIn join.table))) := by
    refine run_of_rowsNow (.cons (hrowsIn _ List.mem_cons_self) ?_)
    rw [List.forall₂_map_left_iff, List.forall₂_map_right_iff, List.forall₂_same]
    exact fun join hjoin =>
      hrowsIn _ (List.mem_cons_of_mem _ (List.mem_map_of_mem (hsub join hjoin)))
  refine ⟨_, _, hrun plan.joins fun _ hjoin => hjoin,
    hrun joins fun _ hjoin => hperm.mem_iff.mp hjoin, ?_⟩
  exact (answer_perm hpage hdistinct _).trans
    ((map_project_joinedRows_perm hchain hjoins hperm).trans
      (answer_perm hpage hdistinct _).symm)

/-- Of two joins of an accepted plan that follow each other, the second has its left column in
another table than the one that the first brings in. When the two are exchanged, the plan without
its page, and with repeated rows kept, gives the same rows as often on every engine that has its
tables. -/
theorem joins_commute {registry : Registry} {request : FetchRequest}
    (hplan : ofRequest registry request = .ok plan) {before after : List JoinPlan}
    {first second : JoinPlan} (hjoins : plan.joins = before ++ first :: second :: after)
    (hleft : second.left.belongsTo first.table = false) {engine : Engine}
    (hknown : ∀ schema ∈ plan.tables, engine.registry.Has schema) :
    ∃ rows exchanged,
      { plan.unpaged with distinct := false }.run engine = .ok rows ∧
      { plan.unpaged with
        distinct := false, joins := before ++ second :: first :: after }.run engine =
          .ok exchanged ∧
      exchanged.Perm rows := by
  have hchain := chain_of_ofRequest hplan
  have hexchanged : JoinPlan.Chain [plan.table] (before ++ second :: first :: after) :=
    (hjoins ▸ hchain).swap hleft
  have hperm : (before ++ second :: first :: after).Perm plan.joins := by
    rw [hjoins]
    exact (List.Perm.swap ..).append_left before
  exact @run_perm { plan.unpaged with distinct := false } _ rfl rfl hchain hexchanged hperm engine
    hknown

/-! ### Things left in rooms -/

/-- A table of things left in rooms: each has a number and the room where it was found. -/
def foundSchema (name : String) : TableSchema where
  database := "desk"
  name := name
  columns := [
    ⟨⟨"id", .int, false, true, false, none, none⟩, 0⟩,
    ⟨⟨"room", .int, false, false, false, none, none⟩, 1⟩]

/-- Two things of a kind, both from the second room. -/
def foundRows : List Row := [[.int 1, .int 2], [.int 2, .int 2]]

/-- A hotel whose desk keeps keys and bags. -/
def lostAndFound : Engine where
  databases := [⟨"hotel", [{ schema := roomSchema, rows := roomRows, nextId := 1 }]⟩,
    ⟨"desk", [{ schema := foundSchema "keys", rows := foundRows, nextId := 1 },
      { schema := foundSchema "bags", rows := foundRows, nextId := 1 }]⟩]
  transactions := 0

/-- The numbers of the rooms with the keys and the bags that were found there. -/
def roomsWithFound : FetchRequest :=
  ((FetchRequest.all "hotel" "rooms" ["number", "keys.id", "bags.id"]).joined
    "rooms.number" "desk.keys.room").joined "rooms.number" "desk.bags.room"

/-- The plan for the rooms with what was found there. -/
def foundPlan : SelectPlan where
  table := roomSchema
  projection := [⟨"hotel", "rooms", "number", 0, .int⟩, ⟨"desk", "keys", "id", 0, .int⟩,
    ⟨"desk", "bags", "id", 0, .int⟩]
  filter := none
  joins := ["keys", "bags"].map fun name => ⟨foundSchema name,
    ⟨"hotel", "rooms", "number", 0, .int⟩, ⟨"desk", name, "room", 1, .int⟩⟩
  order := none
  page := some ⟨0, 10⟩
  distinct := false

/-- The plan with the bags before the keys gives the same rows, but not in the same order. -/
theorem joins_commute_rooms :
    ofRequest lostAndFound.registry roomsWithFound = .ok foundPlan ∧
      foundPlan.unpaged.run lostAndFound = .ok
        [[.int 2, .int 1, .int 1], [.int 2, .int 1, .int 2],
          [.int 2, .int 2, .int 1], [.int 2, .int 2, .int 2]] ∧
      { foundPlan.unpaged with joins := foundPlan.joins.reverse }.run lostAndFound = .ok
        [[.int 2, .int 1, .int 1], [.int 2, .int 2, .int 1],
          [.int 2, .int 1, .int 2], [.int 2, .int 2, .int 2]] ∧
      ∃ rows exchanged, foundPlan.unpaged.run lostAndFound = .ok rows ∧
        { foundPlan.unpaged with joins := foundPlan.joins.reverse }.run lostAndFound =
          .ok exchanged ∧
        exchanged.Perm rows := by
  have hplan : ofRequest lostAndFound.registry roomsWithFound = .ok foundPlan := rfl
  have hknown : ∀ schema ∈ foundPlan.tables, lostAndFound.registry.Has schema := by
    simp only [foundPlan, tables, List.map_cons, List.map_nil, List.forall_mem_cons]
    exact ⟨rfl, rfl, rfl, List.forall_mem_nil _⟩
  exact ⟨hplan, rfl, rfl, @joins_commute _ _ _ hplan [] [] _ _ rfl (by decide) _ hknown⟩

end SelectPlan

end Tabula
