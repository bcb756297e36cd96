import Tabula.Proofs.Choices
import Tabula.Proofs.Select.Lookups

/-!
# Joins as a filtered product

The rows of a query come about table by table: every join extends the rows that are there by their
partners. What comes out are the tuples of the Cartesian product of all tables that satisfy the
filter and all joins, in the order of the product. For one join this is a law of lists; for all of
them it follows by induction, since what a join compares does not change when further tables come
in.
-/

namespace Tabula

/-! ### What a join compares -/

namespace JoinPlan

/-- Whether a joined row has equal values in both columns of the join. Null is equal to nothing. -/
def holdsIn (join : JoinPlan) (joined : JoinedRow) : Bool :=
  match joined.value? join.left, joined.value? join.right with
  | some left, some right => !left.isNull && left.same right
  | _, _ => false

variable {tables : List TableSchema} {join : JoinPlan} {before joined : JoinedRow}

/-- The column of an earlier table is found among the names of the earlier tables. -/
theorem Extends.left_mem (h : join.Extends tables) :
    (join.left.database, join.left.table) ∈ tables.map SelectPlan.nameOf := by
  obtain ⟨schema, hschema, hbelongs⟩ := h.left
  exact List.mem_map.mpr ⟨schema, hschema, ColumnRef.belongsTo_iff.mp hbelongs⟩

/-- What a join compares does not change when further tables come in. -/
theorem Extends.holdsIn_take (h : join.Extends tables) {later : List TableSchema}
    (hjoined : joined.map (·.1) = (tables ++ join.table :: later).map SelectPlan.nameOf) :
    join.holdsIn (joined.take (tables.length + 1)) = join.holdsIn joined := by
  have hnames : (joined.take (tables.length + 1)).map (·.1) =
      (tables ++ [join.table]).map SelectPlan.nameOf := by
    rw [List.map_take, hjoined, ← List.map_take, List.take_length_add_append, List.take_succ_cons,
      List.take_zero]
  have hleft : (join.left.database, join.left.table) ∈
      (joined.take (tables.length + 1)).map (·.1) := by
    rw [hnames, List.map_append]
    exact List.mem_append_left _ h.left_mem
  have hright : (join.right.database, join.right.table) ∈
      (joined.take (tables.length + 1)).map (·.1) := by
    rw [hnames, ← ColumnRef.belongsTo_iff.mp h.right]
    exact List.mem_map_of_mem (by simp)
  conv_rhs => rw [← List.take_append_drop (tables.length + 1) joined]
  rw [holdsIn, holdsIn, JoinedRow.value?_append_left hleft, JoinedRow.value?_append_left hright]

/-- The partners of a row are the rows with which the join holds. -/
theorem Extends.partners_eq (h : join.Extends tables)
    (hbefore : before.map (·.1) = tables.map SelectPlan.nameOf) (rows : List Row) :
    SelectPlan.partners join rows before =
      rows.filter fun row => join.holdsIn (before ++ [(SelectPlan.nameOf join.table, row)]) := by
  have hleft (row : Row) :
      JoinedRow.value? (before ++ [(SelectPlan.nameOf join.table, row)]) join.left =
        before.value? join.left :=
    JoinedRow.value?_append_left (hbefore ▸ h.left_mem)
  have hnew : (join.right.database, join.right.table) ∉ before.map (·.1) := by
    rw [hbefore, ← ColumnRef.belongsTo_iff.mp h.right]
    exact h.new
  have hright (row : Row) :
      JoinedRow.value? (before ++ [(SelectPlan.nameOf join.table, row)]) join.right =
        row[join.right.index]? := by
    rw [JoinedRow.value?_append_right hnew, JoinedRow.value?,
      ← ColumnRef.belongsTo_iff.mp h.right]
    simp
  simp only [holdsIn, hleft, hright, SelectPlan.partners]
  cases before.value? join.left with
  | none => simp
  | some left =>
    cases hnull : left.isNull with
    | true =>
      simp only [hnull, if_true]
      refine (List.filter_eq_nil_iff.mpr fun row _ => ?_).symm
      cases row[join.right.index]? <;> simp [hnull]
    | false =>
      simp only [hnull, Bool.false_eq_true, if_false]
      refine List.filter_congr fun row _ => ?_
      cases row[join.right.index]? with
      | none => rfl
      | some right => simp [hnull, Value.same_comm left]

end JoinPlan

namespace SelectPlan

/-! ### The product -/

/-- The rows of each table under its name. -/
def entries (tables : List TableSchema) (contents : List (List Row)) :
    List (List (TableName × Row)) :=
  List.zipWith (fun schema rows => rows.map (nameOf schema, ·)) tables contents

variable {tables : List TableSchema} {contents more : List (List Row)}

/-- The choices of entries are the choices of rows under the names of the tables. -/
theorem choices_entries (hlength : tables.length = contents.length) :
    choices (entries tables contents) =
      (choices contents).map ((tables.map nameOf).zip ·) := by
  have hentries : entries tables contents = List.zipWith (fun f rows => rows.map f)
      (tables.map fun schema row => (nameOf schema, row)) contents := by
    rw [entries, List.zipWith_map_left]
  rw [hentries, choices_zipWith_map (by simpa using hlength)]
  refine List.map_congr_left fun tuple _ => ?_
  rw [List.zipWith_map_left, List.zip_map_left, List.zip, List.map_zipWith]
  rfl

/-- A choice of entries has the names of the tables. -/
theorem names_of_mem_choices (hlength : tables.length = contents.length) {joined : JoinedRow}
    (h : joined ∈ choices (entries tables contents)) :
    joined.map (·.1) = tables.map nameOf := by
  rw [choices_entries hlength] at h
  obtain ⟨tuple, htuple, rfl⟩ := List.mem_map.mp h
  have htables := (mem_choices.mp htuple).length_eq
  exact List.map_fst_zip (by simp [htables, hlength])

/-- The entries with one table more. -/
theorem entries_append_singleton (hlength : tables.length = contents.length)
    (schema : TableSchema) (rows : List Row) :
    entries (tables ++ [schema]) (contents ++ [rows]) =
      entries tables contents ++ [rows.map (nameOf schema, ·)] := by
  rw [entries, List.zipWith_append hlength]
  rfl

/-- A join extends what a filter keeps of a product to what the filter and the join keep of the
product with one table more. -/
theorem joinRows_choices {join : JoinPlan} (hextends : join.Extends tables)
    (hlength : tables.length = contents.length) (keep : JoinedRow → Bool) (rows : List Row) :
    joinRows join rows ((choices (entries tables contents)).filter keep) =
      (choices (entries (tables ++ [join.table]) (contents ++ [rows]))).filter fun joined =>
        keep (joined.take tables.length) && join.holdsIn joined := by
  rw [joinRows, flatMap_filter, entries_append_singleton hlength,
    filter_choices_append_singleton]
  refine List.flatMap_congr fun before hbefore => ?_
  have hnames := names_of_mem_choices hlength hbefore
  have htake (entry : TableName × Row) : (before ++ [entry]).take tables.length = before := by
    have hsame : before.length = tables.length := by simpa using congrArg List.length hnames
    rw [← hsame, List.take_left]
  simp only [htake, hextends.partners_eq hnames, List.filter_map, List.map_map,
    Function.comp_def]
  cases keep before with
  | false => simp
  | true => simp

/-- All joins together extend what a filter keeps of a product to what the filter and the joins keep
of the product of all tables. -/
theorem joinAll_choices {joins : List JoinPlan} (hchain : JoinPlan.Chain tables joins)
    (hlength : tables.length = contents.length) (hmore : joins.length = more.length)
    (keep : JoinedRow → Bool) :
    joinAll ((choices (entries tables contents)).filter keep) (joins.zip more) =
      (choices (entries (tables ++ joins.map (·.table)) (contents ++ more))).filter fun joined =>
        keep (joined.take tables.length) && joins.all (·.holdsIn joined) := by
  induction joins generalizing tables contents more keep with
  | nil =>
    rw [List.eq_nil_of_length_eq_zero hmore.symm]
    simp only [List.map_nil, List.append_nil, List.all_nil, Bool.and_true]
    refine List.filter_congr fun joined hjoined => ?_
    have hnames := congrArg List.length (names_of_mem_choices hlength hjoined)
    rw [List.take_of_length_le (by simp_all)]
  | cons join rest ih =>
    cases more with
    | nil => cases hmore
    | cons rows more =>
      have hnext : (tables ++ [join.table]).length = (contents ++ [rows]).length := by
        simp [hlength]
      have hall := ih hchain.2 hnext (Nat.succ.inj hmore)
        fun joined => keep (joined.take tables.length) && join.holdsIn joined
      rw [← joinRows_choices hchain.1 hlength] at hall
      simp only [List.append_assoc, List.singleton_append] at hall
      refine hall.trans (List.filter_congr fun joined hjoined => ?_)
      have hlengths : (tables ++ join.table :: rest.map (·.table)).length =
          (contents ++ rows :: more).length := by
        simpa [hlength] using hmore
      have hsame := hchain.1.holdsIn_take (names_of_mem_choices hlengths hjoined)
      simp only [List.length_append, List.length_singleton, List.take_take, List.all_cons, hsame,
        Bool.and_assoc, Nat.min_eq_left (Nat.le_succ tables.length)]

/-- Whether a joined row satisfies the filter, by the entry of the first table, and all joins. -/
def holdsIn (plan : SelectPlan) (joined : JoinedRow) : Bool :=
  plan.filter.all (·.eval (JoinedRow.value? (joined.take 1))) &&
    plan.joins.all (·.holdsIn joined)

variable {plan : SelectPlan} {rows : List Row} {joinedTables : List (List Row)}

/-- The joined rows are those choices from the tables that satisfy the filter and all joins. -/
theorem joinedRows_eq_filter (hchain : JoinPlan.Chain [plan.table] plan.joins)
    (hlength : plan.joins.length = joinedTables.length) :
    plan.joinedRows rows joinedTables =
      (choices (entries plan.tables (rows :: joinedTables))).filter plan.holdsIn := by
  have hfirst : plan.firstRows rows = (choices (entries [plan.table] [rows])).filter
      fun joined => plan.filter.all (·.eval (JoinedRow.value? joined)) := by
    rw [firstRows, entries, List.zipWith_cons_cons, List.zipWith_nil_left, choices_singleton,
      List.map_map]
    rfl
  rw [joinedRows, hfirst, joinAll_choices hchain rfl hlength]
  rfl

/-! ### Tuples -/

/-- The value that a tuple of rows, one for each of the tables, has in a column. -/
def Reads (tables : List TableSchema) (tuple : List Row) (column : ColumnRef) (value : Value) :
    Prop :=
  ∃ schema row, (schema, row) ∈ tables.zip tuple ∧ column.belongsTo schema = true ∧
    row[column.index]? = some value

/-- In a tuple of rows, one for each table of the plan, the first row satisfies the filter, and for
every join the value in the left column is not null and equal to the value in the right column. -/
structure Matches (plan : SelectPlan) (tuple : List Row) : Prop where
  filter : ∀ row ∈ tuple.head?, plan.table.selects plan.filter row = true
  joins : ∀ join ∈ plan.joins, ∃ left right, Reads plan.tables tuple join.left left ∧
    Reads plan.tables tuple join.right right ∧ left.isNull = false ∧ left.same right = true

/-- When the names of the tables differ, the rows under the names have the values of the tuple. -/
theorem value?_zip_eq_some_iff (htables : (tables.map nameOf).Nodup) {tuple : List Row}
    (hlength : tuple.length = tables.length) {column : ColumnRef} {value : Value} :
    JoinedRow.value? ((tables.map nameOf).zip tuple) column = some value ↔
      Reads tables tuple column value := by
  have hnames : ((tables.map nameOf).zip tuple).map (·.1) = tables.map nameOf :=
    List.map_fst_zip (by simp [hlength])
  rw [JoinedRow.value?_eq_some_iff (hnames.symm ▸ htables), List.zip_map_left]
  simp only [List.mem_map, Prod.exists, Prod.map_apply, id_eq, Prod.mk.injEq]
  constructor
  · rintro ⟨_, ⟨schema, row, hmem, hname, rfl⟩, hvalue⟩
    exact ⟨schema, row, hmem, ColumnRef.belongsTo_iff.mpr hname, hvalue⟩
  · rintro ⟨schema, row, hmem, hbelongs, hvalue⟩
    exact ⟨row, ⟨schema, row, hmem, ColumnRef.belongsTo_iff.mp hbelongs, rfl⟩, hvalue⟩

/-- When the names of the tables differ, a join holds if the tuple has equal values in its columns
that are not null. -/
theorem joinHoldsIn_zip_iff (htables : (tables.map nameOf).Nodup) {tuple : List Row}
    (hlength : tuple.length = tables.length) {join : JoinPlan} :
    join.holdsIn ((tables.map nameOf).zip tuple) = true ↔
      ∃ left right, Reads tables tuple join.left left ∧ Reads tables tuple join.right right ∧
        left.isNull = false ∧ left.same right = true := by
  simp only [← value?_zip_eq_some_iff htables hlength, JoinPlan.holdsIn]
  cases JoinedRow.value? ((tables.map nameOf).zip tuple) join.left with
  | none => simp
  | some left =>
    cases JoinedRow.value? ((tables.map nameOf).zip tuple) join.right with
    | none => simp
    | some right => simp

/-- The rows under the names of the tables satisfy the filter and all joins if the tuple matches. -/
theorem holdsIn_zip_iff (htables : (plan.tables.map nameOf).Nodup) {tuple : List Row}
    (hlength : tuple.length = plan.tables.length) :
    plan.holdsIn ((plan.tables.map nameOf).zip tuple) = true ↔ plan.Matches tuple := by
  cases tuple with
  | nil => cases hlength
  | cons first others =>
    have hfilter : plan.filter.all (·.eval (JoinedRow.value?
        (((plan.tables.map nameOf).zip (first :: others)).take 1))) =
          plan.table.selects plan.filter first := rfl
    rw [holdsIn, hfilter, Bool.and_eq_true, List.all_eq_true]
    constructor
    · rintro ⟨hfirst, hjoins⟩
      refine ⟨by simpa using hfirst, fun join hjoin => ?_⟩
      exact (joinHoldsIn_zip_iff htables hlength).mp (hjoins join hjoin)
    · rintro ⟨hfirst, hjoins⟩
      refine ⟨by simpa using hfirst, fun join hjoin => ?_⟩
      exact (joinHoldsIn_zip_iff htables hlength).mpr (hjoins join hjoin)

end SelectPlan

/-! ### Carrying out a plan -/

/-- The engine has the table of a schema with this very schema and with these rows, each of which
has a value for each column. -/
def Engine.Holds (engine : Engine) (schema : TableSchema) (rows : List Row) : Prop :=
  (∃ table, engine.table schema.database schema.name = .ok table ∧ table.schema = schema ∧
    table.rows = rows) ∧ ∀ row ∈ rows, row.length = schema.columns.length

namespace SelectPlan

variable {plan : SelectPlan} {rows : List Row} {joinedTables : List (List Row)}

/-- The rows that are held are those that a query reads. -/
theorem rowsNow_of_holds {engine : Engine} {schema : TableSchema} {rows : List Row}
    (h : engine.Holds schema rows) : rowsNow engine schema = .ok rows := by
  obtain ⟨⟨table, htable, -, rfl⟩, -⟩ := h
  exact rowsNow_of_table htable

/-- A plan is carried out on the rows that its tables have. -/
theorem run_of_rowsNow {engine : Engine}
    (h : List.Forall₂ (fun schema rows => rowsNow engine schema = .ok rows) plan.tables
      (rows :: joinedTables)) :
    plan.run engine = .ok (plan.answer (plan.joinedRows rows joinedTables)) := by
  obtain ⟨hfirst, hjoined⟩ := List.forall₂_cons.mp h
  have hall : plan.joins.mapM (fun join => rowsNow engine join.table) = .ok joinedTables :=
    mapM_eq_ok_iff.mpr (List.forall₂_map_left_iff.mp hjoined)
  simp only [run, hfirst, hall, bind, Except.bind, pure, Except.pure]

/-- A plan is carried out on the rows that its tables hold. -/
theorem run_of_holds {engine : Engine}
    (h : List.Forall₂ engine.Holds plan.tables (rows :: joinedTables)) :
    plan.run engine = .ok (plan.answer (plan.joinedRows rows joinedTables)) :=
  run_of_rowsNow (h.imp fun _ _ => rowsNow_of_holds)

/-- An accepted plan is carried out on tables that have the schemas of the plan, with a value for
each column in their rows. The joined rows, before they are sorted and cut down to the answer, are
the tuples of one row from each table whose first row satisfies the filter, and which have equal
values, not null, in the columns of every join. They come in the lexicographic order of the
positions of their rows, each choice of positions once. -/
theorem joinedRows_product {registry : Registry} {request : FetchRequest}
    (hplan : ofRequest registry request = .ok plan) {engine : Engine}
    (hholds : List.Forall₂ engine.Holds plan.tables (rows :: joinedTables)) :
    plan.run engine = .ok (plan.answer (plan.joinedRows rows joinedTables)) ∧
      ∃ positions : List (List Nat), positions.Pairwise (· < ·) ∧
        (∀ chosen, chosen ∈ positions ↔
          List.Forall₂ (fun position rows => position < rows.length) chosen
              (rows :: joinedTables) ∧
            plan.Matches (choiceAt (rows :: joinedTables) chosen)) ∧
        plan.joinedRows rows joinedTables = positions.map fun chosen =>
          (plan.tables.map nameOf).zip (choiceAt (rows :: joinedTables) chosen) := by
  have htables := nodup_of_ofRequest hplan
  have hlength : plan.tables.length = (rows :: joinedTables).length := hholds.length_eq
  have hjoins : plan.joins.length = joinedTables.length := by
    simpa [SelectPlan.tables] using hlength
  let under (chosen : List Nat) : JoinedRow :=
    (plan.tables.map nameOf).zip (choiceAt (rows :: joinedTables) chosen)
  refine ⟨run_of_holds hholds, (positionsIn (rows :: joinedTables)).filter
    fun chosen => plan.holdsIn (under chosen), ?_, fun chosen => ?_, ?_⟩
  · exact (pairwise_positionsIn _).filter _
  · rw [List.mem_filter, mem_positionsIn]
    refine and_congr_right fun hchosen => holdsIn_zip_iff htables ?_
    rw [hlength, length_choiceAt hchosen]
  · rw [joinedRows_eq_filter (chain_of_ofRequest hplan) hjoins, choices_entries hlength,
      choices_eq_map_choiceAt, List.map_map, List.filter_map]
    rfl

end SelectPlan

/-! ### Rooms and their visitors -/

/-- Visitors are registered at the desk, in a database of its own. -/
def visitorSchema : TableSchema where
  database := "desk"
  name := "visitors"
  columns := [
    ⟨⟨"id", .int, false, true, false, none, none⟩, 0⟩,
    ⟨⟨"name", .text, false, false, false, none, none⟩, 1⟩]

/-- Three rooms, one of them without a guest. -/
def roomRows : List Row := [[.int 1, .null], [.int 2, .int 7], [.int 3, .int 7]]

/-- One visitor. -/
def visitorRows : List Row := [[.int 7, .text "Ann"]]

/-- A hotel with a desk. -/
def hotelEngine : Engine where
  databases := [⟨"hotel", [{ schema := roomSchema, rows := roomRows, nextId := 1 }]⟩,
    ⟨"desk", [{ schema := visitorSchema, rows := visitorRows, nextId := 1 }]⟩]
  transactions := 0

/-- The numbers of the rooms, with the names of the visitors in them. -/
def roomsWithVisitors : FetchRequest :=
  (FetchRequest.all "hotel" "rooms" ["number", "visitors.name", "number"]).joined
    "rooms.guest" "desk.visitors.id"

/-- The plan for the rooms with visitors. -/
def roomsPlan : SelectPlan where
  table := roomSchema
  projection := [⟨"hotel", "rooms", "number", 0, .int⟩, ⟨"desk", "visitors", "name", 1, .text⟩,
    ⟨"hotel", "rooms", "number", 0, .int⟩]
  filter := none
  joins := [⟨visitorSchema, ⟨"hotel", "rooms", "guest", 1, .int⟩,
    ⟨"desk", "visitors", "id", 0, .int⟩⟩]
  order := none
  page := some ⟨0, 10⟩
  distinct := false

/-- The rooms and the visitors are in the hotel. -/
theorem holds_hotelEngine :
    List.Forall₂ hotelEngine.Holds roomsPlan.tables [roomRows, visitorRows] := by
  refine .cons ⟨⟨_, rfl, rfl, rfl⟩, ?_⟩ (.cons ⟨⟨_, rfl, rfl, rfl⟩, ?_⟩ .nil)
  · simp [roomsPlan, roomRows, roomSchema]
  · simp [visitorRows, visitorSchema]

/-- The visitor is in two of the rooms; the room without a guest goes with nobody. -/
theorem SelectPlan.joinedRows_product_rooms :
    ofRequest hotelEngine.registry roomsWithVisitors = .ok roomsPlan ∧
      roomsPlan.run hotelEngine =
        .ok [[.int 2, .text "Ann", .int 2], [.int 3, .text "Ann", .int 3]] ∧
      ∃ positions : List (List Nat), positions.Pairwise (· < ·) ∧ positions.length = 2 ∧
        ∀ chosen ∈ positions, roomsPlan.Matches (choiceAt [roomRows, visitorRows] chosen) := by
  have hplan : ofRequest hotelEngine.registry roomsWithVisitors = .ok roomsPlan := by
    rfl
  obtain ⟨hrun, positions, hpairwise, hmem, hjoined⟩ := joinedRows_product hplan holds_hotelEngine
  refine ⟨hplan, hrun, positions, hpairwise, ?_, fun chosen hchosen => ((hmem chosen).mp hchosen).2⟩
  have hlength := congrArg List.length hjoined
  rw [List.length_map] at hlength
  exact hlength.symm

end Tabula
