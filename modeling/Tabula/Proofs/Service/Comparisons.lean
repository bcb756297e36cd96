import Tabula.Proofs.Filter.Comparisons
import Tabula.Proofs.Select.JoinOrder
import Tabula.Proofs.Select.Registration
import Tabula.Proofs.Service.Catalogs

/-!
# Comparisons on stored rows

The rows that a service holds fit their schemas, whatever it was asked to do before. So the algebra
of comparisons holds of all of them, and two requests that ask for equality to a value and for the
opposite divide the rows of a table between them, except for those with null in the column, which
neither gets.
-/

namespace Tabula

/-! ### One condition more -/

/-- A request for all rows of one table, repeated ones included. -/
structure FetchRequest.OfWholeTable (request : FetchRequest) : Prop where
  filters : request.filters = []
  joins : request.joins = []
  distinct : request.distinct = false

namespace SelectPlan

variable {engine : Engine} {request : FetchRequest} {plan : SelectPlan} {table : Table}

/-- The requested values of a row of one table. -/
def projectRow (plan : SelectPlan) (row : Row) : Row :=
  project plan.projection [(nameOf plan.table, row)]

/-- Without joins and without a page, and with repeated rows kept, each selected row is answered
once. -/
theorem run_unpaged_perm (hjoins : plan.joins = []) (hdistinct : plan.distinct = false)
    (hrows : rowsNow engine plan.table = .ok table.rows) :
    ∃ rows, plan.unpaged.run engine = .ok rows ∧
      rows.Perm ((table.rows.filter (plan.table.selects plan.filter)).map plan.projectRow) := by
  have hread : List.Forall₂ (fun schema rows => rowsNow engine schema = .ok rows)
      plan.unpaged.tables [table.rows] := by
    rw [tables, unpaged, hjoins]
    exact .cons hrows .nil
  have hjoined : plan.unpaged.joinedRows table.rows [] = plan.firstRows table.rows := by
    simp [joinedRows, unpaged, joinAll, firstRows]
  refine ⟨_, run_of_rowsNow hread, (@answer_perm plan.unpaged rfl hdistinct _).trans (.of_eq ?_)⟩
  rw [hjoined, firstRows, List.filter_map, List.map_map]
  rfl

/-- The plan of a request for a whole table reads the table that is asked for, without a filter and
without joins. -/
theorem of_wholeTable (hplan : ofRequest engine.registry request = .ok plan)
    (hwhole : request.OfWholeTable)
    (htable : engine.table request.database request.table = .ok table) :
    plan.table = table.schema ∧ plan.filter = none ∧ plan.joins = [] ∧ plan.distinct = false := by
  have hplans := ofRequest_eq_ok_iff.mp hplan
  obtain ⟨found, hfound, hschema⟩ := Engine.resolve_eq_ok_iff.mp hplans.first
  obtain rfl : table = found := Except.ok.inj (htable.symm.trans hfound)
  have hfilter := hplans.filter
  have hbinds := hplans.joins
  rw [hwhole.filters] at hfilter
  rw [hwhole.joins] at hbinds
  refine ⟨hschema.symm, (Except.ok.inj hfilter).symm, ?_, hplans.distinct.trans hwhole.distinct⟩
  generalize plan.joins = joins at hbinds
  cases hbinds
  rfl

/-- A request for a whole table is planned alike with a condition, apart from the filter. All rows
that it gives are then the selected rows of the table, each once. -/
theorem run_filtered_of_wholeTable (hplan : ofRequest engine.registry request = .ok plan)
    (hwhole : request.OfWholeTable)
    (htable : engine.table request.database request.table = .ok table)
    (hrows : rowsNow engine table.schema = .ok table.rows) {item : FilterItem}
    {filter : Option Predicate}
    (hfilter : FilterItem.compileAll table.schema [item] = .ok filter) :
    ∃ filtered rows, ofRequest engine.registry (request.filtered item) = .ok filtered ∧
      filtered.unpaged.run engine = .ok rows ∧
      rows.Perm ((table.rows.filter (table.schema.selects filter)).map plan.projectRow) := by
  obtain ⟨hschema, -, hjoins, hdistinct⟩ := of_wholeTable hplan hwhole htable
  rw [← hschema] at hfilter hrows ⊢
  have hitems : (request.filtered item).filters = [item] := by
    rw [FetchRequest.filtered, hwhole.filters, List.nil_append]
  have hplans := ofRequest_eq_ok_iff.mp hplan
  obtain ⟨rows, hrun, hperm⟩ :=
    @run_unpaged_perm engine { plan with filter := filter } table hjoins hdistinct hrows
  exact ⟨{ plan with filter := filter }, rows,
    ofRequest_eq_ok_iff.mpr { hplans with filter := hitems ▸ hfilter }, hrun, hperm⟩

end SelectPlan

namespace FilterItem

/-- The laws of comparisons with the value that a row has in a column. -/
structure ComparisonLaws (schema : TableSchema) (column : Column) (row : Row)
    (junction : Junction) : Prop where
  /-- Null is selected by no condition. -/
  null : (row.at column).isNull = true → ∀ operator values selected,
    outcome schema [.of column operator values junction] row = .ok selected → selected = false
  /-- Any other value is less than, equal to or greater than an accepted one, and just one of
  these. -/
  order : (row.at column).isNull = false → (row.at column).isNaN = false →
    ∀ x, Accepts schema column [x] → x.isNaN = false →
      ∃ given order, x.cast? column.type = some given ∧
        (row.at column).compare? given = some order ∧
        outcome schema [.of column .less [x] junction] row = .ok (order == .lt) ∧
        outcome schema [.of column .equal [x] junction] row = .ok (order == .eq) ∧
        outcome schema [.of column .greater [x] junction] row = .ok (order == .gt) ∧
        outcome schema [.of column .unequal [x] junction] row = .ok (order != .eq)
  /-- A value is unequal to an accepted one if it is neither null nor equal to it. -/
  unequal : ∀ x, Accepts schema column [x] →
    ∃ equal, outcome schema [.of column .equal [x] junction] row = .ok equal ∧
      outcome schema [.of column .unequal [x] junction] row =
        .ok (!(row.at column).isNull && !equal)
  /-- A value is one of several if it is equal to one of them. -/
  oneOf : ∀ values, Accepts schema column values →
    ∃ selected, outcome schema [.of column .oneOf values junction] row = .ok selected ∧
      outcome schema (anyEqual column values) row = .ok selected

/-- The laws hold of rows that fit the schema. -/
theorem comparisonLaws_of_fits {schema : TableSchema} (hlawful : schema.Lawful) {column : Column}
    (hcolumn : column ∈ schema.columns) {row : Row} (hfits : schema.Fits row)
    (junction : Junction) : ComparisonLaws schema column row junction where
  null hnull _ _ _ := outcome_of_isNull hlawful hcolumn hfits hnull
  order hnull hnumber _ hx hxNumber :=
    outcomes_of_compare hlawful hcolumn hfits hnull hnumber hx hxNumber junction
  unequal _ hx := outcome_unequal hlawful hcolumn hfits hx junction
  oneOf _ hvalues := outcome_oneOf hlawful hcolumn hfits hvalues junction

end FilterItem

open FilterItem (Accepts ComparisonLaws)

/-- In a service that requests lead to, the comparisons with a column obey their laws on all rows of
the table. Let a request for all rows of the table be accepted, and a value in conditions on the
column. Then the request is accepted with the condition of being equal to the value, and with that
of being unequal. The rows that it gives with the one, those with the other, and those where the
column is null are all the rows that it gives without a condition, each as often. -/
theorem Service.comparisons_of_reachable {service : Service} (h : service.Reachable)
    {database name : String} {table : Table}
    (htable : service.engine.table database name = .ok table) {column : Column}
    (hcolumn : column ∈ table.schema.columns) (junction : Junction) :
    (∀ row ∈ table.rows, ComparisonLaws table.schema column row junction) ∧
      ∀ x, Accepts table.schema column [x] → ∀ (request : FetchRequest) (plan : SelectPlan),
        SelectPlan.ofRequest service.engine.registry request = .ok plan →
        request.database = database → request.table = name → request.OfWholeTable →
          ∃ equal unequal rows equalRows unequalRows,
            SelectPlan.ofRequest service.engine.registry
              (request.filtered (.of column .equal [x] junction)) = .ok equal ∧
            SelectPlan.ofRequest service.engine.registry
              (request.filtered (.of column .unequal [x] junction)) = .ok unequal ∧
            plan.unpaged.run service.engine = .ok rows ∧
            equal.unpaged.run service.engine = .ok equalRows ∧
            unequal.unpaged.run service.engine = .ok unequalRows ∧
            (equalRows ++ unequalRows ++ (table.rows.filter fun row =>
              (row.at column).isNull).map plan.projectRow).Perm rows := by
  obtain ⟨hdatabase, hsound⟩ := Engine.ForAllTables.of_table h.sound htable
  have hname := Engine.name_of_table htable
  have hlaws : ∀ row ∈ table.rows, ComparisonLaws table.schema column row junction :=
    fun row hrow =>
      FilterItem.comparisonLaws_of_fits hsound.lawful hcolumn (hsound.fits row hrow) junction
  refine ⟨hlaws, ?_⟩
  rintro x hx request plan hplan rfl rfl hwhole
  have hread : SelectPlan.rowsNow service.engine table.schema = .ok table.rows :=
    SelectPlan.rowsNow_of_table (by rw [hdatabase, hname, htable])
  obtain ⟨hschema, hfilter, hjoins, hdistinct⟩ := SelectPlan.of_wholeTable hplan hwhole htable
  obtain ⟨rows, hrun, hrows⟩ := SelectPlan.run_unpaged_perm hjoins hdistinct (hschema ▸ hread)
  obtain ⟨given, hcast⟩ := FilterItem.exists_cast_of_accepts_singleton hsound.lawful hcolumn hx
  have hcompiled (operator : FilterOperator) := FilterItem.compileAll_singleton_eq_ok_iff.mpr
    ⟨_, @FilterItem.compile_of_cast _ _ _ junction hsound.lawful hcolumn _ hcast operator, rfl⟩
  obtain ⟨equal, equalRows, hequal, hequalRun, hequalRows⟩ :=
    SelectPlan.run_filtered_of_wholeTable hplan hwhole htable hread (hcompiled .equal)
  obtain ⟨unequal, unequalRows, hunequal, hunequalRun, hunequalRows⟩ :=
    SelectPlan.run_filtered_of_wholeTable hplan hwhole htable hread (hcompiled .unequal)
  refine ⟨equal, unequal, rows, equalRows, unequalRows, hequal, hunequal, hrun, hequalRun,
    hunequalRun, ?_⟩
  have hall : table.rows.filter (plan.table.selects plan.filter) = table.rows := by
    rw [hfilter]
    exact List.filter_true table.rows
  have hparts := FilterItem.filter_append_filter_append_filter_isNull_perm hsound.lawful hcolumn
    hsound.fits given
  rw [hall] at hrows
  refine List.Perm.trans ?_ ((hparts.map plan.projectRow).trans hrows.symm)
  rw [List.map_append, List.map_append]
  exact (hequalRows.append hunequalRows).append_right _

/-! ### Stays in a hotel -/

/-- Stays are numbered, and a room may be given to a stay. -/
def staySchema : TableSchema where
  database := "hotel"
  name := "stays"
  columns := [
    ⟨⟨"id", .int, false, true, true, none, none⟩, 0⟩,
    ⟨⟨"room", .int, true, false, false, none, none⟩, 1⟩]

/-- The room of a stay. -/
def stayRoom : Column := ⟨⟨"room", .int, true, false, false, none, none⟩, 1⟩

/-- A hotel where nobody has stayed yet. -/
def stayService : Service where
  engine := ⟨[⟨"hotel", [{ schema := staySchema, rows := [], nextId := 1 }]⟩], 0⟩
  save := .standard

/-- Three stays are booked, the first of them without a room. -/
def stayBookings : WriteRequest :=
  .insert "hotel" "stays" [[], [("room", .ofInt64 7)], [("room", .ofInt64 8)]]

/-- The table of the stays that are booked. -/
def bookedStays : Table :=
  ⟨staySchema, [[.int 1, .null], [.int 2, .int 7], [.int 3, .int 8]], 4⟩

/-- The hotel is reachable when the stays are booked. -/
theorem reachable_stayService : (stayService.run [.save stayBookings]).Reachable := by
  refine ⟨stayService, [.save stayBookings], ?_, rfl⟩
  exact @Engine.SetUp.build
    ⟨[⟨"hotel", [⟨"stays", staySchema.columns.map (·.toColumnSpec)⟩]⟩]⟩ stayService.engine rfl

/-- One stay is in the seventh room, one in another, and one has no room. -/
theorem Service.comparisons_of_reachable_stays :
    let service := stayService.run [.save stayBookings]
    let request := FetchRequest.all "hotel" "stays" ["id"]
    let item (operator : FilterOperator) : FilterItem := .of stayRoom operator [.int 7] .and
    service.Reachable ∧ service.engine.table "hotel" "stays" = .ok bookedStays ∧
      stayRoom ∈ bookedStays.schema.columns ∧ Accepts staySchema stayRoom [.int 7] ∧
      request.OfWholeTable ∧
      (∀ row ∈ bookedStays.rows, ComparisonLaws staySchema stayRoom row .and) ∧
      ∃ equal unequal,
        SelectPlan.ofRequest service.engine.registry (request.filtered (item .equal)) = .ok equal ∧
        SelectPlan.ofRequest service.engine.registry (request.filtered (item .unequal)) =
          .ok unequal ∧
        equal.unpaged.run service.engine = .ok [[.int 2]] ∧
        unequal.unpaged.run service.engine = .ok [[.int 3]] ∧
        [[Value.int 2], [.int 3], [.int 1]].Perm [[.int 1], [.int 2], [.int 3]] := by
  intro service request item
  have htable : service.engine.table "hotel" "stays" = .ok bookedStays := rfl
  have hcolumn : stayRoom ∈ bookedStays.schema.columns := by decide
  have haccepts : Accepts staySchema stayRoom [.int 7] := ⟨.equal, .and, _, rfl⟩
  have hwhole : request.OfWholeTable := ⟨rfl, rfl, rfl⟩
  obtain ⟨hlaws, hparts⟩ := comparisons_of_reachable reachable_stayService htable hcolumn .and
  obtain ⟨equal, unequal, rows, equalRows, unequalRows, hequal, hunequal, hrun, hequalRun,
    hunequalRun, hperm⟩ := hparts (.int 7) haccepts request _ rfl rfl rfl hwhole
  cases hequal
  cases hunequal
  cases hrun
  cases hequalRun
  cases hunequalRun
  exact ⟨reachable_stayService, htable, hcolumn, haccepts, hwhole, hlaws, _, _, rfl, rfl, rfl, rfl,
    hperm⟩

end Tabula
