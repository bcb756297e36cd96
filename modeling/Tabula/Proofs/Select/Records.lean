import Tabula.Proofs.Json.Fields
import Tabula.Proofs.Select.Product
import Tabula.Service

/-!
# Records of an answer

Carrying out a plan never misses a column: wherever a column of the filter, of a join, of the sort
or of the fields is looked up, its table has come in and the row has a value at its position. So
every record of an answer has the values of the requested fields in some joined row, each name once,
in the order of the request.
-/

namespace Tabula.SelectPlan

variable {tables : List TableSchema} {contents : List (List Row)}

/-! ### Tables and their rows -/

/-- The rows have a value for each column of the table. -/
def HasArity (schema : TableSchema) (rows : List Row) : Prop :=
  ∀ row ∈ rows, row.length = schema.columns.length

/-- A table of the query has a row in every choice, with a value for each column. -/
theorem exists_row_of_mem_choices (harity : List.Forall₂ HasArity tables contents)
    {tuple : List Row} (htuple : tuple ∈ choices contents) {schema : TableSchema}
    (hschema : schema ∈ tables) :
    ∃ row, (schema, row) ∈ tables.zip tuple ∧ row.length = schema.columns.length := by
  rw [mem_choices] at htuple
  induction harity generalizing tuple with
  | nil => simp at hschema
  | cons hfirst hrest ih =>
    obtain ⟨row, others, hrow, hothers, rfl⟩ := List.forall₂_cons_right_iff.mp htuple
    rcases List.mem_cons.mp hschema with rfl | hschema
    · exact ⟨row, by simp, hfirst row hrow⟩
    · obtain ⟨found, hfound, hlength⟩ := ih hothers hschema
      exact ⟨found, List.mem_cons_of_mem _ hfound, hlength⟩

/-- A column of a table of the query is found in every choice of entries. -/
theorem exists_value_of_mem_choices (htables : (tables.map nameOf).Nodup)
    (harity : List.Forall₂ HasArity tables contents) {joined : JoinedRow}
    (hjoined : joined ∈ choices (entries tables contents)) {column : ColumnRef}
    (hcolumn : ∃ schema ∈ tables, column.RefersTo schema) :
    ∃ value, joined.value? column = some value := by
  obtain ⟨schema, hschema, hrefers⟩ := hcolumn
  rw [choices_entries harity.length_eq] at hjoined
  obtain ⟨tuple, htuple, rfl⟩ := List.mem_map.mp hjoined
  obtain ⟨row, hrow, hlength⟩ := exists_row_of_mem_choices harity htuple hschema
  obtain ⟨value, hvalue⟩ := hrefers.exists_value hlength
  have htupleLength : tuple.length = tables.length :=
    (mem_choices.mp htuple).length_eq.trans harity.length_eq.symm
  exact ⟨value, (value?_zip_eq_some_iff htables htupleLength).mpr
    ⟨schema, row, hrow, hrefers.belongsTo, hvalue⟩⟩

/-! ### Look-ups while a plan is carried out -/

variable {plan : SelectPlan} {rows : List Row} {joinedTables : List (List Row)}

/-- The joined rows after the first joins. -/
def joinedUpTo (plan : SelectPlan) (rows : List Row) (joinedTables : List (List Row)) (k : Nat) :
    List JoinedRow :=
  joinAll (plan.firstRows rows) ((plan.joins.zip joinedTables).take k)

/-- Every column that is looked up while the plan is carried out is found. -/
structure NeverMisses (plan : SelectPlan) (rows : List Row) (joinedTables : List (List Row)) :
    Prop where
  filter : ∀ row ∈ rows, ∀ predicate ∈ plan.filter, ∀ column ∈ predicate.columns,
    ∃ value, plan.table.view row column = some value
  left : ∀ (k : Nat) (join : JoinPlan), plan.joins[k]? = some join →
    ∀ joined ∈ plan.joinedUpTo rows joinedTables k, ∃ value, joined.value? join.left = some value
  right : ∀ (join : JoinPlan) (others : List Row), (join, others) ∈ plan.joins.zip joinedTables →
    ∀ row ∈ others, ∃ value : Value, row[join.right.index]? = some value
  order : ∀ order ∈ plan.order, ∀ joined ∈ plan.joinedRows rows joinedTables,
    ∃ value, joined.value? order.column = some value
  projection : ∀ column ∈ plan.projection, ∀ joined ∈ plan.joinedRows rows joinedTables,
    ∃ value, joined.value? column = some value

/-- The joined rows after the first joins are those of the plan with these joins only. -/
theorem joinedUpTo_eq (plan : SelectPlan) (rows : List Row) (joinedTables : List (List Row))
    (k : Nat) :
    plan.joinedUpTo rows joinedTables k =
      { plan with joins := plan.joins.take k }.joinedRows rows (joinedTables.take k) := by
  rw [joinedUpTo, joinedRows, List.zip, List.take_zipWith]
  rfl

/-- A column of a table of the query is found in the joined rows. -/
theorem exists_value_of_mem_joinedRows (hchain : JoinPlan.Chain [plan.table] plan.joins)
    (harity : List.Forall₂ HasArity plan.tables (rows :: joinedTables)) {column : ColumnRef}
    (hcolumn : ∃ schema ∈ plan.tables, column.RefersTo schema) {joined : JoinedRow}
    (hjoined : joined ∈ plan.joinedRows rows joinedTables) :
    ∃ value, joined.value? column = some value := by
  have hlength : plan.joins.length = joinedTables.length := by
    simpa [SelectPlan.tables] using harity.length_eq
  rw [joinedRows_eq_filter hchain hlength] at hjoined
  exact exists_value_of_mem_choices (hchain.nodup (List.nodup_singleton _)) harity
    (List.mem_filter.mp hjoined).1 hcolumn

/-- A column of a table that is in the query after the first joins is found in the joined rows. -/
theorem exists_value_of_mem_joinedUpTo (hchain : JoinPlan.Chain [plan.table] plan.joins)
    (harity : List.Forall₂ HasArity plan.tables (rows :: joinedTables)) {k : Nat}
    {column : ColumnRef} (hcolumn : ∃ schema ∈ plan.tables.take (k + 1), column.RefersTo schema)
    {joined : JoinedRow} (hjoined : joined ∈ plan.joinedUpTo rows joinedTables k) :
    ∃ value, joined.value? column = some value := by
  let first : SelectPlan := { plan with joins := plan.joins.take k }
  have htables : first.tables = plan.tables.take (k + 1) := by
    simp [first, SelectPlan.tables, List.map_take]
  have hfirst : List.Forall₂ HasArity first.tables (rows :: joinedTables.take k) :=
    htables ▸ List.forall₂_take (k + 1) harity
  have hmem : joined ∈ first.joinedRows rows (joinedTables.take k) := joinedUpTo_eq .. ▸ hjoined
  rw [← htables] at hcolumn
  exact exists_value_of_mem_joinedRows (hchain.take k) hfirst hcolumn hmem

/-- A well-formed plan never misses a column of tables whose rows have a value for each column. -/
theorem WellFormed.neverMisses {registry : Registry} {request : FetchRequest}
    (h : plan.WellFormed registry request) (hchain : JoinPlan.Chain [plan.table] plan.joins)
    (harity : List.Forall₂ HasArity plan.tables (rows :: joinedTables)) :
    plan.NeverMisses rows joinedTables := by
  obtain ⟨hrows, hjoinedRows⟩ := List.forall₂_cons.mp harity
  refine ⟨fun row hrow predicate hpredicate column hcolumn => ?_,
    fun k join hjoin joined hmem => ?_, fun join others hmem row hrow => ?_,
    fun order horder joined hmem => ?_, fun column hcolumn joined hmem => ?_⟩
  · have hrefers := h.filter predicate hpredicate column hcolumn
    rw [hrefers.view_eq row]
    exact hrefers.exists_value (hrows row hrow)
  · exact exists_value_of_mem_joinedUpTo hchain harity (h.joins k join hjoin).1 hmem
  · obtain ⟨k, hjoin⟩ := List.getElem?_of_mem (List.of_mem_zip hmem).1
    have hothers : HasArity join.table others :=
      (List.forall₂_iff_zip.mp (List.forall₂_map_left_iff.mp hjoinedRows)).2 hmem
    exact (h.joins k join hjoin).2.1.exists_value (hothers row hrow)
  · have hsort := h.order
    rw [Option.mem_def.mp horder] at hsort
    generalize request.sort = sort at hsort
    cases hsort with
    | some hnames =>
      exact exists_value_of_mem_joinedRows hchain harity ⟨_, List.mem_cons_self, hnames.1⟩ hmem
  · obtain ⟨field, -, hnames⟩ := exists_of_mem_right h.projection hcolumn
    exact exists_value_of_mem_joinedRows hchain harity hnames.1 hmem

/-! ### Records -/

/-- The last row is kept if no row that is kept equals it. -/
theorem distinctRows_append_singleton (rows : List Row) (last : Row) :
    distinctRows (rows ++ [last]) =
      if (distinctRows rows).any (sameRow · last) then distinctRows rows
      else distinctRows rows ++ [last] := by
  rw [distinctRows, List.foldl_append]
  rfl

/-- The rows that are kept are among the given ones. -/
theorem mem_of_mem_distinctRows {row : Row} (h : row ∈ distinctRows rows) : row ∈ rows := by
  induction rows using List.reverseRecOn with
  | nil => exact h
  | append_singleton rows last ih =>
    rw [distinctRows_append_singleton] at h
    split at h
    · exact List.mem_append_left _ (ih h)
    · exact (List.mem_append.mp h).elim (fun hold => List.mem_append_left _ (ih hold))
        (List.mem_append_right _)

/-- The rows of a page are among the given ones. -/
theorem mem_of_mem_cut {page : PageWindow} {row : Row} (h : row ∈ page.cut rows) : row ∈ rows :=
  List.mem_of_mem_drop (List.mem_of_mem_take h)

/-- The sort brings in no rows. -/
theorem mem_of_mem_sortRows {order : Option OrderBy} {joinedRows : List JoinedRow}
    {joined : JoinedRow} (h : joined ∈ sortRows order joinedRows) : joined ∈ joinedRows := by
  cases order with
  | none => exact h
  | some order => exact List.mem_mergeSort.mp h

/-- A row of an answer has the requested values of a joined row. -/
theorem exists_of_mem_answer {joinedRows : List JoinedRow} {row : Row}
    (h : row ∈ plan.answer joinedRows) :
    ∃ joined ∈ joinedRows, row = project plan.projection joined := by
  let projected := (sortRows plan.order joinedRows).map (project plan.projection)
  have hdistinct : row ∈ if plan.distinct then distinctRows projected else projected := by
    unfold answer at h
    cases hpage : plan.page with
    | none => simpa only [hpage] using h
    | some page =>
      rw [hpage] at h
      exact mem_of_mem_cut h
  have hprojected : row ∈ projected := by
    split at hdistinct
    · exact mem_of_mem_distinctRows hdistinct
    · exact hdistinct
  obtain ⟨joined, hjoined, rfl⟩ := List.mem_map.mp hprojected
  exact ⟨joined, mem_of_mem_sortRows hjoined, rfl⟩

/-- A record has each of the fields once, in their order, with the values of their columns in a
joined row. -/
def IsRecordOf (fields : List String) (columns : List ColumnRef) (joined : JoinedRow)
    (record : Record) : Prop :=
  record.map (·.1) = fields.eraseDups ∧
    ∀ field column, (field, column) ∈ fields.zip columns →
      ∃ value, joined.value? column = some value ∧ record.lookup field = some value

/-- Equal fields of an accepted plan have equal columns. -/
theorem column_unique {registry : Registry} {request : FetchRequest}
    (h : ofRequest registry request = .ok plan) {field : String} {column other : ColumnRef}
    (hcolumn : (field, column) ∈ request.fields.zip plan.projection)
    (hother : (field, other) ∈ request.fields.zip plan.projection) : other = column := by
  obtain ⟨-, -, -, hprojection, -⟩ := ofRequest_eq_ok h
  obtain ⟨-, hbound⟩ := List.forall₂_iff_zip.mp hprojection
  exact Except.ok.inj ((hbound hother).symm.trans (hbound hcolumn))

/-- If all columns are found, and equal fields have equal columns, then naming the values of the
columns makes a record of the fields. -/
theorem isRecordOf_ofRow {fields : List String} {columns : List ColumnRef} {joined : JoinedRow}
    (hlength : fields.length = columns.length)
    (hfound : ∀ column ∈ columns, ∃ value, joined.value? column = some value)
    (hunique : ∀ field column other, (field, column) ∈ fields.zip columns →
      (field, other) ∈ fields.zip columns → other = column) :
    IsRecordOf fields columns joined (Record.ofRow fields (project columns joined)) := by
  have hvalues : fields.zip (project columns joined) = (fields.zip columns).map
      (Prod.map id fun column => (joined.value? column).getD .null) := by
    rw [project, List.zip_map_right]
  refine ⟨?_, fun field column hcolumn => ?_⟩
  · rw [Record.ofRow, Json.names_lastOfEach, List.map_fst_zip (by simp [project, hlength])]
  · obtain ⟨value, hvalue⟩ := hfound column (List.of_mem_zip hcolumn).2
    refine ⟨value, hvalue, Json.lookup_lastOfEach_of_forall ?_ fun later hlater => ?_⟩
    · rw [hvalues]
      exact List.mem_map.mpr ⟨(field, column), hcolumn, by simp [hvalue]⟩
    · rw [hvalues] at hlater
      obtain ⟨⟨_, other⟩, hother, heq⟩ := List.mem_map.mp hlater
      simp only [Prod.map_apply, id_eq, Prod.mk.injEq] at heq
      obtain ⟨rfl, rfl⟩ := heq
      rw [hunique _ column other hcolumn hother, hvalue, Option.getD_some]

/-- The rows of an answer, named by the fields of the request, are records of these fields. -/
theorem isRecordOf_of_answer {registry : Registry} {request : FetchRequest}
    (hplan : ofRequest registry request = .ok plan) {joinedRows : List JoinedRow}
    (hfound : ∀ column ∈ plan.projection, ∀ joined ∈ joinedRows,
      ∃ value, joined.value? column = some value) :
    ∀ record ∈ (plan.answer joinedRows).map (Record.ofRow request.fields),
      ∃ joined ∈ joinedRows, IsRecordOf request.fields plan.projection joined record := by
  obtain ⟨-, -, -, hprojection, -⟩ := ofRequest_eq_ok hplan
  intro record hrecord
  obtain ⟨row, hrow, rfl⟩ := List.mem_map.mp hrecord
  obtain ⟨joined, hjoined, rfl⟩ := exists_of_mem_answer hrow
  exact ⟨joined, hjoined, isRecordOf_ofRow hprojection.length_eq
    (fun column hcolumn => hfound column hcolumn joined hjoined)
    fun _ _ _ => column_unique hplan⟩

/-- A service fetches the rows of the answer, named by the fields of the request. -/
theorem fetchRecords_of_holds {service : Service} {request : FetchRequest}
    (hplan : ofRequest service.engine.registry request = .ok plan)
    (hholds : List.Forall₂ service.engine.Holds plan.tables (rows :: joinedTables)) :
    service.fetchRecords request = .ok ((plan.answer (plan.joinedRows rows joinedTables)).map
      (Record.ofRow request.fields)) := by
  simp only [Service.fetchRecords, hplan, run_of_holds hholds, Except.mapError, bind, Except.bind,
    pure, Except.pure]

/-- A plan that is accepted for a registry whose catalogs have been made is well formed: no two of
its tables have the same names, a join compares a column of an earlier table with one of its own of
the same type, filter and sort stay with the first table, there is a column for each requested
field, and all references are to columns of their tables. Carried out on tables with these schemas
and a value for each column in their rows, the plan never misses a column. Each record of the answer
has every requested field once, in their order, with the value of its column in a joined row. -/
theorem ofRequest_never_misses {registry : Registry} (hregistry : registry.Made)
    {request : FetchRequest} {plan : SelectPlan} (hplan : ofRequest registry request = .ok plan) :
    plan.WellFormed registry request ∧
      ∀ (engine : Engine) (rows : List Row) (joinedTables : List (List Row)),
        List.Forall₂ engine.Holds plan.tables (rows :: joinedTables) →
          plan.NeverMisses rows joinedTables ∧
          ∃ answer, plan.run engine = .ok answer ∧
            (∀ record ∈ answer.map (Record.ofRow request.fields),
              ∃ joined ∈ plan.joinedRows rows joinedTables,
                IsRecordOf request.fields plan.projection joined record) ∧
            ∀ service : Service, service.engine = engine → engine.registry = registry →
              service.fetchRecords request = .ok (answer.map (Record.ofRow request.fields)) := by
  have hwellFormed := wellFormed_of_ofRequest hregistry.lawful hplan
  refine ⟨hwellFormed, fun engine rows joinedTables hholds => ?_⟩
  have harity : List.Forall₂ HasArity plan.tables (rows :: joinedTables) :=
    hholds.imp fun _ _ h => h.2
  have hfound := hwellFormed.neverMisses (chain_of_ofRequest hplan) harity
  refine ⟨hfound, _, run_of_holds hholds, isRecordOf_of_answer hplan hfound.projection, ?_⟩
  rintro service rfl rfl
  exact fetchRecords_of_holds hplan hholds

/-- The catalogs of the hotel and of its desk are made by creating their tables. -/
theorem made_hotelEngine : hotelEngine.registry.Made := by
  refine List.forall_mem_cons.mpr ⟨?_, List.forall_mem_singleton.mpr ?_⟩
  · exact @Catalog.Made.create (.empty "hotel") _
      ⟨"rooms", roomSchema.columns.map (·.toColumnSpec)⟩ (.empty "hotel") rfl
  · exact @Catalog.Made.create (.empty "desk") _
      ⟨"visitors", visitorSchema.columns.map (·.toColumnSpec)⟩ (.empty "desk") rfl

/-- The number of a room is asked for twice and is in its record once. -/
theorem ofRequest_never_misses_rooms :
    hotelEngine.registry.Made ∧
      ofRequest hotelEngine.registry roomsWithVisitors = .ok roomsPlan ∧
      roomsPlan.WellFormed hotelEngine.registry roomsWithVisitors ∧
      roomsPlan.NeverMisses roomRows [visitorRows] ∧
      (⟨hotelEngine, .standard⟩ : Service).fetchRecords roomsWithVisitors =
        .ok [[("number", .int 2), ("visitors.name", .text "Ann")],
          [("number", .int 3), ("visitors.name", .text "Ann")]] := by
  have hplan : ofRequest hotelEngine.registry roomsWithVisitors = .ok roomsPlan := rfl
  obtain ⟨hwellFormed, hheld⟩ := ofRequest_never_misses made_hotelEngine hplan
  obtain ⟨hfound, answer, hrun, -, hfetch⟩ := hheld hotelEngine roomRows [visitorRows]
    holds_hotelEngine
  refine ⟨made_hotelEngine, hplan, hwellFormed, hfound, (hfetch _ rfl rfl).trans ?_⟩
  have hanswer := Except.ok.inj ((run_of_holds holds_hotelEngine).symm.trans hrun)
  rw [← hanswer]
  rfl

end Tabula.SelectPlan
