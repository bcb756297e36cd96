import Tabula.Proofs.Select.Registration

/-!
# One path in two places

A path without a database may stand on a side of a join and among the requested fields. The join
takes the table of that name in the first database that has one, in the order of registration; the
field takes the first table of that name in the query, in the order in which the tables come in.
Both are a column of the name in the path, in a table of the name in the path. They are one and the
same as long as the table of the join comes into the query before all other tables of its name.
-/

namespace Tabula

/-! ### Paths without a database -/

/-- A path that is read has a dot in its text. -/
theorem FieldPath.dot_mem_of_ofText {text : String} {path : FieldPath}
    (h : ofText text = .ok path) : '.' ∈ text.toList := by
  obtain ⟨-, rfl⟩ := ofText_eq_ok_iff.mp h
  rw [FieldPath.text, String.toList_intercalate, names]
  cases path.database <;> simp [List.intercalate_cons_cons]

/-- A path without a database leads to the table of its name in the first database that has one. -/
theorem Registry.Lawful.of_resolveField_bare {registry : Registry} (h : registry.Lawful)
    {text : String} {path : FieldPath} (hpath : FieldPath.ofText text = .ok path)
    (hbare : path.database = none) {field : ResolvedField}
    (hfield : registry.resolveField text = .ok field) :
    registry.locate? path.table = some field.table.database ∧ field.table.name = path.table ∧
      field.table.column? path.column = some field.column := by
  obtain ⟨read, database, hread, hdatabase, hschema, hcolumn⟩ := resolveField_eq_ok_iff.mp hfield
  obtain rfl : path = read := Except.ok.inj (hpath.symm.trans hread)
  obtain ⟨-, rfl, hname⟩ := h.of_resolve hschema
  refine ⟨?_, hname, hcolumn⟩
  cases hlocate : registry.locate? path.table with
  | none => simp [databaseOf, hbare, hlocate] at hdatabase
  | some found => simpa [databaseOf, hbare, hlocate] using hdatabase

namespace SelectPlan

variable {registry : Registry} {request : FetchRequest} {plan : SelectPlan} {text : String}
  {own column : ColumnRef}

/-- Some join has the given text on one of its sides, which is bound to the column. -/
def SideDenotes (request : FetchRequest) (plan : SelectPlan) (text : String) (column : ColumnRef) :
    Prop :=
  ∃ join bound, (join, bound) ∈ request.joins.zip plan.joins ∧
    (join.left = text ∧ bound.left = column ∨ join.right = text ∧ bound.right = column)

/-- A requested field with the given text is bound to the column. -/
def FieldDenotes (request : FetchRequest) (plan : SelectPlan) (text : String)
    (column : ColumnRef) : Prop :=
  (text, column) ∈ request.fields.zip plan.projection

/-- A side of a join is bound to a field that the registry finds, in a table of the query. -/
theorem found_of_binds {tables : List TableSchema} {joins : List JoinRequest}
    {bound : List JoinPlan} (h : JoinPlan.Binds registry tables joins bound) {join : JoinRequest}
    {joinPlan : JoinPlan} (hmem : (join, joinPlan) ∈ joins.zip bound)
    (hside : join.left = text ∧ joinPlan.left = column ∨
      join.right = text ∧ joinPlan.right = column) :
    ∃ field, registry.resolveField text = .ok field ∧ column = .of field.table field.column ∧
      nameOf field.table ∈ (tables ++ bound.map (·.table)).map nameOf := by
  induction h with
  | nil => cases hmem
  | @cons tables first rest left right firstPlan others hleft hright hbound _ ih =>
    rcases List.mem_cons.mp hmem with heq | hmem
    · cases heq
      obtain ⟨rfl, hextends⟩ := bindJoin_eq_ok hbound
      rcases hside with ⟨rfl, rfl⟩ | ⟨rfl, rfl⟩
      · refine ⟨left, hleft, rfl, ?_⟩
        rw [List.map_append]
        exact List.mem_append_left _ hextends.left_mem
      · exact ⟨right, hright, rfl, by simp⟩
    · obtain ⟨field, hfield, hcolumn, htable⟩ := ih hmem
      exact ⟨field, hfield, hcolumn, by simpa using htable⟩

/-- A side of a join denotes a column that the registry finds in a table of the query. -/
theorem exists_found_of_sideDenotes (hregistry : registry.Lawful)
    (hplan : ofRequest registry request = .ok plan) (hside : SideDenotes request plan text own) :
    ∃ field, registry.resolveField text = .ok field ∧ field.table ∈ plan.tables ∧
      own = .of field.table field.column := by
  obtain ⟨join, bound, hmem, hside⟩ := hside
  obtain ⟨field, hfield, hown, htable⟩ :=
    found_of_binds (ofRequest_eq_ok_iff.mp hplan).joins hmem hside
  obtain ⟨schema, hschema, hnames⟩ := List.mem_map.mp htable
  obtain ⟨hdatabase, hname⟩ := Prod.mk.inj hnames
  -- The registry has one table of these names.
  have hknown := (wellFormed_of_ofRequest hregistry hplan).known schema hschema
  have hsame := hknown.eq (hregistry.of_resolveField hfield).1 hdatabase hname
  exact ⟨field, hfield, hsame ▸ hschema, hown⟩

/-- A requested field with a path is bound in the first table of the query that has the name in the
path. -/
theorem bindField_bare {first : TableSchema} {tables : List TableSchema} {path : FieldPath}
    (hpath : FieldPath.ofText text = .ok path) (hbare : path.database = none)
    (h : bindField first tables text = .ok column) :
    ∃ schema named, tables.find? (·.name == path.table) = some schema ∧
      schema.column? path.column = some named ∧ column = .of schema named := by
  have hdot : ¬ '.' ∉ text.toList := not_not.mpr (FieldPath.dot_mem_of_ofText hpath)
  simp only [bindField, if_neg hdot, hpath, hbare, Except.mapError, bind, Except.bind,
    Option.all_none, Bool.and_true] at h
  cases hfind : tables.find? (·.name == path.table) with
  | none => simp [hfind] at h
  | some schema =>
    simp only [hfind, columnFor] at h
    split at h
    · rename_i named hnamed
      exact ⟨schema, named, rfl, hnamed, (Except.ok.inj h).symm⟩
    · cases h

/-- The table that is found by its name is the first one of that name. -/
theorem find?_name_eq_some_iff {tables : List TableSchema} {name : String} {schema : TableSchema} :
    tables.find? (·.name == name) = some schema ↔
      schema.name = name ∧ ∃ before after, tables = before ++ schema :: after ∧
        ∀ earlier ∈ before, earlier.name ≠ name := by
  simp [List.find?_eq_some_iff_append]

/-- In an accepted request, a path without a database stands on a side of a join and among the
requested fields. Both are bound to a column of the name in the path, in a table of the name in the
path: the side of the join in the first database that has such a table, the field in the first such
table of the query. They are the same column of the same table exactly if the table of the join is
in the query before every other table of its name, so always if no two tables of the query have one
name. -/
theorem path_denotes_one_iff (hregistry : registry.Made)
    (hplan : ofRequest registry request = .ok plan) {path : FieldPath}
    (hpath : FieldPath.ofText text = .ok path) (hbare : path.database = none)
    (hside : SideDenotes request plan text own) (hfield : FieldDenotes request plan text column) :
    (own.name = path.column ∧ own.table = path.table ∧
        registry.locate? path.table = some own.database) ∧
      (column.name = path.column ∧ column.table = path.table ∧
        (plan.tables.find? (·.name == path.table)).map nameOf =
          some (column.database, column.table)) ∧
      (column = own ↔ ∃ before schema after, plan.tables = before ++ schema :: after ∧
        nameOf schema = (own.database, own.table) ∧
        ∀ earlier ∈ before, earlier.name ≠ path.table) ∧
      ((plan.tables.map (·.name)).Nodup → column = own) := by
  obtain ⟨found, hfound, hfoundMem, rfl⟩ :=
    exists_found_of_sideDenotes hregistry.lawful hplan hside
  obtain ⟨hlocate, hname, hown⟩ := hregistry.lawful.of_resolveField_bare hpath hbare hfound
  have hprojection := mapM_eq_ok_iff.mp (ofRequest_eq_ok_iff.mp hplan).projection
  obtain ⟨schema, named, hfind, hnamed, rfl⟩ :=
    bindField_bare hpath hbare (List.forall₂_zip hprojection hfield)
  have hschemaMem := List.mem_of_find?_eq_some hfind
  obtain ⟨hschemaName, before, after, htables, hbefore⟩ := find?_name_eq_some_iff.mp hfind
  -- One table has one column of the name, so it is enough to compare the tables.
  have hcolumn (hsame : schema = found.table) :
      ColumnRef.of schema named = .of found.table found.column := by
    subst hsame
    rw [Option.some.inj (hnamed.symm.trans hown)]
  have hcolumnName {schema : TableSchema} {column : Column}
      (h : schema.column? path.column = some column) : column.name = path.column := by
    simpa using List.find?_some h
  refine ⟨⟨hcolumnName hown, hname, hlocate⟩, ⟨hcolumnName hnamed, hschemaName, by rw [hfind]; rfl⟩,
    ⟨fun hsame => ?_, ?_⟩, fun hnodup => ?_⟩
  · exact ⟨before, schema, after, htables,
      Prod.ext (congrArg ColumnRef.database hsame) (congrArg ColumnRef.table hsame), hbefore⟩
  · rintro ⟨before, first, after, htables, hnames, hbefore⟩
    obtain ⟨hdatabase, htable⟩ := Prod.mk.inj hnames
    have hfirst := find?_name_eq_some_iff.mpr ⟨htable.trans hname, before, after, htables, hbefore⟩
    obtain rfl : schema = first := Option.some.inj (hfind.symm.trans hfirst)
    have hknown := (wellFormed_of_ofRequest hregistry.lawful hplan).known
    exact hcolumn ((hknown schema hschemaMem).eq (hknown _ hfoundMem) hdatabase htable)
  · exact hcolumn (List.inj_on_of_nodup_map hnodup hschemaMem hfoundMem
      (hschemaName.trans hname.symm))

/-! ### Two desks -/

/-- The annex keeps a table of visitors like that at the desk. -/
def annexVisitors : TableSchema := { visitorSchema with database := "annex" }

/-- A hotel with an annex, which was registered before the desk. -/
def twoDesks : Registry where
  catalogs := [⟨"annex", [annexVisitors]⟩, ⟨"desk", [visitorSchema]⟩]

/-- Both tables of visitors have been created. -/
theorem made_twoDesks : twoDesks.Made := by
  refine List.forall_mem_cons.mpr ⟨?_, List.forall_mem_singleton.mpr ?_⟩
  · exact @Catalog.Made.create (.empty "annex") _
      ⟨"visitors", annexVisitors.columns.map (·.toColumnSpec)⟩ (.empty "annex") rfl
  · exact @Catalog.Made.create (.empty "desk") _
      ⟨"visitors", visitorSchema.columns.map (·.toColumnSpec)⟩ (.empty "desk") rfl

/-- The visitors at one of the desks who are at the other one as well. -/
def visitorsOfBoth (database left right : String) : FetchRequest :=
  (FetchRequest.all database "visitors" ["visitors.id"]).joined left right

/-- The plan for the visitors of one table who are in the other one. -/
def planOfBoth (first second : TableSchema) : SelectPlan where
  table := first
  projection := [⟨first.database, "visitors", "id", 0, .int⟩]
  filter := none
  joins := [⟨second, ⟨first.database, "visitors", "id", 0, .int⟩,
    ⟨second.database, "visitors", "id", 0, .int⟩⟩]
  order := none
  page := some ⟨0, 10⟩
  distinct := false

/-- When the visitors of the annex are asked for, a path without a database means them in the join
and among the fields. -/
theorem path_denotes_one_iff_annex :
    ofRequest twoDesks (visitorsOfBoth "annex" "visitors.id" "desk.visitors.id") =
        .ok (planOfBoth annexVisitors visitorSchema) ∧
      FieldPath.ofText "visitors.id" = .ok ⟨none, "visitors", "id"⟩ ∧
      SideDenotes (visitorsOfBoth "annex" "visitors.id" "desk.visitors.id")
        (planOfBoth annexVisitors visitorSchema) "visitors.id"
        ⟨"annex", "visitors", "id", 0, .int⟩ ∧
      FieldDenotes (visitorsOfBoth "annex" "visitors.id" "desk.visitors.id")
        (planOfBoth annexVisitors visitorSchema) "visitors.id"
        ⟨"annex", "visitors", "id", 0, .int⟩ ∧
      twoDesks.locate? "visitors" = some "annex" ∧
      ∃ before schema after,
        (planOfBoth annexVisitors visitorSchema).tables = before ++ schema :: after ∧
        nameOf schema = ("annex", "visitors") ∧ ∀ earlier ∈ before, earlier.name ≠ "visitors" := by
  have hplan : ofRequest twoDesks (visitorsOfBoth "annex" "visitors.id" "desk.visitors.id") =
      .ok (planOfBoth annexVisitors visitorSchema) := rfl
  have hpath : FieldPath.ofText "visitors.id" = .ok ⟨none, "visitors", "id"⟩ := rfl
  have hside : SideDenotes (visitorsOfBoth "annex" "visitors.id" "desk.visitors.id")
      (planOfBoth annexVisitors visitorSchema) "visitors.id" ⟨"annex", "visitors", "id", 0, .int⟩ :=
    ⟨_, _, List.mem_singleton_self _, Or.inl ⟨rfl, rfl⟩⟩
  have hfield : FieldDenotes (visitorsOfBoth "annex" "visitors.id" "desk.visitors.id")
      (planOfBoth annexVisitors visitorSchema) "visitors.id" ⟨"annex", "visitors", "id", 0, .int⟩ :=
    List.mem_singleton_self _
  obtain ⟨⟨-, -, hlocate⟩, -, hiff, -⟩ :=
    path_denotes_one_iff made_twoDesks hplan hpath rfl hside hfield
  exact ⟨hplan, hpath, hside, hfield, hlocate, hiff.mp rfl⟩

/-- When the visitors at the desk are asked for, the same path means the annex in the join and the
desk among the fields. -/
theorem path_denotes_two :
    twoDesks.Made ∧
      ofRequest twoDesks (visitorsOfBoth "desk" "desk.visitors.id" "visitors.id") =
        .ok (planOfBoth visitorSchema annexVisitors) ∧
      FieldPath.ofText "visitors.id" = .ok ⟨none, "visitors", "id"⟩ ∧
      SideDenotes (visitorsOfBoth "desk" "desk.visitors.id" "visitors.id")
        (planOfBoth visitorSchema annexVisitors) "visitors.id"
        ⟨"annex", "visitors", "id", 0, .int⟩ ∧
      FieldDenotes (visitorsOfBoth "desk" "desk.visitors.id" "visitors.id")
        (planOfBoth visitorSchema annexVisitors) "visitors.id"
        ⟨"desk", "visitors", "id", 0, .int⟩ ∧
      ColumnRef.mk "annex" "visitors" "id" 0 .int ≠ ⟨"desk", "visitors", "id", 0, .int⟩ :=
  ⟨made_twoDesks, rfl, rfl, ⟨_, _, List.mem_singleton_self _, Or.inr ⟨rfl, rfl⟩⟩,
    List.mem_singleton_self _, by decide⟩

end SelectPlan

end Tabula
