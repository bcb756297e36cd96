import Tabula.Proofs.Schema.Registration
import Tabula.Proofs.Select.Product

/-!
# Plans in a larger registry

A plan depends on the registry only by the tables and fields that the request names, and the memo
of these does not show in it. So a request that can be planned is planned alike when more databases
are registered.
-/

namespace Tabula

/-- What the joins of a request are bound to, given the tables that are in the query. -/
inductive JoinPlan.Binds (registry : Registry) :
    List TableSchema → List JoinRequest → List JoinPlan → Prop
  | nil {tables : List TableSchema} : Binds registry tables [] []
  | cons {tables : List TableSchema} {join : JoinRequest} {rest : List JoinRequest}
      {left right : ResolvedField} {first : JoinPlan} {others : List JoinPlan}
      (leftFound : registry.resolveField join.left = .ok left)
      (rightFound : registry.resolveField join.right = .ok right)
      (bound : SelectPlan.bindJoin tables join left right = .ok first)
      (later : Binds registry (tables ++ [first.table]) rest others) :
      Binds registry tables (join :: rest) (first :: others)

/-- The plan of a request, as the registry has its tables and fields. -/
structure SelectPlan.Plans (registry : Registry) (request : FetchRequest) (plan : SelectPlan) :
    Prop where
  page : ∃ page, PageWindow.ofPage request.pageNumber request.pageSize = .ok page ∧
    plan.page = some page
  fields : request.fields.isEmpty = false
  first : registry.resolve request.database request.table = .ok plan.table
  filter : FilterItem.compileAll plan.table request.filters = .ok plan.filter
  joins : JoinPlan.Binds registry [plan.table] request.joins plan.joins
  projection : request.fields.mapM (SelectPlan.bindField plan.table plan.tables) =
    .ok plan.projection
  order : request.sort.mapM (SelectPlan.bindSort plan.table) = .ok plan.order
  distinct : plan.distinct = request.distinct

namespace SelectPlan

variable {registry extended : Registry}

/-- Joins are bound as the registry has their fields, whatever is in a memo that agrees with it. -/
theorem bindJoins_eq_ok_iff {memo : TableMemo} (hmemo : memo.Agrees registry)
    {tables : List TableSchema} {joins : List JoinRequest} {bound : List JoinPlan} :
    bindJoins registry memo tables joins = .ok bound ↔
      JoinPlan.Binds registry tables joins bound := by
  induction joins generalizing memo tables bound with
  | nil =>
    constructor
    · intro h
      cases h
      exact .nil
    · rintro ⟨⟩
      rfl
  | cons join rest ih =>
    obtain ⟨hleft, hmemo⟩ := hmemo.resolveField join.left
    obtain ⟨hright, hmemo⟩ := hmemo.resolveField join.right
    constructor
    · intro h
      obtain ⟨left, right, first, others, hleftField, hrightField, hfirst, hothers, rfl⟩ :=
        bindJoins_cons_eq_ok h
      exact .cons (hleft ▸ hleftField) (hright ▸ hrightField) hfirst ((ih hmemo).mp hothers)
    · rintro (_ | ⟨hleftField, hrightField, hfirst, hothers⟩)
      rw [← hleft] at hleftField
      rw [← hright] at hrightField
      simp only [bindJoins]
      exact bind_eq_ok_iff.mpr ⟨_, mapError_eq_ok_iff.mpr hleftField,
        bind_eq_ok_iff.mpr ⟨_, mapError_eq_ok_iff.mpr hrightField,
          bind_eq_ok_iff.mpr ⟨_, hfirst, bind_eq_ok_iff.mpr ⟨_, (ih hmemo).mpr hothers, rfl⟩⟩⟩⟩

/-- A request is planned exactly if its page is one, it names a field, and its tables, conditions
and fields are found. -/
theorem ofRequest_eq_ok_iff {request : FetchRequest} {plan : SelectPlan} :
    ofRequest registry request = .ok plan ↔ Plans registry request plan := by
  obtain ⟨hresolve, hmemo⟩ :=
    (TableMemo.agrees_empty registry).resolve request.database request.table
  constructor
  · intro h
    obtain ⟨page, hpage, h⟩ := bind_eq_ok_iff.mp h
    cases hfields : request.fields.isEmpty with
    | true =>
      simp only [hfields, if_pos] at h
      cases h
    | false =>
      simp only [hfields, Bool.false_eq_true, if_false] at h
      rcases TableMemo.empty.resolve registry request.database request.table with ⟨found, memo⟩
      obtain ⟨table, htable, h⟩ := bind_eq_ok_iff.mp h
      obtain ⟨filter, hfilter, h⟩ := bind_eq_ok_iff.mp h
      obtain ⟨joins, hjoins, h⟩ := bind_eq_ok_iff.mp h
      obtain ⟨projection, hprojection, h⟩ := bind_eq_ok_iff.mp h
      obtain ⟨order, horder, h⟩ := bind_eq_ok_iff.mp h
      cases h
      rw [mapError_eq_ok_iff, hresolve] at htable
      exact {
        page := ⟨page, hpage, rfl⟩
        fields := hfields
        first := htable
        filter := mapError_eq_ok_iff.mp hfilter
        joins := (bindJoins_eq_ok_iff hmemo).mp hjoins
        projection := hprojection
        order := horder
        distinct := rfl }
  · rintro ⟨⟨page, hpage, hpaged⟩, hfields, hfirst, hfilter, hjoins, hprojection, horder, hdistinct⟩
    obtain ⟨table, projection, filter, joins, order, paged, distinct⟩ := plan
    cases hpaged
    cases hdistinct
    refine bind_eq_ok_iff.mpr ⟨page, hpage, ?_⟩
    simp only [hfields, Bool.false_eq_true, if_false]
    exact bind_eq_ok_iff.mpr ⟨table, mapError_eq_ok_iff.mpr (hresolve.trans hfirst),
      bind_eq_ok_iff.mpr ⟨filter, mapError_eq_ok_iff.mpr hfilter,
        bind_eq_ok_iff.mpr ⟨joins, (bindJoins_eq_ok_iff hmemo).mpr hjoins,
          bind_eq_ok_iff.mpr ⟨projection, hprojection,
            bind_eq_ok_iff.mpr ⟨order, horder, rfl⟩⟩⟩⟩⟩

end SelectPlan

/-! ### More databases -/

namespace Registry.Extends

variable {registry extended : Registry}

/-- Joins are bound alike in a larger registry. -/
theorem binds (h : registry.Extends extended) {tables : List TableSchema}
    {joins : List JoinRequest} {bound : List JoinPlan}
    (hbinds : JoinPlan.Binds registry tables joins bound) :
    JoinPlan.Binds extended tables joins bound := by
  induction hbinds with
  | nil => exact .nil
  | cons left right bound _ ih => exact .cons (h.resolveField left) (h.resolveField right) bound ih

/-- A request for rows is planned alike in a larger registry. -/
theorem selectPlan (h : registry.Extends extended) {request : FetchRequest} {plan : SelectPlan}
    (hplan : SelectPlan.ofRequest registry request = .ok plan) :
    SelectPlan.ofRequest extended request = .ok plan := by
  have hplans := SelectPlan.ofRequest_eq_ok_iff.mp hplan
  exact SelectPlan.ofRequest_eq_ok_iff.mpr
    { hplans with first := h.resolve hplans.first, joins := h.binds hplans.joins }

/-- A request to delete rows is planned alike in a larger registry. -/
theorem deletePlan (h : registry.Extends extended) {request : DeleteRequest} {plan : DeletePlan}
    (hplan : DeletePlan.ofRequest registry request = .ok plan) :
    DeletePlan.ofRequest extended request = .ok plan := by
  obtain ⟨schema, hschema, hplan⟩ := bind_eq_ok_iff.mp hplan
  have hfound := h.resolve (mapError_eq_ok_iff.mp hschema)
  exact bind_eq_ok_iff.mpr ⟨schema, mapError_eq_ok_iff.mpr hfound, hplan⟩

end Registry.Extends

/-- A database whose name is new can be registered. It comes after all others, and then all is found
as it was before: every field that was found, and the plan of every request that could be planned. A
path without a database leads where it leads with the name of the first database that has the table.
A text is a path exactly if it consists of two or three parts with dots between them, none of which
is empty or has a dot, and it is read as these parts. -/
theorem Registry.found_after_register (registry : Registry) :
    (∀ catalog, catalog.name ∉ registry.names →
      let extended : Registry := ⟨registry.catalogs ++ [catalog]⟩
      registry.register catalog = .ok extended ∧
      (∀ text field, registry.resolveField text = .ok field →
        extended.resolveField text = .ok field) ∧
      (∀ request plan, SelectPlan.ofRequest registry request = .ok plan →
        SelectPlan.ofRequest extended request = .ok plan) ∧
      ∀ request plan, DeletePlan.ofRequest registry request = .ok plan →
        DeletePlan.ofRequest extended request = .ok plan) ∧
    (∀ before first after table column,
      registry.catalogs = before ++ first :: after →
      (∀ earlier ∈ before, earlier.contains table = false) →
      first.contains table = true →
      (FieldPath.mk (some first.name) table column).IsPlain →
      registry.resolveField (FieldPath.mk none table column).text =
        registry.resolveField (FieldPath.mk (some first.name) table column).text) ∧
    ∀ text path, FieldPath.ofText text = .ok path ↔ path.IsPlain ∧ path.text = text := by
  refine ⟨fun catalog hnew => ?_, fun _ _ _ _ _ => resolveField_of_first,
    fun _ _ => FieldPath.ofText_eq_ok_iff⟩
  have hextends := registry.extends_append catalog
  exact ⟨register_eq_ok_iff.mpr ⟨hnew, rfl⟩, fun _ _ => hextends.resolveField,
    fun _ _ => hextends.selectPlan, fun _ _ => hextends.deletePlan⟩

/-! ### An annex -/

/-- An annex of the hotel has visitors of its own, who are known by a code. -/
def annexCatalog : Catalog where
  name := "annex"
  tables := [⟨"annex", "visitors", [⟨⟨"code", .text, false, true, false, none, none⟩, 0⟩]⟩]

/-- When the annex is registered, the visitors of the rooms are still those at the desk. -/
theorem Registry.found_after_register_annex :
    let extended : Registry :=
      ⟨[⟨"hotel", [roomSchema]⟩, ⟨"desk", [visitorSchema]⟩, annexCatalog]⟩
    annexCatalog.name ∉ hotelEngine.registry.names ∧
      SelectPlan.ofRequest hotelEngine.registry roomsWithVisitors = .ok roomsPlan ∧
      hotelEngine.registry.register annexCatalog = .ok extended ∧
      SelectPlan.ofRequest extended roomsWithVisitors = .ok roomsPlan ∧
      hotelEngine.registry.resolveField "visitors.name" =
        hotelEngine.registry.resolveField "desk.visitors.name" ∧
      (FieldPath.mk none "visitors" "name").IsPlain := by
  intro extended
  have hnew : annexCatalog.name ∉ hotelEngine.registry.names := by decide
  have hplan : SelectPlan.ofRequest hotelEngine.registry roomsWithVisitors = .ok roomsPlan := rfl
  obtain ⟨hregister, hfirst, hpath⟩ := found_after_register hotelEngine.registry
  obtain ⟨hextended, -, hselect, -⟩ := hregister annexCatalog hnew
  have hsame := hfirst [⟨"hotel", [roomSchema]⟩] ⟨"desk", [visitorSchema]⟩ [] "visitors" "name" rfl
    (by decide) (by decide) (by decide)
  exact ⟨hnew, hplan, hextended, hselect _ _ hplan, hsame,
    ((hpath "visitors.name" ⟨none, "visitors", "name"⟩).mp rfl).1⟩

end Tabula
