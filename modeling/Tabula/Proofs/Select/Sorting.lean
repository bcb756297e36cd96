import Tabula.Proofs.Select.Pages
import Tabula.Proofs.Value.Sorting

/-!
# Sorted rows

The sort of a plan rearranges the joined rows and nothing else. Its column belongs to the first
table, so each joined row has a value there, and where these values are null or numbers, texts and
so on of one type, they come out in order: null first, or last if the order is descending. Rows with
equal values keep the order that they have without the sort, also if it is descending, since only
the comparison is turned round and not the list.
-/

namespace Tabula

open Std (OrientedCmp TransCmp)

/-! ### Stable sorting -/

/-- A list is sorted stably: of two items that are equal in the order, the one that came first in
the list comes first. It is enough that the sort goes by a lawful order on the items of the list. -/
theorem exists_numbered_mergeSort {A : Type} {items : List A} {le : A → A → Bool}
    (order : A → A → Ordering) [TransCmp order]
    (hle : ∀ a ∈ items, ∀ b ∈ items, le a b = (order a b).isLE) :
    ∃ numbered : List (A × Nat), numbered.Perm items.zipIdx ∧
      items.mergeSort le = numbered.map (·.1) ∧
      numbered.Pairwise fun a b => order a.1 b.1 = .lt ∨ order a.1 b.1 = .eq ∧ a.2 < b.2 := by
  let lawful (a b : A) : Bool := (order a b).isLE
  have hsame : items.mergeSort le = items.mergeSort lawful := by
    have hmap := List.map_mergeSort (f := id) (s := lawful) hle
    rwa [List.map_id, List.map_id] at hmap
  have htrans (a b c : A) (hab : lawful a b = true) (hbc : lawful b c = true) :
      lawful a c = true := TransCmp.isLE_trans hab hbc
  have htotal (a b : A) : (lawful a b || lawful b a) = true := by
    simp only [lawful]
    rw [@OrientedCmp.eq_swap A order _ b a]
    cases order a b <;> rfl
  have hperm := List.mergeSort_perm items.zipIdx (List.zipIdxLE lawful)
  refine ⟨items.zipIdx.mergeSort (List.zipIdxLE lawful), hperm, ?_, ?_⟩
  · rw [hsame, List.mergeSort_zipIdx]
  have hsorted := List.pairwise_mergeSort (List.zipIdxLE_trans htrans)
    (List.zipIdxLE_total htotal) items.zipIdx
  have hpositions : (items.zipIdx.mergeSort (List.zipIdxLE lawful)).Pairwise
      fun a b => a.2 ≠ b.2 := by
    have hnodup := (hperm.map Prod.snd).nodup_iff.mpr (by simp [List.nodup_range'])
    exact List.pairwise_map.mp hnodup
  refine (hsorted.and hpositions).imp fun {a b} ⟨hab, hne⟩ => ?_
  have hswap : order b.1 a.1 = (order a.1 b.1).swap := OrientedCmp.eq_swap
  cases horder : order a.1 b.1 with
  | lt => exact Or.inl rfl
  | eq =>
    have hle : a.2 ≤ b.2 := by simpa [List.zipIdxLE, lawful, hswap, horder] using hab
    exact Or.inr ⟨rfl, Nat.lt_of_le_of_ne hle hne⟩
  | gt => simp [List.zipIdxLE, lawful, horder] at hab

/-! ### The sort column -/

/-- Every joined row has a property that a further entry does not take away. -/
theorem SelectPlan.forall_mem_joinAll {P : JoinedRow → Prop}
    (hextend : ∀ before entry, P before → P (before ++ [entry])) {joinedRows : List JoinedRow}
    (h : ∀ joined ∈ joinedRows, P joined) (tables : List (JoinPlan × List Row)) :
    ∀ joined ∈ joinAll joinedRows tables, P joined := by
  induction tables generalizing joinedRows with
  | nil => exact h
  | cons table rest ih =>
    refine ih fun joined hjoined => ?_
    obtain ⟨before, hbefore, hmem⟩ := List.mem_flatMap.mp hjoined
    obtain ⟨row, -, rfl⟩ := List.mem_map.mp hmem
    exact hextend before _ (h before hbefore)

/-- Every joined row begins with a row of the first table. -/
theorem SelectPlan.exists_first_of_mem_joinedRows {plan : SelectPlan} {rows : List Row}
    {joinedTables : List (List Row)} :
    ∀ joined ∈ plan.joinedRows rows joinedTables,
      ∃ row ∈ rows, ∃ rest, joined = (nameOf plan.table, row) :: rest := by
  refine forall_mem_joinAll ?_ (fun joined hjoined => ?_) _
  · rintro _ entry ⟨row, hrow, rest, rfl⟩
    exact ⟨row, hrow, rest ++ [entry], rfl⟩
  · obtain ⟨row, hrow, rfl⟩ := List.mem_map.mp (List.mem_of_mem_filter hjoined)
    exact ⟨row, hrow, [], rfl⟩

/-- A column of the first table has in a joined row what stands in the first of its rows. -/
theorem JoinedRow.value?_first {schema : TableSchema} {column : ColumnRef}
    (hcolumn : column.belongsTo schema = true) (row : Row) (rest : JoinedRow) :
    JoinedRow.value? ((SelectPlan.nameOf schema, row) :: rest) column = row[column.index]? := by
  simp [value?, ColumnRef.belongsTo_iff.mp hcolumn]

namespace OrderBy

variable {order : OrderBy} {a b : JoinedRow}

/-- The value by which a joined row is sorted. -/
def valueIn (order : OrderBy) (joined : JoinedRow) : Value :=
  (joined.value? order.column).getD .null

/-- A joined row has null or a value of the type of the column to be sorted by. -/
def Sorts (order : OrderBy) (joined : JoinedRow) : Prop :=
  ∃ value, joined.value? order.column = some value ∧ value.Sortable order.column.type

/-- The value by which a row is sorted is null or of the type of the column. -/
theorem Sorts.sortable (h : order.Sorts a) : (order.valueIn a).Sortable order.column.type := by
  obtain ⟨value, hvalue, hsortable⟩ := h
  rwa [valueIn, hvalue, Option.getD_some]

/-- Rows that are sorted compare by their values, the other way round if the order is
descending. -/
theorem compare_of_sorts (ha : order.Sorts a) (hb : order.Sorts b) :
    order.compare a b =
      if order.descending then ((order.valueIn a).sortOrder (order.valueIn b)).swap
      else (order.valueIn a).sortOrder (order.valueIn b) := by
  obtain ⟨value, hvalue, -⟩ := ha
  obtain ⟨value', hvalue', -⟩ := hb
  simp only [OrderBy.compare, valueIn, hvalue, hvalue', Option.getD_some]

/-- The order of joined rows by null and the values of the type of the column. -/
def lawful (order : OrderBy) (a b : JoinedRow) : Ordering :=
  if order.descending then Value.nullFirst order.column.type (order.valueIn b) (order.valueIn a)
  else Value.nullFirst order.column.type (order.valueIn a) (order.valueIn b)

instance transCmp_lawful (order : OrderBy) : TransCmp order.lawful := by
  have hkey : TransCmp fun a b =>
      Value.nullFirst order.column.type (order.valueIn a) (order.valueIn b) :=
    { eq_swap := OrientedCmp.eq_swap, isLE_trans := TransCmp.isLE_trans }
  unfold lawful
  cases order.descending with
  | false => exact hkey
  | true => exact @TransCmp.opposite _ _ hkey

/-- Rows that are sorted compare by a lawful order. -/
theorem compare_eq_lawful (ha : order.Sorts a) (hb : order.Sorts b) :
    order.compare a b = order.lawful a b := by
  rw [compare_of_sorts ha hb, Value.sortOrder_eq_nullFirst ha.sortable hb.sortable, lawful,
    @OrientedCmp.eq_swap _ (Value.nullFirst order.column.type) _ (order.valueIn b)]

/-- A row may come before another among the sorted rows, where each is given with its position
among the rows without the sort: the values are in the order of the sort, null comes first or last,
and rows with equal values stay in their order. -/
structure Precedes (order : OrderBy) (a b : JoinedRow × Nat) : Prop where
  ascending : order.descending = false →
    ((order.valueIn a.1).sortOrder (order.valueIn b.1)).isLE = true
  descending : order.descending = true →
    ((order.valueIn b.1).sortOrder (order.valueIn a.1)).isLE = true
  nullsFirst : order.descending = false → (order.valueIn b.1).isNull = true →
    (order.valueIn a.1).isNull = true
  nullsLast : order.descending = true → (order.valueIn a.1).isNull = true →
    (order.valueIn b.1).isNull = true
  stable : (order.valueIn a.1).sortOrder (order.valueIn b.1) = .eq → a.2 < b.2

end OrderBy

/-- Only null is at most null. -/
theorem Value.isNull_of_isLE {a b : Value} (h : (a.sortOrder b).isLE = true)
    (hb : b.isNull = true) : a.isNull = true := by
  obtain rfl := isNull_iff.mp hb
  by_contra hnull
  rw [sortOrder_null_right (Bool.eq_false_iff.mpr hnull)] at h
  cases h

namespace OrderBy

/-- A row comes before another if it is less in the sort, or equal and before it without the
sort. -/
theorem precedes_of_compare {order : OrderBy} {a b : JoinedRow × Nat} (ha : order.Sorts a.1)
    (hb : order.Sorts b.1)
    (h : order.compare a.1 b.1 = .lt ∨ order.compare a.1 b.1 = .eq ∧ a.2 < b.2) :
    order.Precedes a b := by
  have hswap := (ha.sortable.sortLaws hb.sortable ha.sortable).swap
  rw [compare_of_sorts ha hb] at h
  cases hdescending : order.descending with
  | false =>
    simp only [hdescending, Bool.false_eq_true, if_false] at h
    have hle : ((order.valueIn a.1).sortOrder (order.valueIn b.1)).isLE = true :=
      Ordering.isLE_iff_eq_lt_or_eq_eq.mpr (h.imp id And.left)
    refine ⟨fun _ => hle, fun htrue => ?_, fun _ => Value.isNull_of_isLE hle, fun htrue => ?_,
      fun heq => ?_⟩
    · simp [hdescending] at htrue
    · simp [hdescending] at htrue
    · simpa [heq] using h
  | true =>
    simp only [hdescending, if_true, ← hswap] at h
    have hle : ((order.valueIn b.1).sortOrder (order.valueIn a.1)).isLE = true :=
      Ordering.isLE_iff_eq_lt_or_eq_eq.mpr (h.imp id And.left)
    refine ⟨fun hfalse => ?_, fun _ => hle, fun hfalse => ?_, fun _ => Value.isNull_of_isLE hle,
      fun heq => ?_⟩
    · simp [hdescending] at hfalse
    · simp [hdescending] at hfalse
    · simpa [hswap, heq] using h

end OrderBy

namespace SelectPlan

variable {plan : SelectPlan} {rows : List Row} {joinedTables : List (List Row)}

/-- The sort of an accepted plan is by a column of the first table. -/
theorem order_belongsTo_of_ofRequest {registry : Registry} {request : FetchRequest}
    (h : ofRequest registry request = .ok plan) {order : OrderBy}
    (horder : plan.order = some order) : order.column.belongsTo plan.table = true := by
  obtain ⟨-, -, -, -, hsort⟩ := ofRequest_eq_ok h
  rw [horder] at hsort
  cases hrequest : request.sort with
  | none =>
    rw [hrequest] at hsort
    cases hsort
  | some sort =>
    cases hbind : bindSort plan.table sort with
    | error error => simp [hrequest, hbind, Functor.map, Except.map] at hsort
    | ok bound =>
      simp only [hrequest, Option.mapM_some, hbind, Functor.map, Except.map, Except.ok.injEq,
        Option.some.injEq] at hsort
      subst hsort
      unfold bindSort at hbind
      split at hbind
      · cases hbind
        exact ColumnRef.belongsTo_iff.mpr rfl
      · cases hbind

/-- All joined rows of an accepted plan have a value to sort by, if the rows of its first table have
one in the column of the sort. -/
theorem sorts_of_mem_joinedRows {registry : Registry} {request : FetchRequest}
    (h : ofRequest registry request = .ok plan) {order : OrderBy}
    (horder : plan.order = some order)
    (hvalues : ∀ row ∈ rows, ∃ value : Value, row[order.column.index]? = some value ∧
      value.Sortable order.column.type) :
    ∀ joined ∈ plan.joinedRows rows joinedTables, order.Sorts joined := by
  intro joined hjoined
  obtain ⟨row, hrow, rest, rfl⟩ := exists_first_of_mem_joinedRows joined hjoined
  rw [OrderBy.Sorts, JoinedRow.value?_first (order_belongsTo_of_ofRequest h horder)]
  exact hvalues row hrow

/-- The sort gives every joined row once, each where its value and its position put it. -/
theorem exists_numbered_sortRows {order : OrderBy} {joinedRows : List JoinedRow}
    (hsorts : ∀ joined ∈ joinedRows, order.Sorts joined) :
    ∃ numbered : List (JoinedRow × Nat), numbered.Perm joinedRows.zipIdx ∧
      sortRows (some order) joinedRows = numbered.map (·.1) ∧
      (∀ entry ∈ numbered, order.Sorts entry.1) ∧ numbered.Pairwise order.Precedes := by
  have hle : ∀ a ∈ joinedRows, ∀ b ∈ joinedRows,
      (order.compare a b != .gt) = (order.lawful a b).isLE := by
    intro a ha b hb
    rw [OrderBy.compare_eq_lawful (hsorts a ha) (hsorts b hb)]
    cases order.lawful a b <;> rfl
  obtain ⟨numbered, hperm, hsorted, hpairwise⟩ := exists_numbered_mergeSort order.lawful hle
  have hmem : ∀ entry ∈ numbered, order.Sorts entry.1 := fun entry hentry =>
    hsorts entry.1 (List.fst_mem_of_mem_zipIdx (hperm.mem_iff.mp hentry))
  refine ⟨numbered, hperm, hsorted, hmem, hpairwise.imp_of_mem fun {a b} ha hb h => ?_⟩
  rw [← OrderBy.compare_eq_lawful (hmem a ha) (hmem b hb)] at h
  exact OrderBy.precedes_of_compare (hmem a ha) (hmem b hb) h

/-- An accepted plan with a sort, which keeps repeated rows, is carried out without a page on tables
whose rows have null or a value of its type, and no NaN, in the column of the sort. The answer has
the joined rows that the plan gives without the sort, each once. All values are in the order of the
sort, with null first or last, and rows with equal values stay in their order. On such values the
order is reflexive, total and transitive, and exchanging two values reverses it. -/
theorem sort_stable {registry : Registry} {request : FetchRequest}
    (hplan : ofRequest registry request = .ok plan) {order : OrderBy}
    (horder : plan.order = some order) (hdistinct : plan.distinct = false) {engine : Engine}
    (hrows : List.Forall₂ (fun schema rows => rowsNow engine schema = .ok rows) plan.tables
      (rows :: joinedTables))
    (hvalues : ∀ row ∈ rows, ∃ value : Value, row[order.column.index]? = some value ∧
      value.Sortable order.column.type) :
    { plan.unpaged with order := none }.run engine =
        .ok ((plan.joinedRows rows joinedTables).map (project plan.projection)) ∧
      (∃ numbered : List (JoinedRow × Nat),
        numbered.Perm (plan.joinedRows rows joinedTables).zipIdx ∧
        plan.unpaged.run engine =
          .ok (numbered.map fun entry => project plan.projection entry.1) ∧
        (∀ entry ∈ numbered, order.Sorts entry.1) ∧
        numbered.Pairwise order.Precedes) ∧
      ∀ a b c : Value, a.Sortable order.column.type → b.Sortable order.column.type →
        c.Sortable order.column.type → Value.SortLaws a b c := by
  refine ⟨?_, ?_, fun a b c ha hb hc => ha.sortLaws hb hc⟩
  · rw [@run_of_rowsNow { plan.unpaged with order := none } rows joinedTables engine hrows]
    simp [answer, unpaged, sortRows, hdistinct, joinedRows, firstRows]
  · obtain ⟨numbered, hperm, hsorted, hsorts, hpairwise⟩ :=
      exists_numbered_sortRows (sorts_of_mem_joinedRows hplan horder hvalues)
    refine ⟨numbered, hperm, ?_, hsorts, hpairwise⟩
    rw [@run_of_rowsNow plan.unpaged rows joinedTables engine hrows]
    have hanswer : plan.unpaged.answer (plan.joinedRows rows joinedTables) =
        (sortRows (some order) (plan.joinedRows rows joinedTables)).map
          (project plan.projection) := by
      simp [answer, unpaged, horder, hdistinct]
    have hjoined : plan.unpaged.joinedRows rows joinedTables =
        plan.joinedRows rows joinedTables := rfl
    rw [hjoined, hanswer, hsorted, List.map_map]
    rfl

/-- The numbers of the rooms, by their guests from the last one on. -/
def roomsByGuest : FetchRequest :=
  (FetchRequest.all "hotel" "rooms" ["number"]).sortedBy "guest" .descending

/-- The plan for the rooms by their guests. -/
def roomsByGuestPlan : SelectPlan where
  table := roomSchema
  projection := [⟨"hotel", "rooms", "number", 0, .int⟩]
  filter := none
  joins := []
  order := some ⟨⟨"hotel", "rooms", "guest", 1, .int⟩, true⟩
  page := some ⟨0, 10⟩
  distinct := false

/-- The two rooms of one guest stay in their order, and the room without a guest comes last. -/
theorem sort_stable_rooms :
    ofRequest hotelEngine.registry roomsByGuest = .ok roomsByGuestPlan ∧
      rowsNow hotelEngine roomSchema = .ok roomRows ∧
      (∀ row ∈ roomRows, ∃ value : Value, row[1]? = some value ∧ value.Sortable .int) ∧
      roomsByGuestPlan.unpaged.run hotelEngine = .ok [[.int 2], [.int 3], [.int 1]] ∧
      ∃ numbered : List (JoinedRow × Nat),
        numbered.map (fun entry => project roomsByGuestPlan.projection entry.1) =
          [[.int 2], [.int 3], [.int 1]] ∧
        numbered.Pairwise (OrderBy.Precedes ⟨⟨"hotel", "rooms", "guest", 1, .int⟩, true⟩) := by
  have hplan : ofRequest hotelEngine.registry roomsByGuest = .ok roomsByGuestPlan := rfl
  have hrows : rowsNow hotelEngine roomSchema = .ok roomRows := rfl
  have hvalues : ∀ row ∈ roomRows, ∃ value : Value, row[1]? = some value ∧ value.Sortable .int := by
    simp only [roomRows, List.forall_mem_cons]
    exact ⟨⟨_, rfl, Or.inl rfl, rfl⟩, ⟨_, rfl, Or.inr rfl, rfl⟩, ⟨_, rfl, Or.inr rfl, rfl⟩,
      List.forall_mem_nil _⟩
  obtain ⟨-, ⟨numbered, -, hrun, -, hpairwise⟩, -⟩ :=
    sort_stable hplan rfl rfl (.cons hrows .nil) hvalues
  have hsorted : roomsByGuestPlan.unpaged.run hotelEngine =
      .ok [[.int 2], [.int 3], [.int 1]] := by
    rw [@run_of_rowsNow roomsByGuestPlan.unpaged roomRows [] hotelEngine (.cons hrows .nil)]
    have hjoined : roomsByGuestPlan.unpaged.joinedRows roomRows [] =
        roomRows.map fun row => [(("hotel", "rooms"), row)] := rfl
    rw [hjoined]
    simp [roomRows, answer, roomsByGuestPlan, unpaged, sortRows, List.mergeSort, OrderBy.compare,
      JoinedRow.value?, Value.sortOrder, Value.compare?, project]
  exact ⟨hplan, hrows, hvalues, hsorted, numbered, Except.ok.inj (hrun.symm.trans hsorted),
    hpairwise⟩

end SelectPlan

end Tabula
