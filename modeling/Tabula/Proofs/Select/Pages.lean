import Mathlib.Algebra.Group.Nat.Defs
import Tabula.Proofs.Engine.Tables
import Tabula.Proofs.Select.Records

/-!
# Pages of an answer

A page is a window on the rows that a plan would give without one. The pages of one size, from the
first on, follow each other without a gap and without an overlap until the rows are used up, and all
pages after that are empty. This includes those whose offset does not fit a signed word, as no
answer reaches the offset that stands for theirs.
-/

namespace Tabula

namespace PageWindow

/-! ### Pages of a list -/

variable {A : Type} {rows : List A} {total pageSize : Nat}

/-- How many pages of the given size some rows fill, the last of which may not be full. -/
def count (total pageSize : Nat) : Nat := (total + pageSize - 1) / pageSize

/-- The rows on a page, counted from one: those after as many full pages as come before it. -/
def page (rows : List A) (pageSize number : Nat) : List A :=
  (rows.drop ((number - 1) * pageSize)).take pageSize

/-- The pages have a place for each of the rows. -/
theorem le_count_mul (hsize : 0 < pageSize) : total ≤ count total pageSize * pageSize := by
  have hdiv := Nat.div_add_mod (total + pageSize - 1) pageSize
  have hmod := Nat.mod_lt (total + pageSize - 1) hsize
  rw [Nat.mul_comm] at hdiv
  unfold count
  omega

/-- There are rows for all pages before the last one and for one row more. -/
theorem mul_lt_of_lt_count {pages : Nat} (hpages : pages < count total pageSize) :
    pages * pageSize < total := by
  have hmul : (pages + 1) * pageSize ≤ total + pageSize - 1 :=
    Nat.le_trans (Nat.mul_le_mul_right pageSize hpages) (Nat.div_mul_le_self _ _)
  have hsize : pageSize ≠ 0 := by
    rintro rfl
    simp [count] at hpages
  rw [Nat.succ_mul] at hmul
  omega

/-- The first pages, one after the other, are the first rows. -/
theorem flatMap_page (rows : List A) (pageSize pages : Nat) :
    (List.range pages).flatMap (fun i => page rows pageSize (i + 1)) =
      rows.take (pages * pageSize) := by
  induction pages with
  | zero => simp
  | succ pages ih =>
    rw [List.range_succ, List.flatMap_append, ih, Nat.succ_mul, List.take_add]
    simp [page]

/-- Every page before the last one is full. -/
theorem length_page {number : Nat} (hnumber : 0 < number)
    (hlast : number < count rows.length pageSize) :
    (page rows pageSize number).length = pageSize := by
  obtain ⟨before, rfl⟩ := Nat.exists_eq_add_of_lt hnumber
  have hrows := mul_lt_of_lt_count hlast
  rw [Nat.add_mul, Nat.one_mul, Nat.zero_add] at hrows
  rw [page, List.length_take, List.length_drop, Nat.zero_add, Nat.add_sub_cancel]
  omega

/-- Every page after the last one is empty. -/
theorem page_eq_nil {number : Nat} (hsize : 0 < pageSize)
    (hlast : count rows.length pageSize < number) : page rows pageSize number = [] := by
  have hle : rows.length ≤ (number - 1) * pageSize :=
    Nat.le_trans (le_count_mul hsize) (Nat.mul_le_mul_right pageSize (Nat.le_sub_one_of_lt hlast))
  rw [page, List.drop_eq_nil_of_le hle, List.take_nil]

/-! ### Windows -/

variable {number size : Int64} {window : PageWindow}

/-- A page is accepted if its number is at least one and its size is between one and a hundred. -/
theorem exists_ofPage (hnumber : 1 ≤ number.toInt) (hsize : 1 ≤ size.toInt)
    (hmax : size.toInt ≤ 100) : ∃ window, ofPage number size = .ok window := by
  unfold ofPage maxSize
  rw [if_neg (by omega), if_neg (by omega)]
  exact ⟨_, rfl⟩

/-- The window of an accepted page shows the rows of that page, if a signed word counts all rows. An
offset that does not fit a word lies beyond them, and so does the one that stands for it. -/
theorem cut_ofPage (h : ofPage number size = .ok window) (hrows : rows.length < 2 ^ 63) :
    window.cut rows = page rows size.toInt.toNat number.toInt.toNat := by
  unfold ofPage at h
  split at h
  · cases h
  · rename_i hnumber
    split at h
    · cases h
    · rename_i hsize
      rw [not_or] at hsize
      cases h
      obtain ⟨n, hn⟩ := Int.eq_ofNat_of_zero_le (show 0 ≤ number.toInt - 1 by omega)
      obtain ⟨s, hs⟩ := Int.eq_ofNat_of_zero_le (show 0 ≤ size.toInt by omega)
      have hbefore : number.toInt.toNat - 1 = n := by omega
      rw [page, hbefore, cut, hn, hs, ← Int.natCast_mul, Int.toNat_natCast, Int.toNat_natCast]
      split
      · rfl
      · rename_i hcap
        have hlong : rows.length ≤ n * s := by omega
        have hfar : rows.length ≤ maxOffset := Nat.le_of_lt (Nat.lt_trans hrows (by decide))
        rw [List.drop_eq_nil_of_le hlong, List.drop_eq_nil_of_le hfar]

end PageWindow

namespace SelectPlan

variable {plan : SelectPlan} {registry : Registry} {request : FetchRequest} {engine : Engine}
  {rows : List Row} {number size : Int64}

/-! ### Plans that differ in their pages -/

/-- The plan for all rows, of which a page would be a part. -/
def unpaged (plan : SelectPlan) : SelectPlan := { plan with page := none }

/-- Whether a request is accepted for one page or another makes no difference to the plan, apart
from the window of the page. -/
theorem ofRequest_onPage (h : ofRequest registry (request.onPage number size) = .ok plan) :
    plan.distinct = request.distinct ∧
      ∀ (otherNumber otherSize : Int64) (window : PageWindow),
        PageWindow.ofPage otherNumber otherSize = .ok window →
          ofRequest registry (request.onPage otherNumber otherSize) =
            .ok { plan with page := some window } := by
  cases hfields : request.fields.isEmpty with
  | true =>
    obtain ⟨_, -, h⟩ := bind_eq_ok_iff.mp h
    simp only [FetchRequest.onPage, hfields, if_true] at h
    cases h
  | false =>
    obtain ⟨_, -, h⟩ := bind_eq_ok_iff.mp h
    simp only [FetchRequest.onPage, hfields, Bool.false_eq_true, if_false] at h
    obtain ⟨table, htable, h⟩ := bind_eq_ok_iff.mp h
    obtain ⟨filter, hfilter, h⟩ := bind_eq_ok_iff.mp h
    obtain ⟨joins, hjoins, h⟩ := bind_eq_ok_iff.mp h
    obtain ⟨projection, hprojection, h⟩ := bind_eq_ok_iff.mp h
    obtain ⟨order, horder, h⟩ := bind_eq_ok_iff.mp h
    cases h
    refine ⟨rfl, fun otherNumber otherSize window hwindow => ?_⟩
    refine bind_eq_ok_iff.mpr ⟨window, hwindow, ?_⟩
    simp only [FetchRequest.onPage, hfields, Bool.false_eq_true, if_false]
    refine bind_eq_ok_iff.mpr ⟨table, htable, bind_eq_ok_iff.mpr ⟨filter, hfilter, ?_⟩⟩
    refine bind_eq_ok_iff.mpr ⟨joins, hjoins, bind_eq_ok_iff.mpr ⟨projection, hprojection, ?_⟩⟩
    exact bind_eq_ok_iff.mpr ⟨order, horder, rfl⟩

/-- A plan with a page gives the part of all rows that its window shows. -/
theorem run_of_unpaged (h : plan.unpaged.run engine = .ok rows) (window : PageWindow) :
    { plan with page := some window }.run engine = .ok (window.cut rows) := by
  obtain ⟨first, hfirst, h⟩ := bind_eq_ok_iff.mp h
  obtain ⟨joined, hjoined, h⟩ := bind_eq_ok_iff.mp h
  cases h
  exact bind_eq_ok_iff.mpr ⟨first, hfirst, bind_eq_ok_iff.mpr ⟨joined, hjoined, rfl⟩⟩

/-! ### Rows that differ -/

/-- Of the rows that are kept no two are equal. -/
theorem pairwise_distinctRows (rows : List Row) :
    (distinctRows rows).Pairwise fun a b => sameRow a b = false := by
  induction rows using List.reverseRecOn with
  | nil => exact List.Pairwise.nil
  | append_singleton rows last ih =>
    rw [distinctRows_append_singleton]
    split
    · exact ih
    · rename_i hnew
      refine List.pairwise_append.mpr
        ⟨ih, List.pairwise_singleton _ _, fun row hrow other hother => ?_⟩
      rw [List.mem_singleton.mp hother]
      exact Bool.eq_false_iff.mpr fun hsame => hnew (List.any_eq_true.mpr ⟨row, hrow, hsame⟩)

/-- A plan that removes repeated rows gives no two equal rows. -/
theorem pairwise_of_run_unpaged (hdistinct : plan.distinct = true)
    (h : plan.unpaged.run engine = .ok rows) : rows.Pairwise fun a b => sameRow a b = false := by
  obtain ⟨first, -, h⟩ := bind_eq_ok_iff.mp h
  obtain ⟨joined, -, h⟩ := bind_eq_ok_iff.mp h
  cases h
  simp only [answer, unpaged, hdistinct, if_pos]
  exact pairwise_distinctRows _

/-! ### All pages -/

/-- A table that the registry of an engine has can be read. -/
theorem exists_rowsNow {schema : TableSchema}
    (h : engine.registry.Has schema) : ∃ rows, rowsNow engine schema = .ok rows := by
  obtain ⟨table, htable, -⟩ := Engine.resolve_eq_ok_iff.mp h
  exact ⟨table.rows, rowsNow_of_table htable⟩

/-- All rows of a plan that the registry of an engine accepts can be read from the engine. -/
theorem exists_run_unpaged (hregistry : engine.registry.Made)
    (h : ofRequest engine.registry request = .ok plan) :
    ∃ rows, plan.unpaged.run engine = .ok rows := by
  have hwellFormed := wellFormed_of_ofRequest hregistry.lawful h
  have hnow : ∀ schema ∈ plan.tables, ∃ rows, rowsNow engine schema = .ok rows :=
    fun schema hschema => exists_rowsNow (hwellFormed.known schema hschema)
  obtain ⟨⟨first, hfirst⟩, hjoins⟩ := List.forall_mem_cons.mp hnow
  obtain ⟨joined, hjoined⟩ := exists_mapM_eq_ok fun join hjoin =>
    hjoins (JoinPlan.table join) (List.mem_map_of_mem hjoin)
  exact ⟨_, bind_eq_ok_iff.mpr ⟨first, hfirst, bind_eq_ok_iff.mpr ⟨joined, hjoined, rfl⟩⟩⟩

/-- A request that is accepted for its first page is accepted for every page, and its plan can be
carried out on an engine with the registry that accepts it. Let `rows` be all rows that the plan
gives on an engine, so few that a signed word counts them. The pages of one size, from the first to
the last that has rows, are these rows in their order; all of them but the last are full, and all
pages after it are empty. If the request asks for different rows, no two rows are equal, on
whatever pages they are. -/
theorem pages_partition {registry : Registry} {request : FetchRequest} {plan : SelectPlan}
    (hplan : ofRequest registry (request.onPage 1 1) = .ok plan) (engine : Engine) :
    (registry.Made → engine.registry = registry → ∃ rows, plan.unpaged.run engine = .ok rows) ∧
      ∀ rows, plan.unpaged.run engine = .ok rows → rows.length < 2 ^ 63 →
        ∀ size : Int64, 1 ≤ size.toInt → size.toInt ≤ 100 →
          ∃ page : Int64 → List Row,
            (∀ number : Int64, 1 ≤ number.toInt → ∃ paged,
              ofRequest registry (request.onPage number size) = .ok paged ∧
                paged.run engine = .ok (page number)) ∧
            (List.range (PageWindow.count rows.length size.toInt.toNat)).flatMap
              (fun i => page (.ofNat (i + 1))) = rows ∧
            (∀ number : Int64, 1 ≤ number.toInt →
              number.toInt < PageWindow.count rows.length size.toInt.toNat →
                (page number).length = size.toInt.toNat) ∧
            (∀ number : Int64, PageWindow.count rows.length size.toInt.toNat < number.toInt →
              page number = []) ∧
            (request.distinct = true → rows.Pairwise fun a b => sameRow a b = false) := by
  obtain ⟨hdistinct, hpages⟩ := ofRequest_onPage hplan
  refine ⟨fun hmade hregistry => ?_, fun rows hrun hrows size hsize hmax => ?_⟩
  · subst hregistry
    exact exists_run_unpaged hmade hplan
  have hpositive : 0 < size.toInt.toNat := by omega
  refine ⟨fun number => PageWindow.page rows size.toInt.toNat number.toInt.toNat,
    fun number hnumber => ?_, ?_, fun number hnumber hlast => ?_, fun number hlast => ?_,
    fun hrequest => pairwise_of_run_unpaged (hdistinct.trans hrequest) hrun⟩
  · obtain ⟨window, hwindow⟩ := PageWindow.exists_ofPage hnumber hsize hmax
    have hpage := run_of_unpaged hrun window
    rw [PageWindow.cut_ofPage hwindow hrows] at hpage
    exact ⟨_, hpages number size window hwindow, hpage⟩
  · have hnumbers : ∀ i ∈ List.range (PageWindow.count rows.length size.toInt.toNat),
        PageWindow.page rows size.toInt.toNat (Int64.ofNat (i + 1)).toInt.toNat =
          PageWindow.page rows size.toInt.toNat (i + 1) := by
      intro i hi
      -- there are at least as many rows as page numbers, so these stay within the words
      have hbelow := PageWindow.mul_lt_of_lt_count (List.mem_range.mp hi)
      have hle := Nat.le_mul_of_pos_right i hpositive
      rw [Int64.toInt_ofNat_of_lt (by omega), Int.toNat_natCast]
    rw [List.flatMap_congr hnumbers, PageWindow.flatMap_page,
      List.take_of_length_le (PageWindow.le_count_mul hpositive)]
  · exact PageWindow.length_page (by omega) (by omega)
  · exact PageWindow.page_eq_nil hpositive (by omega)

/-- The two rooms with a visitor are on two pages of one row each, the page with the greatest number
is empty. -/
theorem pages_partition_rooms :
    ofRequest hotelEngine.registry (roomsWithVisitors.unrepeated.onPage 1 1) =
        .ok { roomsPlan with page := some ⟨0, 1⟩, distinct := true } ∧
      ∃ page : Int64 → List Row,
        (∀ number : Int64, 1 ≤ number.toInt → ∃ paged,
          ofRequest hotelEngine.registry (roomsWithVisitors.unrepeated.onPage number 1) =
              .ok paged ∧
            paged.run hotelEngine = .ok (page number)) ∧
        page 1 ++ page 2 = [[.int 2, .text "Ann", .int 2], [.int 3, .text "Ann", .int 3]] ∧
        (page 1).length = 1 ∧ page Int64.maxValue = [] := by
  have hplan : ofRequest hotelEngine.registry (roomsWithVisitors.unrepeated.onPage 1 1) =
      .ok { roomsPlan with page := some ⟨0, 1⟩, distinct := true } := rfl
  obtain ⟨hexists, hparts⟩ := pages_partition hplan hotelEngine
  obtain ⟨rows, hrun⟩ := hexists made_hotelEngine rfl
  have hrows : rows = [[.int 2, .text "Ann", .int 2], [.int 3, .text "Ann", .int 3]] :=
    Except.ok.inj (hrun.symm.trans rfl)
  subst hrows
  obtain ⟨page, haccepted, hconcat, hfull, hempty, -⟩ :=
    hparts _ hrun (by decide) 1 (by decide) (by decide)
  have hboth : page 1 ++ (page 2 ++ []) =
      [[.int 2, .text "Ann", .int 2], [.int 3, .text "Ann", .int 3]] := hconcat
  rw [List.append_nil] at hboth
  exact ⟨hplan, page, haccepted, hboth, hfull 1 (by decide) (by decide),
    hempty Int64.maxValue (by decide)⟩

end SelectPlan

end Tabula
