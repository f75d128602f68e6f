/-
# What a page of a school search shows

A page of a school search is cut from the survivors of its window, which are the first of all
survivors.  So it shows its own part of them, as far as the window reaches.

* `survivorPlaces` are the positions of the survivors among the rows, and `shownPlaces` those that a
  page shows; `summaries_at_places`: they are the rows that the page summarises.
* `schoolPageAt_data_eq`: from where a page starts to where it ends, or its window does.
* `ShowsWindow`: what the pages show together.  `showsWindow_schoolPageAt`: pages cut from their
  windows do so; `school_pages_window`: these are the pages of a session.
-/
import Realty.Proofs.Search.SchoolPaging

namespace Realty.Search

open Realty.Filter (Plan)

variable {keep : Row → Bool} {rows : List Row} {data : List Summary} {size n : Int}

/-! ## 1. Places -/

/-- The positions of the survivors among the rows. -/
def survivorPlaces (keep : Row → Bool) (rows : List Row) : List Nat :=
  (rows.zipIdx.filter fun r => keep r.1).map Prod.snd

theorem survivorPlaces_increasing (keep : Row → Bool) (rows : List Row) :
    (survivorPlaces keep rows).Pairwise (· < ·) := by
  have hsublist : (survivorPlaces keep rows).Sublist (rows.zipIdx.map Prod.snd) :=
    List.filter_sublist.map Prod.snd
  rw [List.zipIdx_map_snd] at hsublist
  exact (List.pairwise_lt_range' 1).sublist hsublist

/-- A row at a position, and its summary. -/
def SummaryAt (rows : List Row) (i : Nat) (summary : Summary) : Prop :=
  ∃ r, rows[i]? = some r ∧ HasSummary r summary

/-- **The summaries of the survivors are those of the rows at their places.** -/
theorem summaries_at_places (h : List.Forall₂ HasSummary (rows.filter keep) data) :
    List.Forall₂ (SummaryAt rows) (survivorPlaces keep rows) data := by
  have hrows : rows.filter keep = (rows.zipIdx.filter fun r => keep r.1).map Prod.fst := by
    conv_lhs => rw [← List.zipIdx_map_fst 0 rows]
    rw [List.filter_map]
    rfl
  rw [hrows, List.forall₂_map_left_iff, List.forall₂_iff_zip] at h
  rw [survivorPlaces, List.forall₂_map_left_iff, List.forall₂_iff_zip]
  refine ⟨h.1, fun {placed summary} hmem => ?_⟩
  have hplaced := (List.mem_filter.1 (List.of_mem_zip hmem).1).1
  exact ⟨placed.1, List.mem_zipIdx_iff_getElem?.1 hplaced, h.2 hmem⟩

/-- Where a page ends: after the last survivor that belongs on it, or at the end of its window,
which is ten times as wide as the pages up to it. -/
def endOf (keep : Row → Bool) (rows : List Row) (size n : Int) : Nat :=
  min (n * size).toNat (survivorsWithin keep rows (10 * n * size).toNat)

/-- The positions of the rows that a page shows. -/
def shownPlaces (keep : Row → Bool) (rows : List Row) (size n : Int) : List Nat :=
  ((survivorPlaces keep rows).take (endOf keep rows size n)).drop ((n - 1) * size).toNat

theorem shownPlaces_increasing (keep : Row → Bool) (rows : List Row) (size n : Int) :
    (shownPlaces keep rows size n).Pairwise (· < ·) :=
  (survivorPlaces_increasing keep rows).take.drop

/-- A later page starts where the one before it ends, or after that. -/
theorem endOf_le_start {m : Int} (hsize : 1 ≤ size) (h : m < n) :
    endOf keep rows size m ≤ ((n - 1) * size).toNat := by
  have hend : m * size ≤ (n - 1) * size := Int.mul_le_mul_of_nonneg_right (by omega) (by omega)
  exact (Nat.min_le_left _ _).trans (Int.toNat_le_toNat hend)

/-- **Later pages show later rows.** -/
theorem shownPlaces_lt {m : Int} (hsize : 1 ≤ size) (h : m < n) :
    ∀ i ∈ shownPlaces keep rows size m, ∀ j ∈ shownPlaces keep rows size n, i < j := by
  have hsorted := survivorPlaces_increasing keep rows
  rw [← List.take_append_drop ((n - 1) * size).toNat (survivorPlaces keep rows),
    List.pairwise_append] at hsorted
  intro i hi j hj
  have hbefore : i ∈ (survivorPlaces keep rows).take ((n - 1) * size).toNat :=
    List.take_subset_take_left _ (endOf_le_start hsize h) (List.mem_of_mem_drop hi)
  have hafter : j ∈ (survivorPlaces keep rows).drop ((n - 1) * size).toNat := by
    rw [shownPlaces, List.drop_take] at hj
    exact List.mem_of_mem_take hj
  exact hsorted.2.2 i hbefore j hafter

/-! ## 2. Pages -/

/-- What the pages of a school search show, when `data` are the summaries of all survivors. -/
structure ShowsWindow (keep : Row → Bool) (rows : List Row) (data : List Summary) (size : Int)
    (page : Int → Page) : Prop where
  /-- A page shows the survivors from where it starts up to where it ends. -/
  shown : ∀ n, 1 ≤ n →
    (page n).data = (data.take (endOf keep rows size n)).drop ((n - 1) * size).toNat
  total : ∀ n, 1 ≤ n → (page n).total = survivorsWithin keep rows (10 * n * size).toNat
  places : ∀ n, 1 ≤ n →
    List.Forall₂ (SummaryAt rows) (shownPlaces keep rows size n) (page n).data
  /-- The rows of a page are in order, and none is on it twice. -/
  inOrder : ∀ n, (shownPlaces keep rows size n).Pairwise (· < ·)
  /-- The rows of a later page come later, so none is on two pages. -/
  once : ∀ m n, m < n →
    ∀ i ∈ shownPlaces keep rows size m, ∀ j ∈ shownPlaces keep rows size n, i < j
  totals : ∀ m n, 1 ≤ m → m ≤ n → (page m).total ≤ (page n).total
  /-- The true page, when the window has the survivors up to its end, or all rows. -/
  full : ∀ n, 1 ≤ n → (n * size ≤ survivorsWithin keep rows (10 * n * size).toNat ∨
      (rows.length : Int) ≤ 10 * n * size) →
    (page n).data = (data.drop ((n - 1) * size).toNat).take size.toNat

theorem reachOf_eq (keep : Row → Bool) (rows : List Row) (size n : Int) :
    reachOf keep rows size n = survivorsWithin keep rows (10 * n * size).toNat := by
  have hwidth : n * size * (Plan.schoolOverfetch : Int) = 10 * n * size := by
    rw [Plan.schoolOverfetch]
    ring
  rw [reachOf, windowOf, hwidth]

theorem start_add_size (hsize : 1 ≤ size) (hn : 1 ≤ n) :
    ((n - 1) * size).toNat + size.toNat = (n * size).toNat := by
  have hstart : 0 ≤ (n - 1) * size := Int.mul_nonneg (by omega) (by omega)
  rw [← Int.toNat_add hstart (by omega)]
  congr 1
  ring

/-- **A page shows the survivors from where it starts up to where it ends.** -/
theorem schoolPageAt_data_eq (keep : Row → Bool) (rows : List Row) (data : List Summary)
    (hsize : 1 ≤ size) (hn : 1 ≤ n) :
    (schoolPageAt keep rows data size n).data =
      (data.take (endOf keep rows size n)).drop ((n - 1) * size).toNat := by
  rw [schoolPageAt, Int.max_eq_right hn, offsetOf, List.take_drop, List.take_take,
    start_add_size hsize hn, reachOf_eq, endOf]

theorem schoolPageAt_total (keep : Row → Bool) (rows : List Row) (data : List Summary)
    (hn : 1 ≤ n) : (schoolPageAt keep rows data size n).total =
      survivorsWithin keep rows (10 * n * size).toNat := by
  rw [schoolPageAt, Int.max_eq_right hn, reachOf_eq]

/-- A page that ends as a page of the list does shows that page. -/
theorem take_endOf_drop (hsize : 1 ≤ size) (hn : 1 ≤ n)
    (hlength : data.length = (rows.filter keep).length)
    (h : n * size ≤ survivorsWithin keep rows (10 * n * size).toNat ∨
      (rows.length : Int) ≤ 10 * n * size) :
    (data.take (endOf keep rows size n)).drop ((n - 1) * size).toNat =
      (data.drop ((n - 1) * size).toNat).take size.toNat := by
  have hend : min (endOf keep rows size n) data.length = min (n * size).toNat data.length := by
    rcases h with h | h
    · rw [endOf, Nat.min_eq_left (Int.toNat_le.2 h)]
    · have hall : survivorsWithin keep rows (10 * n * size).toNat = data.length := by
        rw [hlength, survivorsWithin_eq_length_iff, List.drop_eq_nil_of_le (by omega)]
        rfl
      rw [endOf, hall, Nat.min_assoc, Nat.min_self]
  rw [List.take_drop, start_add_size hsize hn, List.take_eq_take_iff.2 hend]

/-- **Pages that are cut from their windows show the survivors so.** -/
theorem showsWindow_schoolPageAt (hsize : 1 ≤ size)
    (h : List.Forall₂ HasSummary (rows.filter keep) data) :
    ShowsWindow keep rows data size (schoolPageAt keep rows data size) where
  shown n hn := schoolPageAt_data_eq keep rows data hsize hn
  total n hn := schoolPageAt_total keep rows data hn
  places n hn := by
    rw [schoolPageAt_data_eq keep rows data hsize hn]
    exact List.forall₂_drop _ (List.forall₂_take _ (summaries_at_places h))
  inOrder n := shownPlaces_increasing keep rows size n
  once m n hmn := shownPlaces_lt hsize hmn
  totals m n hm hmn := by
    rw [schoolPageAt_total keep rows data hm, schoolPageAt_total keep rows data (hm.trans hmn),
      ← reachOf_eq, ← reachOf_eq]
    exact Int.ofNat_le.2 (reachOf_mono keep rows hsize hmn)
  full n hn hfull := by
    rw [schoolPageAt_data_eq keep rows data hsize hn]
    exact take_endOf_drop hsize hn h.length_eq.symm hfull

/-- **What the pages of a school search show.**  The pages that a session shows, from an empty cache
on, on all days with the same candidates and in whatever order it visits them, when there is room
for their keys, are the survivors from the start of the page up to its end, as far as its window
reaches, in the order of the rows and none of them on two pages.  Each total is the number of
survivors in the window, and a page is a true page of the survivors when its window has them up to
its end, or has all rows. -/
theorem school_pages_window (s : Service) (raw : Filters) (p : Plan)
    (hp : Filter.compile s.room raw = .ok p) (hschools : p.hasSchools = true) (rows : List Row)
    (haccepted : ∀ r ∈ rows, ∃ summary, Summary.ofRow r = .ok summary) (keep : Row → Bool)
    (hkeep : s.SiftsRows p.schools keep) (perPage : Int) :
    ∃ (data : List Summary) (page : Int → Page),
      List.Forall₂ HasSummary (rows.filter keep) data ∧
      (s.room.holdsKey raw = true → ∀ (now : Int) (visits : List (Date × Visit)),
        (∀ v ∈ visits, s.repository.Lists p v.1 rows) →
        run ⟨now, []⟩ (turning s raw perPage visits) = answers page visits) ∧
      ShowsWindow keep rows data (s.pageSize perPage) page := by
  obtain ⟨data, hdata⟩ : ∃ data, List.Forall₂ HasSummary (rows.filter keep) data :=
    exists_summaries fun r hr => haccepted r (List.mem_of_mem_filter hr)
  refine ⟨data, schoolPageAt keep rows data (s.pageSize perPage), hdata, ?_,
    showsWindow_schoolPageAt (s.one_le_pageSize perPage) hdata⟩
  intro hkey now visits hvisits
  exact run_visits hkey
    (fun v hv n => uncachedSchools_eq hp hschools (hvisits v hv) hkeep hdata n perPage) now

/-- With two listings on a page the first window has all rows, and the survivor, which is the last
of them, is shown on the first page and on no other. -/
theorem school_pages_window_lateSearch :
    ∃ p data page, Filter.compile .standard lateSearch = .ok p ∧ p.hasSchools = true ∧
      (∀ r ∈ lateRows, ∃ summary, Summary.ofRow r = .ok summary) ∧
      lateService.SiftsRows p.schools isInAustin ∧
      List.Forall₂ HasSummary (lateRows.filter isInAustin) data ∧
      (∀ (now : Int) (visits : List (Date × Visit)),
        run ⟨now, []⟩ (turning lateService lateSearch 2 visits) = answers page visits) ∧
      List.Forall₂ (SummaryAt lateRows) [10] (page 1).data ∧ (page 1).data = data ∧
      (page 1).total = 1 ∧ (page 2).data = [] ∧ (page 2).total = 1 := by
  obtain ⟨p, hp, hschools, hkeep, hrows⟩ := lateSearch_compiles
  obtain ⟨data, page, hdata, hrun, hwindow⟩ := school_pages_window lateService lateSearch p hp
    hschools lateRows lateRows_accepted isInAustin hkeep 2
  have hlength : data.length = 1 := hdata.length_eq.symm
  have hsize : lateService.pageSize 2 = 2 := rfl
  have hplaces : shownPlaces isInAustin lateRows 2 1 = [10] := by decide +kernel
  have hwithin : survivorsWithin isInAustin lateRows (10 * 1 * 2 : Int).toNat = 1 := by
    decide +kernel
  have hwithin' : survivorsWithin isInAustin lateRows (10 * 2 * 2 : Int).toNat = 1 := by
    decide +kernel
  rw [hsize] at hwindow
  have hfirst := hwindow.full 1 (by omega) (.inr (by decide +kernel))
  have hsecond := hwindow.full 2 (by omega) (.inr (by decide +kernel))
  refine ⟨p, data, page, hp, hschools, lateRows_accepted, hkeep, hdata,
    fun now visits => hrun (by decide) now visits fun v _ => hrows v.1,
    hplaces ▸ hwindow.places 1 (by omega), hfirst.trans ?_, ?_, hsecond.trans ?_, ?_⟩
  · exact List.take_of_length_le (hlength.le.trans (by decide))
  · rw [hwindow.total 1 (by omega), hwithin]
    rfl
  · exact List.take_eq_nil_iff.2 (.inr (List.drop_eq_nil_of_le (hlength.le.trans (by decide))))
  · rw [hwindow.total 2 (by omega), hwithin']
    rfl

end Realty.Search
