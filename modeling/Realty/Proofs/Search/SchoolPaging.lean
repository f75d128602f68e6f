/-
# What the pages of a school search lose

A search with school criteria fetches the rows from the start up to a window that grows with the
page number, sifts them, and cuts the page from what survives.  A survivor is shown when the window
of the page that its position asks for reaches it.

* `schoolPageAt` is the page that is shown and `executeSchools_eq` says so; the survivors that its
  window does not reach are missing from the page, and from its total.
* `showsOnce_iff`: the pages show every survivor once exactly when each window holds all survivors
  up to the end of its page.  `totals_iff`: every total is the number of all survivors exactly when
  no survivor lies outside the first window.
* `school_pages_iff`: so the pages of a session lose nothing exactly when the first window holds all
  survivors.  `late_survivor_never_shown` is a session that never shows its only survivor.
-/
import Realty.Proofs.Search.Paging

namespace Realty.Search

open Realty.Filter (Plan)

/-! ## 1. Survivors among the first rows -/

/-- How many survivors are among the first rows. -/
def survivorsWithin (keep : Row → Bool) (rows : List Row) (n : Nat) : Nat :=
  (rows.take n).countP keep

variable {keep : Row → Bool} {rows : List Row}

/-- **The survivors among the first rows are the first survivors.** -/
theorem take_survivorsWithin (keep : Row → Bool) (rows : List Row) (n : Nat) :
    (rows.filter keep).take (survivorsWithin keep rows n) = (rows.take n).filter keep := by
  have hsplit : rows.filter keep = (rows.take n).filter keep ++ (rows.drop n).filter keep := by
    rw [← List.filter_append, List.take_append_drop]
  have hlength : survivorsWithin keep rows n = ((rows.take n).filter keep).length :=
    List.countP_eq_length_filter
  rw [hsplit, List.take_left' hlength.symm]

theorem survivorsWithin_add_drop (keep : Row → Bool) (rows : List Row) (n : Nat) :
    survivorsWithin keep rows n + (rows.drop n).countP keep = (rows.filter keep).length := by
  rw [survivorsWithin, ← List.countP_append, List.take_append_drop, List.countP_eq_length_filter]

theorem survivorsWithin_le (keep : Row → Bool) (rows : List Row) (n : Nat) :
    survivorsWithin keep rows n ≤ (rows.filter keep).length := by
  have := survivorsWithin_add_drop keep rows n
  omega

/-- A wider window holds no fewer survivors. -/
theorem survivorsWithin_mono (keep : Row → Bool) (rows : List Row) {m n : Nat} (h : m ≤ n) :
    survivorsWithin keep rows m ≤ survivorsWithin keep rows n :=
  (List.take_sublist_take_left h).countP_le

/-- A window holds all survivors when none lies after it. -/
theorem survivorsWithin_eq_length_iff {n : Nat} :
    survivorsWithin keep rows n = (rows.filter keep).length ↔ (rows.drop n).filter keep = [] := by
  have hsum := survivorsWithin_add_drop keep rows n
  have hafter : (rows.drop n).countP keep = ((rows.drop n).filter keep).length :=
    List.countP_eq_length_filter
  rw [← List.length_eq_zero_iff]
  omega

/-! ## 2. The page that is shown -/

/-- A repository that holds the candidates of a plan on a day, in the order of the results. -/
structure Repository.Lists (repository : Repository) (p : Plan) (today : Date)
    (rows : List Row) : Prop where
  /-- There is a statement that selects them. -/
  condition : ∃ w, Sql.clause today p.condition = .ok w
  fetch : ∀ limit offset : Int, 0 ≤ limit → 0 ≤ offset → ∀ statement,
    Sql.listingQuery p today (.int limit) (.int offset) = .ok statement →
      repository.fetch statement limit offset = .ok (slice rows offset limit)

/-- A service that sifts row by row: it keeps the rows that pass, in order, whatever the others
are.  Without a school filter every row passes. -/
def Service.SiftsRows (s : Service) (criteria : Filters) (keep : Row → Bool) : Prop :=
  match s.schoolFilter with
  | some sieve => ∀ rows, sieve rows criteria = .ok (rows.filter keep)
  | none => ∀ r, keep r = true

theorem sift_eq {s : Service} {criteria : Filters} (h : s.SiftsRows criteria keep)
    (candidates : List Row) : (s.sift candidates criteria).1 = .ok (candidates.filter keep) := by
  rw [Service.sift]
  split
  · next hempty =>
    obtain rfl : candidates = [] := by simpa using hempty
    rfl
  · cases hsieve : s.schoolFilter with
    | some sieve =>
      rw [Service.SiftsRows, hsieve] at h
      exact h candidates
    | none =>
      rw [Service.SiftsRows, hsieve] at h
      have hall : candidates.filter keep = candidates := List.filter_eq_self.2 fun r _ => h r
      rw [hall]

/-- How many rows are fetched for a page. -/
def windowOf (size n : Int) : Nat := (n * size * Plan.schoolOverfetch).toNat

/-- How many survivors are among the rows that are fetched for a page. -/
def reachOf (keep : Row → Bool) (rows : List Row) (size n : Int) : Nat :=
  survivorsWithin keep rows (windowOf size n)

/-- A page of a school search, when `data` are the summaries of all survivors; what lies below the
first page shows the first page. -/
def schoolPageAt (keep : Row → Bool) (rows : List Row) (data : List Summary) (size n : Int) :
    Page where
  data := ((data.take (reachOf keep rows size (max 1 n))).drop
    (offsetOf (max 1 n) size).toNat).take size.toNat
  total := reachOf keep rows size (max 1 n)
  page := max 1 n
  perPage := size

variable {today : Date} {s : Service} {raw : Filters} {p : Plan} {c : Sql.Column}
  {data : List Summary}

/-- **A school search shows the part of the first survivors that its page asks for.** -/
theorem executeSchools_eq (hoverfetch : p.overfetch = Plan.schoolOverfetch)
    (hrows : s.repository.Lists p today rows) (hkeep : s.SiftsRows p.schools keep)
    (hc : Sql.columnOf p.order.column = .ok c)
    (hdata : List.Forall₂ HasSummary (rows.filter keep) data) {n size : Int} (hn : 1 ≤ n)
    (hsize : 1 ≤ size) :
    (s.executeSchools today p n size).outcome = .ok (schoolPageAt keep rows data size n) := by
  obtain ⟨w, hw⟩ := hrows.condition
  have hlimit : 0 ≤ n * size * (Plan.schoolOverfetch : Int) :=
    Int.mul_nonneg (Int.mul_nonneg (by omega) (by omega)) (by omega)
  obtain ⟨statement, hquery⟩ : ∃ statement, Sql.listingQuery p today
      (.int (n * size * Plan.schoolOverfetch)) (.int 0) = .ok statement := by
    have hwindow := listingQuery_eq hw hc (windowOf size n) 0
    rw [windowOf, Int.toNat_of_nonneg hlimit] at hwindow
    exact ⟨_, hwindow⟩
  have hfetch : s.repository.fetch statement (n * size * Plan.schoolOverfetch) 0 =
      .ok (rows.take (windowOf size n)) := hrows.fetch _ 0 hlimit (by omega) statement hquery
  have hsurvivors : (rows.take (windowOf size n)).filter keep =
      (rows.filter keep).take (reachOf keep rows size n) :=
    (take_survivorsWithin keep rows _).symm
  have hkept := List.forall₂_take (reachOf keep rows size n) hdata
  have hlength : ((rows.filter keep).take (reachOf keep rows size n)).length =
      reachOf keep rows size n :=
    List.length_take_of_le (survivorsWithin_le keep rows _)
  have hsummaries := summaries_slice hkept (offsetOf n size).toNat size.toNat
  rw [executeSchools_outcome, hoverfetch]
  simp only [hquery, hfetch, sift_eq hkeep, hsurvivors, hlength, slice]
  rw [pageOf_eq hsummaries, schoolPageAt, Int.max_eq_right hn]

/-! ## 3. Pages cut from growing windows -/

section Cuts

variable {α : Type} {data : List α} {size : Nat} {reach : Nat → Nat}

/-- The part of a list that a page shows when its window reaches so many items. -/
def cut (data : List α) (size : Nat) (reach : Nat → Nat) (i : Nat) : List α :=
  ((data.take (reach i)).drop (i * size)).take size

theorem length_cut (data : List α) (size : Nat) (reach : Nat → Nat) (i : Nat) :
    (cut data size reach i).length = min size (min (reach i) data.length - i * size) := by
  rw [cut, List.length_take, List.length_drop, List.length_take]

variable (hsize : 0 < size)
include hsize

/-- A page whose window reaches all its items shows a full slice. -/
theorem cut_eq_slice (h : ∀ j < data.length, j < reach (j / size)) (i : Nat) :
    cut data size reach i = (data.drop (i * size)).take size := by
  have htake : cut data size reach i = (data.drop (i * size)).take
      (min size (reach i - i * size)) := by rw [cut, List.drop_take, List.take_take]
  rw [htake]
  by_cases hend : data.length ≤ i * size
  · rw [List.drop_eq_nil_of_le hend, List.take_nil, List.take_nil]
  · -- the last item of the page is the one that asks most of the window
    have hsucc : (i + 1) * size = i * size + size := Nat.succ_mul i size
    have hlast := h (min ((i + 1) * size) data.length - 1) (by omega)
    have hpage : (min ((i + 1) * size) data.length - 1) / size = i :=
      Nat.div_eq_of_lt_le (by omega) (by omega)
    rw [hpage] at hlast
    rw [List.take_eq_take_iff, List.length_drop]
    omega

/-- The first pages show at most the items up to their end.  When they show that many, the window
of each page that starts before the end of the list reaches to the end of its page. -/
theorem length_flatMap_cut (data : List α) (reach : Nat → Nat) (k : Nat) :
    ((List.range k).flatMap (cut data size reach)).length ≤ min (k * size) data.length ∧
      (((List.range k).flatMap (cut data size reach)).length = min (k * size) data.length →
        ∀ i < k, i * size < data.length → min ((i + 1) * size) data.length ≤ reach i) := by
  induction k with
  | zero => exact ⟨by simp, fun _ i hi => by omega⟩
  | succ k ih =>
    obtain ⟨hle, hreach⟩ := ih
    have hpages : (List.range (k + 1)).flatMap (cut data size reach) =
        (List.range k).flatMap (cut data size reach) ++ cut data size reach k := by
      rw [List.range_succ, List.flatMap_append, List.flatMap_singleton]
    have hsucc : (k + 1) * size = k * size + size := Nat.succ_mul k size
    rw [hpages, List.length_append, length_cut]
    refine ⟨by omega, fun heq i hi hstart => ?_⟩
    rcases Nat.lt_succ_iff_lt_or_eq.1 hi with hlt | rfl
    · exact hreach (by omega) i hlt hstart
    · omega

/-- **Pages show every item once when every item is reached from its page**, and only then. -/
theorem perm_flatMap_cut_iff :
    (∃ k, ∀ m ≥ k, ((List.range m).flatMap (cut data size reach)).Perm data) ↔
      ∀ j < data.length, j < reach (j / size) := by
  constructor
  · rintro ⟨k, hk⟩ j hj
    obtain ⟨m, hm, hend⟩ : ∃ m ≥ k, data.length ≤ m :=
      ⟨max k data.length, Nat.le_max_left k _, Nat.le_max_right k _⟩
    have hwhole : min (m * size) data.length = data.length :=
      Nat.min_eq_right (hend.trans (Nat.le_mul_of_pos_right m hsize))
    have hlength := (hk m hm).length_eq.trans hwhole.symm
    have hpage : j / size * size ≤ j := Nat.div_mul_le_self j size
    have hnext : j < (j / size + 1) * size := Nat.lt_mul_of_div_lt (Nat.lt_succ_self _) hsize
    have hin : j / size < m := (Nat.div_le_self j size).trans_lt (hj.trans_le hend)
    have hreach := (length_flatMap_cut hsize data reach m).2 hlength (j / size) hin
      (hpage.trans_lt hj)
    omega
  · intro h
    refine ⟨data.length, fun m hm => ?_⟩
    have hslices : (List.range m).flatMap (cut data size reach) = data.take (m * size) := by
      rw [← flatMap_slices]
      exact List.flatMap_congr fun i _ => cut_eq_slice hsize h i
    rw [hslices, List.take_of_length_le (hm.le.trans (Nat.le_mul_of_pos_right m hsize))]

end Cuts

/-! ## 4. What the pages lose -/

/-- Pages that from some number on have shown every item of a list, each once. -/
def ShowsOnce (data : List Summary) (page : Int → Page) : Prop :=
  ∃ k : Nat, ∀ m ≥ k, ((List.range m).flatMap fun i : Nat => (page (i + 1)).data).Perm data

/-- Pages that show every item of a list on exactly one of them, and tell how many there are. -/
structure LosesNothing (data : List Summary) (page : Int → Page) : Prop where
  shown : ShowsOnce data page
  total : ∀ n, 1 ≤ n → (page n).total = data.length

theorem reachOf_le (keep : Row → Bool) (rows : List Row) (size n : Int) :
    reachOf keep rows size n ≤ (rows.filter keep).length :=
  survivorsWithin_le keep rows _

/-- The window of a later page reaches no fewer survivors. -/
theorem reachOf_mono (keep : Row → Bool) (rows : List Row) {size m n : Int} (hsize : 1 ≤ size)
    (h : m ≤ n) : reachOf keep rows size m ≤ reachOf keep rows size n := by
  refine survivorsWithin_mono keep rows (Int.toNat_le_toNat ?_)
  exact Int.mul_le_mul_of_nonneg_right (Int.mul_le_mul_of_nonneg_right h (by omega)) (by omega)

theorem schoolPageAt_data (keep : Row → Bool) (rows : List Row) (data : List Summary) {size : Int}
    (hsize : 1 ≤ size) (i : Nat) :
    (schoolPageAt keep rows data size (i + 1)).data =
      cut data size.toNat (fun j => reachOf keep rows size (j + 1)) i := by
  have hpage : max 1 ((i : Int) + 1) = i + 1 := by omega
  have hindex : ((i : Int) + 1 - 1).toNat = i := by omega
  rw [schoolPageAt, hpage, offsetOf_toNat (by omega) hsize, hindex, cut]

/-- **The pages show every survivor once exactly when the window of the page where it belongs
reaches it.** -/
theorem showsOnce_iff (keep : Row → Bool) (rows : List Row) (data : List Summary) {size : Int}
    (hsize : 1 ≤ size) :
    ShowsOnce data (schoolPageAt keep rows data size) ↔
      ∀ j < data.length, j < reachOf keep rows size (j / size + 1) := by
  have hpages : ∀ m : Nat,
      ((List.range m).flatMap fun i : Nat => (schoolPageAt keep rows data size (i + 1)).data) =
        (List.range m).flatMap (cut data size.toNat fun j => reachOf keep rows size (j + 1)) :=
    fun m => List.flatMap_congr fun i _ => schoolPageAt_data keep rows data hsize i
  have hpage : ∀ j : Nat, ((j / size.toNat : Nat) : Int) = j / size := by
    intro j
    rw [Int.natCast_div, Int.toNat_of_nonneg (by omega)]
  simp only [ShowsOnce, hpages, perm_flatMap_cut_iff (show 0 < size.toNat by omega), hpage]

/-- **The totals are the number of all survivors exactly when none lies outside the first window.**
-/
theorem totals_iff {data : List Summary} (hlength : data.length = (rows.filter keep).length)
    {size : Int} (hsize : 1 ≤ size) :
    (∀ n, 1 ≤ n → (schoolPageAt keep rows data size n).total = data.length) ↔
      (rows.drop (windowOf size 1)).filter keep = [] := by
  rw [← survivorsWithin_eq_length_iff, hlength]
  constructor
  · intro h
    exact Int.ofNat.inj (h 1 (Int.le_refl 1))
  · intro h n hn
    have hfirst : reachOf keep rows size 1 = (rows.filter keep).length := h
    have hmono := reachOf_mono keep rows hsize hn
    have hle := reachOf_le keep rows size n
    have htotal : (schoolPageAt keep rows data size n).total = reachOf keep rows size n := by
      rw [schoolPageAt, Int.max_eq_right hn]
    omega

/-- **The pages lose nothing exactly when no survivor lies outside the first window.** -/
theorem losesNothing_iff {data : List Summary} (hlength : data.length = (rows.filter keep).length)
    {size : Int} (hsize : 1 ≤ size) :
    LosesNothing data (schoolPageAt keep rows data size) ↔
      (rows.drop (windowOf size 1)).filter keep = [] := by
  have htotals : (∀ n, 1 ≤ n → (schoolPageAt keep rows data size n).total = data.length) ↔
      (rows.drop (windowOf size 1)).filter keep = [] := totals_iff hlength hsize
  constructor
  · intro h
    exact htotals.1 h.total
  · intro h
    refine ⟨(showsOnce_iff keep rows data hsize).2 fun j hj => ?_, htotals.2 h⟩
    -- a first window that holds all survivors is part of every other window
    have hfirst : reachOf keep rows size 1 = (rows.filter keep).length :=
      survivorsWithin_eq_length_iff.2 h
    have hpage : 0 ≤ (j : Int) / size := Int.ediv_nonneg (Int.natCast_nonneg j) (by omega)
    have hmono := reachOf_mono keep rows hsize (show 1 ≤ (j : Int) / size + 1 by omega)
    omega

/-! ## 5. The pages that a session shows -/

/-- The page size that a requested one is brought to. -/
def Service.pageSize (s : Service) (perPage : Int) : Int := max 1 (min s.maxPerPage perPage)

theorem Service.one_le_pageSize (s : Service) (perPage : Int) : 1 ≤ s.pageSize perPage :=
  Int.le_max_left 1 _

/-- A school search outside the cache, whatever page number and size it asks for. -/
theorem uncachedSchools_eq (hp : Filter.compile s.room raw = .ok p)
    (hschools : p.hasSchools = true) (hrows : s.repository.Lists p today rows)
    (hkeep : s.SiftsRows p.schools keep)
    (hdata : List.Forall₂ HasSummary (rows.filter keep) data) (n perPage : Int) :
    s.uncached today raw (.int n) (.int perPage) =
      .ok (schoolPageAt keep rows data (s.pageSize perPage) n) := by
  obtain ⟨c, hc⟩ := exists_columnOf_ofFilter (Filter.get raw "sort")
  rw [← Filter.order_of_compile hp] at hc
  have hoverfetch : p.overfetch = Plan.schoolOverfetch := by
    rw [Filter.overfetch_of_compile hp, if_pos hschools]
  have hclamp : clamp s.maxPerPage (.int n) (.int perPage) =
      .ok (max 1 n, s.pageSize perPage) := rfl
  have hmax : max 1 (max 1 n) = max 1 n := by omega
  rw [Service.uncached, hclamp]
  simp only [Service.execute, hp, hschools]
  rw [if_pos trivial, executeSchools_eq hoverfetch hrows hkeep hc hdata (by omega)
    (s.one_le_pageSize perPage), schoolPageAt, hmax]
  rfl

/-- **When the pages of a school search lose nothing.**  The pages that a session shows, on all days
with the same candidates and with room for the keys of the pages, have every survivor of the
candidates exactly once when each of them is reached by the window of the page where its position
puts it, and only then.  They lose nothing at all, the totals included, exactly when no survivor
lies outside the window of the first page. -/
theorem school_pages_iff (s : Service) (raw : Filters) (p : Plan)
    (hp : Filter.compile s.room raw = .ok p) (hschools : p.hasSchools = true) (rows : List Row)
    (haccepted : ∀ r ∈ rows, ∃ summary, Summary.ofRow r = .ok summary) (keep : Row → Bool)
    (hkeep : s.SiftsRows p.schools keep) (perPage : Int) :
    ∃ (data : List Summary) (page : Int → Page),
      List.Forall₂ HasSummary (rows.filter keep) data ∧
      (s.room.holdsKey raw = true → ∀ (now : Int) (visits : List (Date × Visit)),
        (∀ v ∈ visits, s.repository.Lists p v.1 rows) →
        run ⟨now, []⟩ (turning s raw perPage visits) = answers page visits) ∧
      (ShowsOnce data page ↔ ∀ j < data.length, j < survivorsWithin keep rows
        (windowOf (s.pageSize perPage) (j / s.pageSize perPage + 1))) ∧
      (LosesNothing data page ↔
        (rows.drop (windowOf (s.pageSize perPage) 1)).filter keep = []) := by
  obtain ⟨data, hdata⟩ : ∃ data, List.Forall₂ HasSummary (rows.filter keep) data :=
    exists_summaries fun r hr => haccepted r (List.mem_of_mem_filter hr)
  have hsize := s.one_le_pageSize perPage
  refine ⟨data, schoolPageAt keep rows data (s.pageSize perPage), hdata, ?_,
    showsOnce_iff keep rows data hsize, losesNothing_iff hdata.length_eq.symm hsize⟩
  intro hkey now visits hvisits
  exact run_visits hkey
    (fun v hv n => uncachedSchools_eq hp hschools (hvisits v hv) hkeep hdata n perPage) now

/-- Eleven listings, the last of them elsewhere. -/
def lateRows : List Row :=
  (List.range 10).map (fun i => listingRow (i + 1) "Dallas" .null) ++ [listingRow 11 "Austin" .null]

/-- Whether a listing is in Austin. -/
def isInAustin (r : Row) : Bool := (r.get "city").same (.str "Austin")

/-- A service on the eleven listings, whatever is selected. -/
def lateService : Service where
  repository :=
    { fetch := fun _ limit offset => .ok (slice lateRows offset limit)
      count := fun _ => .ok (.int 11) }
  schoolFilter := some keepCity
  lifetime := 120
  capacity := 1000
  maxPerPage := 250

/-- A search for the schools of Austin. -/
def lateSearch : Filters := [("school_district", .str "Austin")]

theorem listingRow_accepted (number : Int) (city : String) :
    ∃ summary, Summary.ofRow (listingRow number city .null) = .ok summary := ⟨_, rfl⟩

theorem lateRows_accepted : ∀ r ∈ lateRows, ∃ summary, Summary.ofRow r = .ok summary := by
  intro r hr
  rcases List.mem_append.1 hr with hr | hr
  · obtain ⟨i, -, rfl⟩ := List.mem_map.1 hr
    exact listingRow_accepted (i + 1) "Dallas"
  · rw [List.mem_singleton.1 hr]
    exact listingRow_accepted 11 "Austin"

theorem lateSearch_compiles : ∃ p, Filter.compile .standard lateSearch = .ok p ∧
    p.hasSchools = true ∧ lateService.SiftsRows p.schools isInAustin ∧
    ∀ today, lateService.repository.Lists p today lateRows :=
  ⟨_, rfl, rfl, fun _ => rfl, fun _ => ⟨⟨_, rfl⟩, fun _ _ _ _ _ _ => rfl⟩⟩

/-- With one listing on a page the pages lose the survivor, which the first window does not hold. -/
theorem school_pages_iff_lateSearch :
    ∃ p data page, Filter.compile .standard lateSearch = .ok p ∧ p.hasSchools = true ∧
      (∀ r ∈ lateRows, ∃ summary, Summary.ofRow r = .ok summary) ∧
      lateService.SiftsRows p.schools isInAustin ∧
      List.Forall₂ HasSummary (lateRows.filter isInAustin) data ∧
      (∀ (now : Int) (visits : List (Date × Visit)),
        run ⟨now, []⟩ (turning lateService lateSearch 1 visits) = answers page visits) ∧
      ¬ ShowsOnce data page ∧ ¬ LosesNothing data page := by
  obtain ⟨p, hp, hschools, hkeep, hrows⟩ := lateSearch_compiles
  obtain ⟨data, page, hdata, hrun, hshown, hloses⟩ := school_pages_iff lateService lateSearch p hp
    hschools lateRows lateRows_accepted isInAustin hkeep 1
  have hlength : data.length = 1 := hdata.length_eq.symm
  refine ⟨p, data, page, hp, hschools, lateRows_accepted, hkeep, hdata,
    fun now visits => hrun (by decide) now visits fun v _ => hrows v.1, ?_, ?_⟩
  · rw [hshown]
    intro h
    have hfirst : 0 < survivorsWithin isInAustin lateRows (windowOf (lateService.pageSize 1) 1) :=
      h 0 (by omega)
    exact absurd hfirst (by decide +kernel)
  · rw [hloses]
    decide +kernel

/-- **A survivor that no page shows.**  One row more than the first window holds is fetched for the
second page only, which is past it by then; the first page tells that there is nothing. -/
theorem late_survivor_never_shown :
    ∃ data page, List.Forall₂ HasSummary (lateRows.filter isInAustin) data ∧ data.length = 1 ∧
      (∀ (now : Int) (visits : List (Date × Visit)),
        run ⟨now, []⟩ (turning lateService lateSearch 1 visits) = answers page visits) ∧
      (∀ n, (page n).data = []) ∧ (page 1).total = 0 ∧ ¬ LosesNothing data page := by
  obtain ⟨p, hp, hschools, hkeep, hrows⟩ := lateSearch_compiles
  obtain ⟨data, hdata⟩ : ∃ data, List.Forall₂ HasSummary (lateRows.filter isInAustin) data :=
    exists_summaries fun r hr => lateRows_accepted r (List.mem_of_mem_filter hr)
  have hlength : data.length = 1 := hdata.length_eq.symm
  have hreach : reachOf isInAustin lateRows 1 1 = 0 := by decide +kernel
  refine ⟨data, schoolPageAt isInAustin lateRows data (lateService.pageSize 1), hdata, hlength,
    fun now visits => run_visits (by decide)
      (fun v _ n => uncachedSchools_eq hp hschools (hrows v.1) hkeep hdata n 1) now,
    fun n => ?_, ?_, ?_⟩
  · have hsize : lateService.pageSize 1 = 1 := rfl
    rw [schoolPageAt, hsize]
    rcases Int.lt_or_le 1 n with hn | hn
    · -- a later page starts after the only survivor
      have hoffset : 1 ≤ (offsetOf (max 1 n) 1).toNat := by
        rw [offsetOf]
        omega
      have hshort : (data.take (reachOf isInAustin lateRows 1 (max 1 n))).length ≤
          (offsetOf (max 1 n) 1).toNat :=
        (List.length_take_le' _ _).trans (hlength.le.trans hoffset)
      rw [List.drop_eq_nil_of_le hshort, List.take_nil]
    · rw [Int.max_eq_left hn, hreach, List.take_zero, List.drop_nil, List.take_nil]
  · exact congrArg Int.ofNat hreach
  · rw [losesNothing_iff hdata.length_eq.symm (lateService.one_le_pageSize 1)]
    decide +kernel

end Realty.Search
