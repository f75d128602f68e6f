/-
# What compiles can be written

A plan becomes two statements, one that selects listings and one that counts them.

* `IsWritten` says that a statement is made and all of its values become parameters.
* `listingQuery_eq_ok` and `countQuery_eq_ok`: a statement brings the names of its condition along
  and no others, so that none is in the way of a numbered parameter (`isOwnName_of_mem`).
* `statements_written_iff`: both statements of a plan are written exactly when the days that it goes
  back stay in the calendar; every placeholder has a value.
-/
import Realty.Proofs.Filter.Terms
import Realty.Proofs.Search.Paging

namespace Realty.Search

open Realty.Filter (Plan LeavesCalendar BindsItsOwn)
open Sql (Clause Piece Rendering RenderError IsOwnName raws renders)

/-- A statement is made, and each of its values becomes a parameter. -/
def IsWritten (query : Except RenderError (List Piece)) : Prop :=
  ∃ ps r, query = .ok ps ∧ Rendering.ofPieces ps = .ok r

variable {room : Room} {raw : Filters} {p : Plan} {today : Date} {limit offset : Int}
  {ps : List Piece} {name : String} {v : Value}

/-! ## 1. The statements -/

/-- The statement that selects listings needs a condition, and all names in it are those of the
condition. -/
theorem listingQuery_eq_ok (h : Sql.listingQuery p today (.int limit) (.int offset) = .ok ps) :
    ∃ w, Sql.clause today p.condition = .ok w ∧
      ∀ name v, Piece.named name v ∈ ps → Piece.named name v ∈ w.pieces := by
  obtain ⟨w, hw, h⟩ := bind_eq_ok_iff.1 h
  obtain ⟨order, -, h⟩ := bind_eq_ok_iff.1 h
  cases h
  refine ⟨w, hw, fun name v hname => ?_⟩
  simpa [Sql.fromWhere, Sql.window, Sql.countBind] using hname

theorem countQuery_eq_ok (h : Sql.countQuery p today = .ok ps) :
    ∃ w, Sql.clause today p.condition = .ok w ∧
      ∀ name v, Piece.named name v ∈ ps → Piece.named name v ∈ w.pieces := by
  obtain ⟨w, hw, h⟩ := bind_eq_ok_iff.1 h
  cases h
  refine ⟨w, hw, fun name v hname => ?_⟩
  simpa [Sql.fromWhere] using hname

/-- The order of the results asks for nothing that is missing. -/
theorem exists_listingQuery (hp : Filter.compile room raw = .ok p) {w : Clause}
    (hw : Sql.clause today p.condition = .ok w) (limit offset : Int) :
    ∃ ps, Sql.listingQuery p today (.int limit) (.int offset) = .ok ps := by
  obtain ⟨c, hc⟩ := exists_columnOf_ofFilter (Filter.get raw "sort")
  rw [← Filter.order_of_compile hp] at hc
  rw [Sql.listingQuery, hw, Sql.orderBy, hc]
  exact ⟨_, rfl⟩

/-- The names in the condition of a plan are in the way of no numbered parameter. -/
theorem isOwnName_of_mem (hp : Filter.compile room raw = .ok p) {w : Clause}
    (hw : Sql.clause today p.condition = .ok w) (h : Piece.named name v ∈ w.pieces) :
    IsOwnName name := by
  rw [← Sql.mem_values_named, Clause.values_pieces] at h
  obtain ⟨sql, params, hraw, hname⟩ := Sql.namesFrom_clause p.condition hw name v h
  obtain ⟨sql', params', heq, hbinds⟩ := (Filter.compile_raws hp _ hraw).eq_raw
  cases heq
  exact hbinds.own name hname

/-- **A statement is written when it is made.** -/
theorem isWritten_of_names (hp : Filter.compile room raw = .ok p) {w : Clause}
    (hw : Sql.clause today p.condition = .ok w)
    (h : ∀ name v, Piece.named name v ∈ ps → Piece.named name v ∈ w.pieces) :
    IsWritten (.ok ps) := by
  obtain ⟨r, hr⟩ := Rendering.ofPieces_isOk fun name v hname =>
    isOwnName_of_mem hp hw (h name v hname)
  exact ⟨ps, r, rfl, hr⟩

/-! ## 2. When they are written -/

/-- **What compiles can be written, unless it leaves the calendar.**  Both statements of a plan are
made and all of their values become parameters exactly when the days that the filters go back lead
to a day of the calendar; and the caller's texts bind their own placeholders. -/
theorem statements_written_iff (hp : Filter.compile room raw = .ok p)
    (htoday : today.isValid = true) (limit offset : Int) :
    (IsWritten (Sql.listingQuery p today (.int limit) (.int offset)) ↔ ¬ LeavesCalendar raw today) ∧
    (IsWritten (Sql.countQuery p today) ↔ ¬ LeavesCalendar raw today) ∧
    ∀ sql params, .raw sql params ∈ raws p.condition → BindsItsOwn sql params := by
  rw [← Filter.compile_renders_iff hp htoday, ← Sql.exists_clause_iff]
  refine ⟨⟨?_, ?_⟩, ⟨?_, ?_⟩, ?_⟩
  · rintro ⟨ps, r, hps, -⟩
    obtain ⟨w, hw, -⟩ := listingQuery_eq_ok hps
    exact ⟨w, hw⟩
  · rintro ⟨w, hw⟩
    obtain ⟨ps, hps⟩ := exists_listingQuery hp hw limit offset
    obtain ⟨w', hw', hnames⟩ := listingQuery_eq_ok hps
    rw [hps]
    exact isWritten_of_names hp hw' hnames
  · rintro ⟨ps, r, hps, -⟩
    obtain ⟨w, hw, -⟩ := countQuery_eq_ok hps
    exact ⟨w, hw⟩
  · rintro ⟨w, hw⟩
    have hps := countQuery_eq hw
    obtain ⟨w', hw', hnames⟩ := countQuery_eq_ok hps
    rw [hps]
    exact isWritten_of_names hp hw' hnames
  · intro sql params hraw
    obtain ⟨sql', params', heq, hbinds⟩ := (Filter.compile_raws hp _ hraw).eq_raw
    cases heq
    exact hbinds

/-- A search for the listings of the last so many days, as a form sends it. -/
def newListings (days : String) : Filters := [("new_listing_days", .str days)]

/-- The listings of a month are searched for by statements that are written. -/
theorem statements_written_iff_month :
    ∃ p, Filter.compile .standard (newListings "30") = .ok p ∧
      (⟨2026, 3, 10⟩ : Date).isValid = true ∧
      IsWritten (Sql.listingQuery p ⟨2026, 3, 10⟩ (.int 25) (.int 0)) ∧
      IsWritten (Sql.countQuery p ⟨2026, 3, 10⟩) := by
  have hvalid : (⟨2026, 3, 10⟩ : Date).isValid = true := by decide
  have hdays : (Filter.daysBack (newListings "30")).map wholeAmount = some 30 := by decide +kernel
  have hstays : ¬ LeavesCalendar (newListings "30") ⟨2026, 3, 10⟩ := by
    rintro ⟨-, n, hn, hleaves⟩
    rw [hn] at hdays
    obtain rfl : n = 30 := Option.some.inj hdays
    exact hleaves (by decide)
  obtain ⟨p, hp⟩ : ∃ p, Filter.compile .standard (newListings "30") = .ok p := ⟨_, rfl⟩
  obtain ⟨hlisting, hcount, -⟩ := statements_written_iff hp hvalid 25 0
  exact ⟨p, hp, hvalid, hlisting.2 hstays, hcount.2 hstays⟩

/-- The text of the error that a statement ends in. -/
def errorText? (query : Except RenderError (List Piece)) : Option String :=
  match query with
  | .ok _ => none
  | .error e => some e.message

/-- **The last million days compile, and neither statement can be made.** -/
theorem millionDays_not_written :
    ∃ p, Filter.compile .standard (newListings "1000000") = .ok p ∧
      errorText? (Sql.listingQuery p ⟨2026, 3, 10⟩ (.int 25) (.int 0)) =
        some "date value out of range" ∧
      errorText? (Sql.countQuery p ⟨2026, 3, 10⟩) = some "date value out of range" :=
  ⟨Filter.facetPlan (newListings "1000000") [], rfl, by decide +kernel, by decide +kernel⟩

end Realty.Search
