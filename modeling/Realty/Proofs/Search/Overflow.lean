/-
# Statements that the database refuses

* `fetch_of_search`: a search fetches by the statement of its plan, with the limit and the offset of
  its page.
* `fetched_integers_fit_iff`: an integer of this statement is out of range exactly when a bound that
  the filters give overflows, or the limit or the offset needs more than 64 bits.
* `threeBillionBeds_overflow` is a bound that does.
-/
import Realty.Proofs.Filter.Overflow
import Realty.Proofs.Search.Calls
import Realty.Proofs.Search.Parameters
import Realty.Proofs.Search.Session

namespace Realty.Search

open Realty.Filter (Overflows Plan)
open Sql (FitsBits Piece)

/-! ## 1. What is fetched -/

variable {s : Service} {today : Date} {now : Int} {cache : Cache Page} {raw : Filters}
  {page perPage : PageNumber} {statement : List Piece} {limit offset : Int}

theorem clamp_bounds {maxPerPage n size : Int} (h : clamp maxPerPage page perPage = .ok (n, size)) :
    1 ≤ n ∧ 1 ≤ size := by
  obtain ⟨a, -, h⟩ := bind_eq_ok_iff.1 h
  obtain ⟨b, -, h⟩ := bind_eq_ok_iff.1 h
  cases h
  exact ⟨Int.le_max_left .., Int.le_max_left ..⟩

/-- A search that is executed sends the statement of its plan. -/
theorem fetch_of_search
    (h : .fetch statement limit offset ∈
      (s.search today now cache raw page perPage).execution.calls) :
    ∃ p n size, Filter.compile s.room raw = .ok p ∧
      clamp s.maxPerPage page perPage = .ok (n, size) ∧ (limit, offset) = reach p n size ∧
      Sql.listingQuery p today (.int limit) (.int offset) = .ok statement := by
  rw [Service.search] at h
  cases hclamp : clamp s.maxPerPage page perPage with
  | error f =>
    rw [hclamp] at h
    cases h
  | ok numbers =>
    obtain ⟨n, size⟩ := numbers
    have hexecute : .fetch statement limit offset ∈ (s.execute today raw n size).calls := by
      simp only [hclamp] at h
      by_cases hroom : s.room.holdsKey raw = true
      · simp only [searchClamped_of_holdsKey hroom, Service.searchKeyed] at h
        split at h
        · cases h
        · split at h
          · exact h
          · exact h
      · rw [searchClamped_of_not_holdsKey hroom] at h
        cases h
    obtain ⟨p, hp, hreach, hlisting⟩ := fetch_of_execute hexecute
    exact ⟨p, n, size, hp, rfl, hreach, hlisting⟩

/-! ## 2. When integers fit -/

/-- The limit and the offset of a page of a plan are no negative numbers. -/
theorem reach_nonneg {p : Plan} {n size : Int} (hn : 1 ≤ n) (hsize : 1 ≤ size)
    (h : (limit, offset) = reach p n size) : 0 ≤ limit ∧ 0 ≤ offset := by
  unfold reach at h
  split at h
  · cases h
    have hshown : 0 ≤ n * size := Int.mul_nonneg (by omega) (by omega)
    exact ⟨Int.mul_nonneg hshown (Int.natCast_nonneg _), Int.le_refl 0⟩
  · cases h
    exact ⟨by omega, Int.mul_nonneg (by omega) (by omega)⟩

/-- **When the integers of a statement fit.** -/
theorem statement_fits_iff {room : Room} {p : Plan} (hp : Filter.compile room raw = .ok p)
    (hlisting : Sql.listingQuery p today (.int limit) (.int offset) = .ok statement)
    (hlimit : 0 ≤ limit) (hoffset : 0 ≤ offset) :
    (∀ piece ∈ statement, piece.Fits) ↔ ¬ Overflows raw ∧ limit < 2 ^ 63 ∧ offset < 2 ^ 63 := by
  obtain ⟨w, hw, hvalues⟩ := values_listingQuery hlisting
  have hbits {m : Int} (hm : 0 ≤ m) : (Sql.countBind m).Fits ↔ m < 2 ^ 63 := by
    rw [Sql.countBind, Sql.ofValue_fits_iff, FitsBits]
    omega
  have hplaces :
      (∀ piece ∈ statement, piece.Fits) ↔ ∀ piece ∈ Sql.values statement, piece.Fits := by
    refine ⟨fun h piece hpiece => h piece (List.mem_filter.1 hpiece).1, fun h piece hpiece => ?_⟩
    cases hvalue : piece.isValue with
    | false => exact Sql.fits_of_not_isValue (value?_of_not_isValue piece hvalue)
    | true => exact h piece (List.mem_filter.2 ⟨hpiece, hvalue⟩)
  rw [hplaces, hvalues, List.forall_mem_append, Filter.slots_fit_iff hp hw, List.forall_mem_cons,
    List.forall_mem_singleton, hbits hlimit, hbits hoffset]

/-- **When the integers of a search fit.**  A search that is executed sends one statement for its
page.  The integers of this statement are held by the types they are cast to exactly when no bound
that the filters give overflows and neither the limit nor the offset needs more than 64 bits. -/
theorem fetched_integers_fit_iff
    (h : .fetch statement limit offset ∈
      (s.search today now cache raw page perPage).execution.calls) :
    ∃ p n size, Filter.compile s.room raw = .ok p ∧
      clamp s.maxPerPage page perPage = .ok (n, size) ∧ (limit, offset) = reach p n size ∧
      ((∀ piece ∈ statement, piece.Fits) ↔
        ¬ Overflows raw ∧ limit < 2 ^ 63 ∧ offset < 2 ^ 63) := by
  obtain ⟨p, n, size, hp, hclamp, hreach, hlisting⟩ := fetch_of_search h
  obtain ⟨hn, hsize⟩ := clamp_bounds hclamp
  obtain ⟨hlimit, hoffset⟩ := reach_nonneg hn hsize hreach
  exact ⟨p, n, size, hp, hclamp, hreach, statement_fits_iff hp hlisting hlimit hoffset⟩

/-- Whether a call fetches the listings of a window. -/
def Call.fetches (limit offset : Int) : Call → Bool
  | .fetch _ l o => l == limit && o == offset
  | .count _ => false

theorem exists_fetch {calls : List Call} (h : calls.any (Call.fetches limit offset) = true) :
    ∃ statement, .fetch statement limit offset ∈ calls := by
  obtain ⟨call, hcall, hfetches⟩ := List.any_eq_true.1 h
  cases call with
  | count statement => cases hfetches
  | fetch statement l o =>
    obtain ⟨hl, ho⟩ := Bool.and_eq_true_iff.1 hfetches
    rw [eq_of_beq hl, eq_of_beq ho] at hcall
    exact ⟨statement, hcall⟩

/-- Homes for three billion dollars at most. -/
def costlyHomes : Filters := [("beds", .int 3), ("max_price", .str "$3,000,000,000")]

/-- The integers of a search by price fit, although the price needs more than 32 bits. -/
theorem fetched_integers_fit_iff_costlyHomes : ∃ statement,
    .fetch statement 25 50 ∈ ((keepingService 120 1000).search ⟨2026, 3, 10⟩ 1000 [] costlyHomes
      (.int 3) (.int 25)).execution.calls ∧ ∀ piece ∈ statement, piece.Fits := by
  obtain ⟨statement, hfetch⟩ := exists_fetch
    (show ((keepingService 120 1000).search ⟨2026, 3, 10⟩ 1000 [] costlyHomes (.int 3)
      (.int 25)).execution.calls.any (Call.fetches 25 50) = true by decide +kernel)
  obtain ⟨p, n, size, -, -, -, hfits⟩ := fetched_integers_fit_iff hfetch
  exact ⟨statement, hfetch, hfits.2 ⟨by decide +kernel, by decide, by decide⟩⟩

/-- **A number of bedrooms overflows.**  Three billion is read as a number and bound to an integer
of 32 bits. -/
theorem threeBillionBeds_overflow : ∃ statement,
    .fetch statement 25 0 ∈ ((keepingService 120 1000).search ⟨2026, 3, 10⟩ 1000 []
      [("beds", .str "3000000000")] (.int 1) (.int 25)).execution.calls ∧
    ¬ ∀ piece ∈ statement, piece.Fits := by
  obtain ⟨statement, hfetch⟩ := exists_fetch
    (show ((keepingService 120 1000).search ⟨2026, 3, 10⟩ 1000 [] [("beds", .str "3000000000")]
      (.int 1) (.int 25)).execution.calls.any (Call.fetches 25 0) = true by decide +kernel)
  obtain ⟨p, n, size, hp, -, -, hlisting⟩ := fetch_of_search hfetch
  refine ⟨statement, hfetch, fun hfits => ?_⟩
  have hoverflows : Overflows [("beds", .str "3000000000")] := by decide +kernel
  exact ((statement_fits_iff hp hlisting (by decide) (by decide)).1 hfits).1 hoverflows

end Realty.Search
