/-
# Sessions that share a cache

A session is a list of events, each on the day it falls on: searches, clearings of the cache, and
advances of the clock.  It may last for days, and every search comes with its service, and so with
the listings of its moment.  A search is on one day as a whole.

* `cacheKey_injective`: the key of a page tells the filters, up to their order, the page number and
  the page size.
* `Holds`: every page of the cache is the outcome of all searches with its key.
* `searchKeyed_spec`, `step_spec`: a search, and every other event, keeps this, and answers as
  without the cache.
* `run_eq_map`: so do all runs of a session in whose searches the keys tell the outcomes.
-/
import Realty.Proofs.Json.Key
import Realty.Proofs.Search.Database

namespace Realty.Search

open Realty.Filter (IsMapping)
open Json (IsPlainMapping IsCut)

/-! ## 1. Keys -/

theorem toList_cacheKey (raw : Filters) (page perPage : Int) :
    (cacheKey raw page perPage).toList = "search:".toList ++
      ((Json.encode (.object raw)).toList ++
        (':' :: (Text.intDigits page ++ ':' :: Text.intDigits perPage))) := by
  simp only [cacheKey, Text.intText, String.toList_append, String.toList_ofList,
    List.append_assoc]
  rfl

/-- Page numbers and sizes are told apart. -/
theorem pageText_injective {page perPage page' perPage' : Int}
    (h : Text.intDigits page ++ ':' :: Text.intDigits perPage =
      Text.intDigits page' ++ ':' :: Text.intDigits perPage') :
    page = page' ∧ perPage = perPage' := by
  have hcut : ∀ r, IsCut (':' :: r) := Json.isCut_cons rfl
  rw [← Json.toList_encode_int page, ← Json.toList_encode_int page'] at h
  obtain ⟨hpage, hrest⟩ := Json.scalar_append_injective (v := .int page) (w := .int page') rfl rfl
    (hcut _) (hcut _) h
  exact ⟨Value.int.inj hpage, Text.intDigits_injective (List.cons.inj hrest).2⟩

/-- **The key of a page tells the filters**, the page number and the page size. -/
theorem cacheKey_injective {raw raw' : Filters} (h : IsPlainMapping raw)
    (h' : IsPlainMapping raw') {page perPage page' perPage' : Int}
    (hkey : cacheKey raw page perPage = cacheKey raw' page' perPage') :
    raw.Perm raw' ∧ page = page' ∧ perPage = perPage' := by
  have htext := congrArg String.toList hkey
  rw [toList_cacheKey, toList_cacheKey] at htext
  obtain ⟨hperm, hrest⟩ := Json.encodeObject_append_injective h h' (List.append_cancel_left htext)
  exact ⟨hperm, pageText_injective (List.cons.inj hrest).2⟩

/-- For the same filters the key tells the rest, whatever the filters are. -/
theorem cacheKey_injective_right {raw : Filters} {page perPage page' perPage' : Int}
    (hkey : cacheKey raw page perPage = cacheKey raw page' perPage') :
    page = page' ∧ perPage = perPage' := by
  have htext := congrArg String.toList hkey
  rw [toList_cacheKey, toList_cacheKey] at htext
  have hrest := List.append_cancel_left (List.append_cancel_left htext)
  exact pageText_injective (List.cons.inj hrest).2

/-! ## 2. Sessions -/

/-- What happens in a session. -/
inductive Event where
  | search (s : Service) (raw : Filters) (page perPage : PageNumber)
  | clear
  /-- The clock goes on by some of its units, which may be as small as one likes. -/
  | advance (time : Nat)

/-- The events of a session, each with the day it falls on. -/
abbrev Timeline := List (Date × Event)

/-- The clock and the cache that all services of a session share. -/
structure State where
  now : Int
  cache : Cache Page

/-- One event: the answer to a search, and the state after it. -/
def step (today : Date) (state : State) : Event → Option (Except Error Page) × State
  | .search s raw page perPage =>
    let answer := s.search today state.now state.cache raw page perPage
    (some answer.execution.outcome, { state with cache := answer.cache })
  | .clear => (none, { state with cache := [] })
  | .advance time => (none, { state with now := state.now + time })

/-- The answers to the events of a session, in order. -/
def run : State → Timeline → List (Option (Except Error Page))
  | _, [] => []
  | state, (today, event) :: events =>
    (step today state event).1 :: run (step today state event).2 events

/-- The state after the events of a session. -/
def State.after (state : State) : Timeline → State
  | [] => state
  | (today, event) :: events => (step today state event).2.after events

/-- The state after a session that starts with an empty cache. -/
def stateAfter (start : Int) (events : Timeline) : State := State.after ⟨start, []⟩ events

/-- The outcome of a search without the cache: what `_execute` makes of the clamped page. -/
def Service.uncached (s : Service) (today : Date) (raw : Filters) (page perPage : PageNumber) :
    Except Error Page :=
  match clamp s.maxPerPage page perPage with
  | .error f => .error (.fault f)
  | .ok (page, perPage) => (s.execute today raw page perPage).outcome

/-- The answer to an event without the cache. -/
def Event.uncached (today : Date) : Event → Option (Except Error Page)
  | .search s raw page perPage => some (s.uncached today raw page perPage)
  | _ => none

/-! ## 3. What the cache holds -/

/-- Some searches, each of a day, with the number and the size of the page that is asked for. -/
abbrev Searches := Date → Service → Filters → Int → Int → Prop

variable {D : Searches}

/-- Whether those of these searches with one key have one outcome. -/
def KeyTells (D : Searches) : Prop :=
  ∀ day s raw page perPage day' s' raw' page' perPage',
    D day s raw page perPage → D day' s' raw' page' perPage' →
    cacheKey raw page perPage = cacheKey raw' page' perPage' →
    (s.execute day raw page perPage).outcome = (s'.execute day' raw' page' perPage').outcome

/-- Every page of the cache is the outcome of all these searches with its key. -/
def Holds (D : Searches) (cache : Cache Page) : Prop :=
  ∀ entry ∈ cache, ∀ day s raw page perPage, D day s raw page perPage →
    cacheKey raw page perPage = entry.key →
      (s.execute day raw page perPage).outcome = .ok entry.page

theorem holds_nil : Holds D [] := by
  intro entry h
  cases h

/-- What is found in the cache is an entry that is young enough. -/
theorem mem_of_hit? {cache : Cache Page} {now lifetime : Int} {key : String} {page : Page}
    (h : cache.hit? now lifetime key = some page) :
    ∃ entry ∈ cache, entry.key = key ∧ entry.page = page ∧ now - entry.storedAt < lifetime := by
  unfold Cache.hit? at h
  split at h
  · next entry hfind =>
    have hkey : (entry.key == key) = true := by simpa using List.find?_some hfind
    split at h
    · next hfresh =>
      exact ⟨entry, List.mem_of_find?_eq_some hfind, eq_of_beq hkey, Option.some.inj h,
        of_decide_eq_true hfresh⟩
    · cases h
  · cases h

/-- What is in the cache after a page was stored was there before, with another key, or is this
page. -/
theorem mem_store {cache : Cache Page} {now lifetime capacity : Int} {key : String} {page : Page}
    {entry : Cache.Entry Page} (h : entry ∈ cache.store now lifetime capacity key page) :
    entry ∈ cache ∧ entry.key ≠ key ∨ entry = ⟨key, now, page⟩ := by
  have hkept (hmem : entry ∈ cache.retained now lifetime capacity key) :
      entry ∈ cache ∧ entry.key ≠ key :=
    ⟨(Cache.retained_sublist ..).subset hmem, Cache.ne_of_mem_retained hmem⟩
  simp only [Cache.store] at h
  split at h
  · rcases List.mem_append.1 h with h | h
    · exact Or.inl (hkept h)
    · exact Or.inr (List.mem_singleton.1 h)
  · exact Or.inl (hkept h)

/-- Storing the outcome of a search keeps what the cache holds. -/
theorem Holds.store (htells : KeyTells D) {cache : Cache Page} (h : Holds D cache) {today : Date}
    {s : Service} {raw : Filters} {page perPage : Int} (hD : D today s raw page perPage)
    {result : Page}
    (hresult : (s.execute today raw page perPage).outcome = .ok result)
    (now lifetime capacity : Int) :
    Holds D (cache.store now lifetime capacity (cacheKey raw page perPage) result) := by
  intro entry hentry day s' raw' page' perPage' hD' hkey
  rcases mem_store hentry with ⟨hold, -⟩ | rfl
  · exact h entry hold day s' raw' page' perPage' hD' hkey
  · -- the new page has to be the outcome of every other search with its key
    exact (htells day s' raw' page' perPage' today s raw page perPage hD' hD hkey).trans hresult

/-- With room for its key a search goes by the key. -/
theorem searchClamped_of_holdsKey {s : Service} {raw : Filters} (h : s.room.holdsKey raw = true)
    (today : Date) (now : Int) (cache : Cache Page) (page perPage : Int) :
    s.searchClamped today now cache raw page perPage =
      s.searchKeyed today now cache (cacheKey raw page perPage) raw page perPage := by
  rw [Service.searchClamped, Service.key, if_pos h]

/-- Without this room it fails. -/
theorem searchClamped_of_not_holdsKey {s : Service} {raw : Filters}
    (h : ¬ s.room.holdsKey raw = true) (today : Date) (now : Int) (cache : Cache Page)
    (page perPage : Int) :
    s.searchClamped today now cache raw page perPage =
      ⟨{ outcome := .error (.fault .nestedTooDeeply) }, cache⟩ := by
  rw [Service.searchClamped, Service.key, if_neg h]

/-- **A search answers as without the cache**, from a cache that holds outcomes. -/
theorem searchKeyed_spec (htells : KeyTells D) {cache : Cache Page} (h : Holds D cache)
    {today : Date} {s : Service} {raw : Filters} {page perPage : Int}
    (hD : D today s raw page perPage) (now : Int) :
    (s.searchKeyed today now cache (cacheKey raw page perPage) raw page perPage).execution.outcome =
        (s.execute today raw page perPage).outcome ∧
      Holds D
        (s.searchKeyed today now cache (cacheKey raw page perPage) raw page perPage).cache := by
  simp only [Service.searchKeyed]
  split
  · next hit hhit =>
    obtain ⟨entry, hentry, hkey, rfl, -⟩ := mem_of_hit? hhit
    exact ⟨(h entry hentry today s raw page perPage hD hkey.symm).symm, h⟩
  · cases hresult : (s.execute today raw page perPage).outcome with
    | ok result => exact ⟨hresult, h.store htells hD hresult now s.lifetime s.capacity⟩
    | error e => exact ⟨hresult, h⟩

/-- Whether there is room for the key of a search, and the search, once page number and size are in
their ranges, is one of these. -/
def Searches.Has (D : Searches) (today : Date) (s : Service) (raw : Filters)
    (page perPage : PageNumber) : Prop :=
  s.room.holdsKey raw = true ∧
    ∀ n size, clamp s.maxPerPage page perPage = .ok (n, size) → D today s raw n size

theorem search_spec (htells : KeyTells D) {cache : Cache Page} (h : Holds D cache) {today : Date}
    {s : Service} {raw : Filters} {page perPage : PageNumber}
    (hD : D.Has today s raw page perPage) (now : Int) :
    (s.search today now cache raw page perPage).execution.outcome =
        s.uncached today raw page perPage ∧
      Holds D (s.search today now cache raw page perPage).cache := by
  rw [Service.search, Service.uncached]
  cases hclamp : clamp s.maxPerPage page perPage with
  | error f => exact ⟨rfl, h⟩
  | ok numbers =>
    dsimp only
    rw [searchClamped_of_holdsKey hD.1]
    exact searchKeyed_spec htells h (hD.2 numbers.1 numbers.2 hclamp) now

/-! ## 4. Runs -/

/-- Whether a search of an event is one of these. -/
def Event.IsIn (D : Searches) (today : Date) : Event → Prop
  | .search s raw page perPage => D.Has today s raw page perPage
  | _ => True

/-- What one event does. -/
theorem step_spec (htells : KeyTells D) {state : State} (h : Holds D state.cache) {today : Date}
    {event : Event} (hevent : event.IsIn D today) :
    (step today state event).1 = event.uncached today ∧
      Holds D (step today state event).2.cache := by
  cases event with
  | search s raw page perPage =>
    obtain ⟨houtcome, hcache⟩ := search_spec htells h hevent state.now
    exact ⟨congrArg some houtcome, hcache⟩
  | clear => exact ⟨rfl, holds_nil⟩
  | advance time => exact ⟨rfl, h⟩

/-- **A run answers as without the cache** when the keys tell the outcomes of its searches. -/
theorem run_eq_map (htells : KeyTells D) {state : State} (h : Holds D state.cache)
    {events : Timeline} (hevents : ∀ e ∈ events, e.2.IsIn D e.1) :
    run state events = events.map fun e => e.2.uncached e.1 := by
  induction events generalizing state with
  | nil => rfl
  | cons e events ih =>
    obtain ⟨hanswer, hstate⟩ := step_spec htells h (hevents e List.mem_cons_self)
    rw [run, List.map_cons, hanswer,
      ih hstate fun e' he' => hevents e' (List.mem_cons_of_mem e he')]

/-! ## 5. A service with one listing -/

/-- A database that has one listing. -/
def oneListing : Database where
  select _ :=
    .ok [⟨[("listing_key", .str "key-1"), ("listing_id", .str "73000001"),
      ("is_archived", .bool false)]⟩]
  count _ := .ok (.int 1)

/-- Keeps the listings in the city that a criterion names. -/
def keepCity : SchoolFilter := fun rows criteria =>
  .ok (rows.filter fun r => (r.get "city").same (Filter.get criteria "school_district"))

/-- A service that keeps pages for a while. -/
def keepingService (lifetime capacity : Int) : Service where
  repository := oneListing.repository
  schoolFilter := some keepCity
  lifetime := lifetime
  capacity := capacity
  maxPerPage := 100

end Realty.Search
