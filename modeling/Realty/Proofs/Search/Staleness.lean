/-
# How old an answer from the cache is

The listings, the services and their lifetimes may change from one search of a session to the next,
and any call on a repository may fail.  A search that takes time is put at the moment it stores its
page: an entry that was too old when the search began is too old at that moment, too.

* `executions` lists the searches that were executed with success: key, time and page, in order.
* `search_cases` says all that a search can do: answer from the cache, execute and store, or fail.
* `Tracks`: every entry of the cache is the latest execution with its key.  `Tracks.step` keeps
  this, event by event, and `Tracks.after` over a session.
* `cached_page_is_latest`: so a search that executes nothing shows the page of the latest
  execution with its key, which is younger than the lifetime of the service that is asked.
-/
import Realty.Proofs.Search.Calls
import Realty.Proofs.Search.Session

namespace Realty.Search

/-! ## 1. Executions -/

/-- The answer to a search in a state. -/
def State.answer (state : State) (today : Date) (s : Service) (raw : Filters)
    (page perPage : PageNumber) : Answer :=
  s.search today state.now state.cache raw page perPage

/-- How a search goes in a state. -/
def State.execution (state : State) (today : Date) (s : Service) (raw : Filters)
    (page perPage : PageNumber) : Execution :=
  (state.answer today s raw page perPage).execution

/-- The entry of a search that is executed with success.  Only a search that is executed calls on
the repository. -/
def executed? (today : Date) (state : State) : Event → Option (Cache.Entry Page)
  | .search s raw page perPage =>
    let e := state.execution today s raw page perPage
    match clamp s.maxPerPage page perPage, e.outcome, e.calls with
    | .ok (n, size), .ok result, _ :: _ => some ⟨cacheKey raw n size, state.now, result⟩
    | _, _, _ => none
  | .clear | .advance _ => none

/-- The searches of a session that are executed with success, in order. -/
def executions (state : State) : Timeline → List (Cache.Entry Page)
  | [] => []
  | (today, event) :: events =>
    (executed? today state event).toList ++ executions (step today state event).2 events

/-- The latest of some entries with a key. -/
def latest? (key : String) (past : List (Cache.Entry Page)) : Option (Cache.Entry Page) :=
  (past.filter fun entry => entry.key == key).getLast?

theorem latest?_append_self (past : List (Cache.Entry Page)) (entry : Cache.Entry Page) :
    latest? entry.key (past ++ [entry]) = some entry := by
  simp [latest?]

theorem latest?_append_of_ne {key : String} (past : List (Cache.Entry Page))
    {entry : Cache.Entry Page} (h : key ≠ entry.key) :
    latest? key (past ++ [entry]) = latest? key past := by
  simp [latest?, h.symm]

/-! ## 2. What a search does -/

/-- All that a search can do. -/
inductive Searched (s : Service) (today : Date) (now : Int) (cache : Cache Page) (raw : Filters)
    (page perPage : PageNumber) (answer : Answer) : Prop where
  /-- It shows an entry of the cache. -/
  | cached (n size : Int) (entry : Cache.Entry Page) :
      clamp s.maxPerPage page perPage = .ok (n, size) → entry ∈ cache →
      entry.key = cacheKey raw n size → now - entry.storedAt < s.lifetime →
      answer.execution.outcome = .ok entry.page → answer.execution.calls = [] →
      answer.cache = cache → Searched s today now cache raw page perPage answer
  /-- It is executed, and its page is stored. -/
  | executed (n size : Int) (result : Page) :
      clamp s.maxPerPage page perPage = .ok (n, size) →
      answer.execution.outcome = s.uncached today raw page perPage →
      answer.execution.outcome = .ok result → answer.execution.calls ≠ [] →
      answer.cache = cache.store now s.lifetime s.capacity (cacheKey raw n size) result →
      Searched s today now cache raw page perPage answer
  /-- It fails, as it would without the cache if there is room for its key. -/
  | failed (e : Error) :
      (s.room.holdsKey raw = true →
        answer.execution.outcome = s.uncached today raw page perPage) →
      answer.execution.outcome = .error e → answer.cache = cache →
      Searched s today now cache raw page perPage answer

/-- **A search shows an entry of the cache, or is executed and stored, or fails.** -/
theorem search_cases (s : Service) (today : Date) (now : Int) (cache : Cache Page)
    (raw : Filters) (page perPage : PageNumber) :
    Searched s today now cache raw page perPage
      (s.search today now cache raw page perPage) := by
  rw [Service.search]
  cases hclamp : clamp s.maxPerPage page perPage with
  | error f => exact .failed (.fault f) (fun _ => by rw [Service.uncached, hclamp]) rfl rfl
  | ok numbers =>
    obtain ⟨n, size⟩ := numbers
    have huncached : (s.execute today raw n size).outcome = s.uncached today raw page perPage := by
      rw [Service.uncached, hclamp]
    dsimp only
    by_cases hroom : s.room.holdsKey raw = true
    · rw [searchClamped_of_holdsKey hroom]
      simp only [Service.searchKeyed]
      split
      · next result hhit =>
        obtain ⟨entry, hmem, hkey, rfl, hage⟩ := mem_of_hit? hhit
        exact .cached n size entry hclamp hmem hkey hage rfl rfl rfl
      · cases hresult : (s.execute today raw n size).outcome with
        | ok result =>
          exact .executed n size result hclamp huncached hresult (execute_calls hresult) rfl
        | error e => exact .failed e (fun _ => huncached) hresult rfl
    · rw [searchClamped_of_not_holdsKey hroom]
      exact .failed _ (fun h => absurd h hroom) rfl rfl

/-! ## 3. What the cache holds -/

/-- Every entry of the cache is the latest of the past executions with its key. -/
structure Tracks (past : List (Cache.Entry Page)) (state : State) : Prop where
  latest : ∀ entry ∈ state.cache, latest? entry.key past = some entry
  stored : ∀ entry ∈ state.cache, entry.storedAt ≤ state.now

theorem tracks_start (now : Int) : Tracks [] ⟨now, []⟩ := ⟨nofun, nofun⟩

variable {past : List (Cache.Entry Page)} {state : State}

/-- What is in the cache was executed. -/
theorem Tracks.mem_past (h : Tracks past state) {entry : Cache.Entry Page}
    (hentry : entry ∈ state.cache) : entry ∈ past :=
  List.mem_of_mem_filter (List.mem_of_getLast? (h.latest entry hentry))

/-- Storing a page makes it the latest with its key: older pages with this key are dropped. -/
theorem Tracks.store (h : Tracks past state) (lifetime capacity : Int) (key : String)
    (result : Page) :
    Tracks (past ++ [⟨key, state.now, result⟩])
      { state with cache := state.cache.store state.now lifetime capacity key result } := by
  constructor
  · intro entry hentry
    rcases mem_store hentry with ⟨hmem, hne⟩ | rfl
    · rw [latest?_append_of_ne past hne]
      exact h.latest entry hmem
    · exact latest?_append_self past _
  · intro entry hentry
    rcases mem_store hentry with ⟨hmem, -⟩ | rfl
    · exact h.stored entry hmem
    · exact Int.le_refl state.now

/-- **Every event keeps the cache up to date** with the executions. -/
theorem Tracks.step (h : Tracks past state) (today : Date) (event : Event) :
    Tracks (past ++ (executed? today state event).toList) (step today state event).2 := by
  cases event with
  | clear => exact ⟨nofun, nofun⟩
  | advance time =>
    rw [executed?, Option.toList_none, List.append_nil]
    refine ⟨h.latest, fun entry hentry => ?_⟩
    have hstored := h.stored entry hentry
    show entry.storedAt ≤ state.now + time
    omega
  | search s raw page perPage =>
    simp only [executed?, Search.step, State.execution, State.answer]
    cases search_cases s today state.now state.cache raw page perPage with
    | cached n size entry _ _ _ _ houtcome hcalls hcache =>
      simpa [houtcome, hcalls, hcache] using h
    | executed n size result hclamp _ houtcome hcalls hcache =>
      obtain ⟨call, calls, hcalls⟩ := List.exists_cons_of_ne_nil hcalls
      rw [hclamp, houtcome, hcalls, hcache]
      exact h.store s.lifetime s.capacity (cacheKey raw n size) result
    | failed e _ houtcome hcache =>
      simpa [houtcome, hcache] using h

/-- So does every session. -/
theorem Tracks.after (h : Tracks past state) (events : Timeline) :
    Tracks (past ++ executions state events) (state.after events) := by
  induction events generalizing past state with
  | nil =>
    rw [executions, List.append_nil]
    exact h
  | cons e events ih =>
    rw [executions, State.after, ← List.append_assoc]
    exact ih (h.step e.1 e.2)

/-! ## 4. Answers from the cache -/

/-- **An answer from the cache is the latest, and younger than the lifetime.**  Whatever searches of
whatever services went before, from an empty cache on, with whatever listings, failures and
clearings: a search that answers without a call on the repository shows the page of the latest
execution with its key, and this was stored less than the lifetime of the asked service before. -/
theorem cached_page_is_latest (start : Int) (events : Timeline) (today : Date) (s : Service)
    (raw : Filters) (page perPage : PageNumber) {result : Page}
    (hresult : ((stateAfter start events).execution today s raw page perPage).outcome = .ok result)
    (hcalls : ((stateAfter start events).execution today s raw page perPage).calls = []) :
    ∃ n size entry, clamp s.maxPerPage page perPage = .ok (n, size) ∧
      latest? (cacheKey raw n size) (executions ⟨start, []⟩ events) = some entry ∧
      entry.page = result ∧ entry.storedAt ≤ (stateAfter start events).now ∧
      (stateAfter start events).now - entry.storedAt < s.lifetime := by
  have htracks : Tracks (executions ⟨start, []⟩ events) (stateAfter start events) :=
    (tracks_start start).after events
  generalize stateAfter start events = state at *
  rw [State.execution, State.answer] at hresult hcalls
  cases search_cases s today state.now state.cache raw page perPage with
  | cached n size entry hclamp hmem hkey hage houtcome _ _ =>
    rw [houtcome] at hresult
    exact ⟨n, size, entry, hclamp, hkey ▸ htracks.latest entry hmem, Except.ok.inj hresult,
      htracks.stored entry hmem, hage⟩
  | executed _ _ _ _ _ _ hexecuted _ => exact absurd hcalls hexecuted
  | failed e _ houtcome _ =>
    rw [houtcome] at hresult
    cases hresult

/-- A service after all listings have been taken down. -/
def emptiedService (lifetime : Int) : Service :=
  { keepingService lifetime 1000 with repository := ⟨fun _ _ _ => .ok [], fun _ => .ok (.int 0)⟩ }

/-- A listing is found and taken down.  Then a search is rejected and another one is executed, both
by a service that keeps pages for a minute, and midnight passes. -/
def lastListing : Timeline :=
  [(⟨2026, 3, 10⟩, .search (keepingService 60 1000) [] (.int 1) (.int 25)),
    (⟨2026, 3, 10⟩, .advance 30),
    (⟨2026, 3, 10⟩, .search (emptiedService 60) [("bounds", .str "north")] (.int 1) (.int 25)),
    (⟨2026, 3, 10⟩, .search (emptiedService 60) [("city", .str "Austin")] (.int 0) (.int 25)),
    (⟨2026, 3, 11⟩, .advance 40)]

/-- A service that keeps pages longer still shows the listing. -/
theorem cached_page_is_latest_lastListing : ∃ result,
    ((stateAfter 1000 lastListing).execution ⟨2026, 3, 11⟩ (emptiedService 300) [] (.int 1)
      (.int 25)).outcome = .ok result ∧
    ((stateAfter 1000 lastListing).execution ⟨2026, 3, 11⟩ (emptiedService 300) [] (.int 1)
      (.int 25)).calls = [] ∧
    result.total = 1 ∧ ∃ n size entry, clamp 100 (.int 1) (.int 25) = .ok (n, size) ∧
      latest? (cacheKey [] n size) (executions ⟨1000, []⟩ lastListing) = some entry ∧
      entry.page = result ∧ entry.storedAt ≤ (stateAfter 1000 lastListing).now ∧
      (stateAfter 1000 lastListing).now - entry.storedAt < 300 := by
  have htotal : ((stateAfter 1000 lastListing).execution ⟨2026, 3, 11⟩ (emptiedService 300) []
      (.int 1) (.int 25)).outcome.toOption.map Page.total = some 1 := by decide +kernel
  have hcalls : ((stateAfter 1000 lastListing).execution ⟨2026, 3, 11⟩ (emptiedService 300) []
      (.int 1) (.int 25)).calls.isEmpty = true := by decide +kernel
  generalize hlate : stateAfter 1000 lastListing = state at *
  cases houtcome : (state.execution ⟨2026, 3, 11⟩ (emptiedService 300) [] (.int 1)
      (.int 25)).outcome with
  | error e =>
    rw [houtcome] at htotal
    cases htotal
  | ok result =>
    rw [houtcome] at htotal
    subst hlate
    exact ⟨result, rfl, List.isEmpty_iff.1 hcalls, Option.some.inj htotal,
      cached_page_is_latest 1000 lastListing ⟨2026, 3, 11⟩ (emptiedService 300) [] (.int 1)
        (.int 25) houtcome (List.isEmpty_iff.1 hcalls)⟩

end Realty.Search
