/-
# Which pages the cache keeps

A page is stored at the end of the cache, and the oldest pages go first.  That the front of the
cache holds the oldest pages is no property of one store: it needs a clock that never goes back.

* `makeRoom_eq_rtake`: making room leaves the newest entries.
* `IsChronological`: keys are unique, and stored times do not decrease along the cache.
  `store_eq` says what a store leaves of such a cache, and `IsChronological.store` that it is one
  again.
* `IsChronological.step`, `IsChronological.after`: so is the cache after every event, and after
  every session.
* `search_turnover`: so a search leaves the cache alone, or drops what is too old and then the
  oldest entries before it adds its page.
-/
import Mathlib.Data.List.DropRight
import Realty.Proofs.Search.Staleness

namespace Realty

namespace Cache

variable {α : Type} {c : Cache α} {now : Int}

/-! ## 1. Making room -/

/-- **What is left when room is made is the newest entries**, one less than the capacity. -/
theorem makeRoom_eq_rtake (capacity : Int) (c : Cache α) :
    makeRoom capacity c = if 0 < capacity then c.rtake (capacity - 1).toNat else [] := by
  induction c with
  | nil => simp [makeRoom]
  | cons e c ih =>
    rw [makeRoom, List.length_cons]
    split
    · next hfull =>
      rw [ih]
      split
      · -- the first entry is not among the newest, as they have no room beside it
        have hdrop : (e :: c).length - (capacity - 1).toNat =
            c.length - (capacity - 1).toNat + 1 := by
          rw [List.length_cons]
          omega
        rw [List.rtake, List.rtake, hdrop, List.drop_succ_cons]
      · rfl
    · next hroom =>
      have hdrop : (e :: c).length - (capacity - 1).toNat = 0 := by
        rw [List.length_cons]
        omega
      rw [if_pos (by omega), List.rtake, hdrop, List.drop_zero]

/-- The entries beside which a page is stored: younger than the lifetime, with other keys. -/
def others (c : Cache α) (now lifetime : Int) (key : String) : Cache α :=
  c.filter fun e => decide (now - e.storedAt < lifetime ∧ e.key ≠ key)

theorem mem_others {lifetime : Int} {key : String} {e : Entry α} :
    e ∈ c.others now lifetime key ↔ e ∈ c ∧ now - e.storedAt < lifetime ∧ e.key ≠ key := by
  rw [others, List.mem_filter, decide_eq_true_eq]

theorem retained_eq (c : Cache α) (now lifetime capacity : Int) (key : String) :
    c.retained now lifetime capacity key = makeRoom capacity (c.others now lifetime key) := by
  rw [retained, others, List.filter_filter]
  refine congrArg (fun p => makeRoom capacity (c.filter p)) (funext fun e => ?_)
  rw [Entry.isFresh, Bool.and_comm, Bool.decide_and, decide_not]
  rfl

/-! ## 2. Caches in order of time -/

/-- A cache of unique keys whose stored times do not decrease, none of them being in the future. -/
structure IsChronological (c : Cache α) (now : Int) : Prop where
  keys : c.keys.Nodup
  times : c.Pairwise fun earlier later => earlier.storedAt ≤ later.storedAt
  past : ∀ e ∈ c, e.storedAt ≤ now

theorem isChronological_nil (now : Int) : IsChronological ([] : Cache α) now :=
  ⟨List.nodup_nil, List.Pairwise.nil, nofun⟩

namespace IsChronological

theorem later (h : c.IsChronological now) {now' : Int} (hnow : now ≤ now') :
    c.IsChronological now' :=
  ⟨h.keys, h.times, fun e he => Int.le_trans (h.past e he) hnow⟩

/-- Without a lifetime every entry is too old, as none is from the future. -/
theorem others_eq_nil (h : c.IsChronological now) {lifetime : Int} (hlifetime : lifetime ≤ 0)
    (key : String) : c.others now lifetime key = [] := by
  refine List.eq_nil_iff_forall_not_mem.2 fun e he => ?_
  obtain ⟨hmem, hage, -⟩ := mem_others.1 he
  have hpast := h.past e hmem
  omega

/-- **What a store leaves of a cache**: the newest of the others, and then the page, unless the
service keeps no pages. -/
theorem store_eq (h : c.IsChronological now) (lifetime capacity : Int) (key : String) (page : α) :
    c.store now lifetime capacity key page =
      if 0 < lifetime ∧ 0 < capacity then
        (c.others now lifetime key).rtake (capacity - 1).toNat ++ [⟨key, now, page⟩]
      else [] := by
  simp only [store, retained_eq, makeRoom_eq_rtake, Bool.and_eq_true, decide_eq_true_eq]
  by_cases hcapacity : 0 < capacity
  · by_cases hlifetime : 0 < lifetime
    · simp only [hcapacity, hlifetime, and_self, if_true]
    · rw [h.others_eq_nil (Int.not_lt.1 hlifetime)]
      simp [hlifetime]
  · simp [hcapacity]

/-- A store keeps a cache in order of time: what is added is the newest. -/
theorem store (h : c.IsChronological now) (lifetime capacity : Int) (key : String) (page : α) :
    (c.store now lifetime capacity key page).IsChronological now := by
  refine ⟨nodup_keys_store h.keys now lifetime capacity key page, ?_, ?_⟩
  all_goals
    rw [h.store_eq]
    split
  · have hothers : ((c.others now lifetime key).rtake (capacity - 1).toNat).Sublist c :=
      (List.drop_sublist ..).trans List.filter_sublist
    refine List.pairwise_append.2
      ⟨h.times.sublist hothers, List.pairwise_singleton _ _, fun e he e' he' => ?_⟩
    rw [List.mem_singleton.1 he']
    exact h.past e (hothers.subset he)
  · exact List.Pairwise.nil
  · intro e he
    rcases List.mem_append.1 he with he | he
    · exact h.past e (mem_others.1 (List.mem_of_mem_drop he)).1
    · rw [List.mem_singleton.1 he]
  · exact nofun

end IsChronological

/-! ## 3. What goes when a page is stored -/

/-- What becomes of a cache when a service stores a page. -/
structure Turnover (before after : Cache α) (now lifetime capacity : Int) (key : String)
    (page : α) : Prop where
  /-- A service without lifetime or capacity leaves nothing. -/
  emptied : lifetime ≤ 0 ∨ capacity ≤ 0 → after = []
  /-- Any other leaves the newest of the others as they stand, and then the page. -/
  entries : 0 < lifetime → 0 < capacity →
    after = (before.others now lifetime key).rtake (capacity - 1).toNat ++ [⟨key, now, page⟩]
  /-- No more entries remain than the capacity. -/
  size : after.length ≤ max capacity 0
  /-- Nothing newer goes before something older. -/
  oldestFirst : ∀ older ∈ before.others now lifetime key, ∀ newer ∈ before.others now lifetime key,
    older.storedAt < newer.storedAt → older ∈ after → newer ∈ after

/-- **A store drops the oldest entries first**, and only as many as it has to. -/
theorem IsChronological.turnover (h : c.IsChronological now) (lifetime capacity : Int)
    (key : String) (page : α) :
    Turnover c (c.store now lifetime capacity key page) now lifetime capacity key page := by
  rw [h.store_eq]
  refine ⟨fun hnone => if_neg (by omega), fun hlifetime hcapacity =>
    if_pos ⟨hlifetime, hcapacity⟩, ?_, fun older holder newer hnewer htime hkept => ?_⟩
  · split
    · rw [List.length_append, List.length_singleton, List.rtake, List.length_drop]
      omega
    · exact Int.le_max_right capacity 0
  · split at hkept
    · next hpositive =>
      rw [if_pos hpositive]
      have hsplit := List.take_append_drop
        ((c.others now lifetime key).length - (capacity - 1).toNat) (c.others now lifetime key)
      have htimes : (c.others now lifetime key).Pairwise fun e e' => e.storedAt ≤ e'.storedAt :=
        h.times.sublist List.filter_sublist
      rw [← hsplit] at hnewer htimes
      rcases List.mem_append.1 hnewer with hdropped | hstays
      · -- the newer entry would stand in front of the older one
        rcases List.mem_append.1 hkept with hkept | hkept
        · have horder := (List.pairwise_append.1 htimes).2.2 newer hdropped older hkept
          omega
        · rw [List.mem_singleton.1 hkept] at holder
          exact absurd rfl (mem_others.1 holder).2.2
      · exact List.mem_append_left _ hstays
    · cases hkept

end Cache

namespace Search

/-! ## 4. Sessions -/

/-- **Every event keeps the cache in order of time.** -/
theorem isChronological_step {state : State} (h : state.cache.IsChronological state.now)
    (today : Date) (event : Event) :
    (step today state event).2.cache.IsChronological (step today state event).2.now := by
  cases event with
  | clear => exact Cache.isChronological_nil state.now
  | advance time => exact h.later (Int.le_add_of_nonneg_right (Int.natCast_nonneg time))
  | search s raw page perPage =>
    show (s.search today state.now state.cache raw page perPage).cache.IsChronological state.now
    cases search_cases s today state.now state.cache raw page perPage with
    | cached _ _ _ _ _ _ _ _ _ hcache => rwa [hcache]
    | executed n size result _ _ _ _ hcache =>
      rw [hcache]
      exact h.store s.lifetime s.capacity (cacheKey raw n size) result
    | failed _ _ _ hcache => rwa [hcache]

/-- So does every session. -/
theorem isChronological_after {state : State} (h : state.cache.IsChronological state.now)
    (events : Timeline) :
    (state.after events).cache.IsChronological (state.after events).now := by
  induction events generalizing state with
  | nil => exact h
  | cons e events ih => exact ih (isChronological_step h e.1 e.2)

/-- What a search does to the cache of a state. -/
structure CacheEffect (state : State) (s : Service) (raw : Filters) (page perPage : PageNumber)
    (answer : Answer) : Prop where
  /-- A search that answers from the cache leaves it as it was, and so does one that fails: by its
  key, its filters, a statement, a call on the repository, the school filter or a row. -/
  unchanged : answer.execution.calls = [] ∨ (∃ e, answer.execution.outcome = .error e) →
    answer.cache = state.cache
  /-- A search that is executed with success stores its page. -/
  stored : ∀ result, answer.execution.outcome = .ok result → answer.execution.calls ≠ [] →
    ∃ n size, clamp s.maxPerPage page perPage = .ok (n, size) ∧
      state.cache.Turnover answer.cache state.now s.lifetime s.capacity (cacheKey raw n size)
        result

theorem cacheEffect {state : State} (h : state.cache.IsChronological state.now) (today : Date)
    (s : Service) (raw : Filters) (page perPage : PageNumber) :
    CacheEffect state s raw page perPage (state.answer today s raw page perPage) := by
  rw [State.answer]
  cases search_cases s today state.now state.cache raw page perPage with
  | cached _ _ _ _ _ _ _ _ hcalls hcache =>
    exact ⟨fun _ => hcache, fun _ _ hexecuted => absurd hcalls hexecuted⟩
  | executed n size result hclamp _ houtcome hexecuted hcache =>
    constructor
    · rintro (hcalls | ⟨e, herror⟩)
      · exact absurd hcalls hexecuted
      · rw [houtcome] at herror
        cases herror
    · intro result' hresult _
      rw [houtcome] at hresult
      cases hresult
      refine ⟨n, size, hclamp, ?_⟩
      rw [hcache]
      exact h.turnover s.lifetime s.capacity (cacheKey raw n size) result
  | failed e _ houtcome hcache =>
    refine ⟨fun _ => hcache, fun result hresult _ => ?_⟩
    rw [houtcome] at hresult
    cases hresult

/-- **The cache is in order of time, and the oldest pages go first.**  Whatever searches of whatever
services went before, with whatever lifetimes and capacities, failures and clearings: keys are
unique and stored times do not decrease along the cache.  The next search leaves the cache as it
was, when it answers from it or fails; or else it leaves the newest of the entries that are younger
than its lifetime and have another key, and its own page behind them. -/
theorem search_turnover (start : Int) (events : Timeline) :
    (stateAfter start events).cache.IsChronological (stateAfter start events).now ∧
      ∀ today s raw page perPage, CacheEffect (stateAfter start events) s raw page perPage
        ((stateAfter start events).answer today s raw page perPage) := by
  have h : (stateAfter start events).cache.IsChronological (stateAfter start events).now :=
    isChronological_after (Cache.isChronological_nil start) events
  exact ⟨h, fun today s raw page perPage => cacheEffect h today s raw page perPage⟩

/-- A search for the listings of a town. -/
def townSearch (lifetime capacity : Int) (town : String) : Event :=
  .search (keepingService lifetime capacity) [("city", .str town)] (.int 1) (.int 25)

/-- The text of the error that a search ends in. -/
def Execution.errorText? (e : Execution) : Option String :=
  match e.outcome with
  | .ok _ => none
  | .error cause => some cause.message

theorem Execution.exists_error {e : Execution} {text : String} (h : e.errorText? = some text) :
    ∃ cause, e.outcome = .error cause := by
  unfold errorText? at h
  split at h
  · cases h
  · next cause hcause => exact ⟨cause, hcause⟩

/-- A service without room for pages whose database selects listings and then fails to count
them. -/
def uncountingService : Service :=
  { keepingService 0 0 with repository := ⟨fun _ _ _ => .ok [], fun _ => .error "connection lost"⟩ }

/-- Three towns are searched for, and the first of them once more when its page is too old.  Between
them the database fails. -/
def threeTowns : Timeline :=
  [(⟨2026, 3, 10⟩, townSearch 120 1000 "Austin"), (⟨2026, 3, 10⟩, .advance 10),
    (⟨2026, 3, 10⟩, townSearch 120 1000 "Dallas"), (⟨2026, 3, 10⟩, .advance 10),
    (⟨2026, 3, 10⟩, .search uncountingService [] (.int 1) (.int 25)),
    (⟨2026, 3, 10⟩, townSearch 120 1000 "Houston"), (⟨2026, 3, 10⟩, .advance 10),
    (⟨2026, 3, 10⟩, townSearch 30 1000 "Austin")]

/-- A failing call leaves the pages of three towns as they are.  A service with room for two pages
then drops one page for its age and another for want of room. -/
theorem search_turnover_threeTowns :
    (stateAfter 1000 threeTowns).cache.map (·.storedAt) = [1010, 1020, 1030] ∧
      ((stateAfter 1000 threeTowns).answer ⟨2026, 3, 10⟩ uncountingService [] (.int 1)
        (.int 25)).execution.errorText? = some "connection lost" ∧
      ((stateAfter 1000 threeTowns).answer ⟨2026, 3, 10⟩ uncountingService [] (.int 1)
        (.int 25)).cache = (stateAfter 1000 threeTowns).cache ∧
      ∃ answer, (stateAfter 1000 threeTowns).answer ⟨2026, 3, 10⟩ (keepingService 20 2) []
          (.int 1) (.int 25) = answer ∧
        CacheEffect (stateAfter 1000 threeTowns) (keepingService 20 2) [] (.int 1) (.int 25)
          answer ∧
        answer.execution.calls ≠ [] ∧ answer.cache.map (·.storedAt) = [1030, 1030] := by
  have hcalls : ((stateAfter 1000 threeTowns).answer ⟨2026, 3, 10⟩ (keepingService 20 2) []
      (.int 1) (.int 25)).execution.calls.isEmpty = false := by decide +kernel
  obtain ⟨-, heffect⟩ := search_turnover 1000 threeTowns
  have hfails : ((stateAfter 1000 threeTowns).answer ⟨2026, 3, 10⟩ uncountingService [] (.int 1)
      (.int 25)).execution.errorText? = some "connection lost" := by decide +kernel
  have hunchanged := (heffect ⟨2026, 3, 10⟩ uncountingService [] (.int 1) (.int 25)).unchanged
    (.inr (Execution.exists_error hfails))
  exact ⟨by decide +kernel, hfails, hunchanged, _, rfl,
    heffect ⟨2026, 3, 10⟩ (keepingService 20 2) [] (.int 1) (.int 25),
    List.isEmpty_eq_false_iff.1 hcalls, by decide +kernel⟩

end Search

end Realty
