/-
# What the cache shows instead

A search that is answered from the cache shows what an earlier search for the same page was
answered, and this may have been on an earlier day: `_execute` would have gone back its days from
today.

* `exists_of_mem_executions` and `executed?_search`: a page in the cache is what an earlier search
  of the session was answered when it was executed, which is its outcome without the cache.
* `search_shows_recent`: so a search shows its outcome without the cache on its own day, or on the
  day of such a search, whose page is younger than the lifetime; and this is the same when the
  search does not depend on the day.
* `run_ne_uncached`: a page that outlives its day, and a decimal that shares the key of its text,
  are shown although the search itself would show nothing; and filters nested too deeply for a key
  are not searched for at all.
-/
import Realty.Proofs.Filter.Terms
import Realty.Proofs.Search.Staleness

namespace Realty.Search

open Realty.Filter (Plan IsMapping DependsOnDay)
open Json (IsPlainMapping)

/-! ## 1. What is in the cache -/

/-- Every execution of a session is one of its events. -/
theorem exists_of_mem_executions {state : State} {events : Timeline} {entry : Cache.Entry Page}
    (h : entry ∈ executions state events) :
    ∃ before today event after, events = before ++ (today, event) :: after ∧
      executed? today (state.after before) event = some entry := by
  induction events generalizing state with
  | nil => cases h
  | cons e events ih =>
    obtain ⟨today, event⟩ := e
    rw [executions, List.mem_append, Option.mem_toList] at h
    rcases h with h | h
    · exact ⟨[], today, event, events, rfl, h⟩
    · obtain ⟨before, day, other, after, rfl, hexecuted⟩ := ih h
      exact ⟨(today, event) :: before, day, other, after, rfl, hexecuted⟩

/-- **What is stored of a search is its outcome without the cache**, under the key of its page. -/
theorem executed?_search {state : State} {today : Date} {s : Service} {raw : Filters}
    {page perPage : PageNumber} {entry : Cache.Entry Page}
    (h : executed? today state (.search s raw page perPage) = some entry) :
    ∃ n size, clamp s.maxPerPage page perPage = .ok (n, size) ∧ entry.key = cacheKey raw n size ∧
      entry.storedAt = state.now ∧ s.uncached today raw page perPage = .ok entry.page := by
  simp only [executed?, State.execution, State.answer] at h
  cases search_cases s today state.now state.cache raw page perPage with
  | cached n size shown hclamp _ _ _ houtcome hcalls _ =>
    rw [hclamp, houtcome, hcalls] at h
    cases h
  | executed n size result hclamp huncached houtcome hcalls _ =>
    obtain ⟨call, calls, hcalls⟩ := List.exists_cons_of_ne_nil hcalls
    rw [hclamp, houtcome, hcalls] at h
    cases h
    exact ⟨n, size, hclamp, rfl, rfl, huncached.symm.trans houtcome⟩
  | failed e _ houtcome _ => simp [houtcome] at h

/-! ## 2. Searches of plain filters -/

/-- A search for plain filters on a database, with a school filter. -/
structure IsPlainSearch (db : Database) (keep : Option SchoolFilter) (room : Room) (s : Service)
    (raw : Filters) : Prop where
  uses : s.Uses db keep room
  mapping : IsMapping raw
  plain : IsPlainMapping raw
  /-- There is room for the keys of its pages. -/
  keyed : room.holdsKey raw = true

/-- A session of such searches, on a database that may answer by the day. -/
def IsPlainSession (db : Date → Database) (keep : Option SchoolFilter) (room : Room)
    (events : Timeline) : Prop :=
  ∀ day s raw page perPage, (day, Event.search s raw page perPage) ∈ events →
    IsPlainSearch (db day) keep room s raw

/-- The service on another database. -/
def Service.reading (s : Service) (db : Database) : Service :=
  { s with repository := db.repository }

variable {db : Date → Database} {keep : Option SchoolFilter} {room : Room} {s : Service}
  {raw : Filters}

theorem IsPlainSearch.reading_eq {day : Date} (h : IsPlainSearch (db day) keep room s raw) :
    s.reading (db day) = s := by
  rw [Service.reading, ← h.uses.repository]

theorem IsPlainSearch.reading_uses {day : Date} (h : IsPlainSearch (db day) keep room s raw)
    (day' : Date) : (s.reading (db day')).Uses (db day') keep room :=
  ⟨rfl, h.uses.schoolFilter, h.uses.room⟩

/-- A database whose rows stay as they are: its answers change with the day only where open houses
to come are asked for. -/
structure IsSteady (db : Date → Database) : Prop where
  select : ∀ {room raw p}, Filter.compile room raw = .ok p → .upcomingOpenHouse ∉ p.terms →
    ∀ {today : Date} {limit offset : Int} {statement},
      Sql.listingQuery p today (.int limit) (.int offset) = .ok statement →
        ∀ day day', (db day).select statement = (db day').select statement
  count : ∀ {room raw p}, Filter.compile room raw = .ok p → .upcomingOpenHouse ∉ p.terms →
    ∀ {today : Date} {statement}, Sql.countQuery p today = .ok statement →
      ∀ day day', (db day).count statement = (db day').count statement

/-- **A search that does not depend on the day has one outcome on all days.** -/
theorem uncached_reading_congr (hdb : IsSteady db) (h : ¬ DependsOnDay raw) (s : Service)
    (day day' : Date) (page perPage : PageNumber) :
    (s.reading (db day)).uncached day raw page perPage =
      (s.reading (db day')).uncached day' raw page perPage := by
  rw [Service.uncached, Service.uncached, Service.reading, Service.reading]
  cases clamp s.maxPerPage page perPage with
  | error f => rfl
  | ok numbers =>
    cases hp : Filter.compile s.room raw with
    | error e => simp only [Service.execute, hp]
    | ok p =>
      have hclause : Sql.clause day p.condition = Sql.clause day' p.condition :=
        Filter.compile_dayless hp h day day'
      have hhouses : .upcomingOpenHouse ∉ p.terms := fun hmem =>
        h (Filter.dependsOnDay_of_upcomingOpenHouse hp hmem)
      have halike : IsAlike (s.reading (db day)) (s.reading (db day')) day day' p p :=
        { listing := fun limit offset => by rw [Sql.listingQuery, Sql.listingQuery, hclause]
          counting := by rw [Sql.countQuery, Sql.countQuery, hclause]
          fetch := fun _ _ _ hstatement => hdb.select hp hhouses hstatement day day'
          count := fun _ hstatement => hdb.count hp hhouses hstatement day day'
          sift := fun _ => rfl
          hasSchools := rfl
          overfetch := rfl }
      exact halike.outcome hp hp numbers.1 numbers.2

/-! ## 3. Sessions of plain searches -/

/-- An earlier search of a session for a page of some filters, given in any order: the day it fell
on, and the time when its page was stored. -/
def Stored (start : Int) (events : Timeline) (raw : Filters) (n size : Int) (day : Date)
    (time : Int) : Prop :=
  ∃ before s raw' page perPage after entry,
    events = before ++ (day, Event.search s raw' page perPage) :: after ∧ raw'.Perm raw ∧
      clamp s.maxPerPage page perPage = .ok (n, size) ∧ (stateAfter start before).now = time ∧
      executed? day (stateAfter start before) (.search s raw' page perPage) = some entry

theorem Stored.day_mem {start : Int} {events : Timeline} {n size : Int} {day : Date} {time : Int}
    (h : Stored start events raw n size day time) : ∃ e ∈ events, e.1 = day := by
  obtain ⟨before, s, raw', page, perPage, after, entry, rfl, -⟩ := h
  exact ⟨_, List.mem_append_right _ List.mem_cons_self, rfl⟩

/-- A page in the cache is the outcome of the search on the day when it was stored. -/
theorem exists_stored (hkeep : ∀ f, keep = some f → f.ReadsMapping) {start : Int}
    {events : Timeline} (hevents : IsPlainSession db keep room events) {today : Date}
    (hsearch : IsPlainSearch (db today) keep room s raw) {page perPage : PageNumber} {n size : Int}
    (hclamp : clamp s.maxPerPage page perPage = .ok (n, size)) {entry : Cache.Entry Page}
    (hentry : entry ∈ executions ⟨start, []⟩ events) (hkey : entry.key = cacheKey raw n size) :
    ∃ day, Stored start events raw n size day entry.storedAt ∧
      (s.reading (db day)).uncached day raw page perPage = .ok entry.page := by
  obtain ⟨before, day, event, after, rfl, hexecuted⟩ := exists_of_mem_executions hentry
  cases event with
  | clear | advance _ => cases hexecuted
  | search s' raw' page' perPage' =>
    obtain ⟨n', size', hclamp', hkey', htime, houtcome⟩ := executed?_search hexecuted
    have hearlier := hevents day s' raw' page' perPage'
      (List.mem_append_right _ List.mem_cons_self)
    obtain ⟨hperm, rfl, rfl⟩ :=
      cacheKey_injective hearlier.plain hsearch.plain (hkey'.symm.trans hkey)
    refine ⟨day, ⟨before, s', raw', page', perPage', after, entry, rfl, hperm, hclamp', htime.symm,
      hexecuted⟩, ?_⟩
    have hreading : clamp (s.reading (db day)).maxPerPage page perPage = .ok (n', size') := hclamp
    rw [Service.uncached, hclamp'] at houtcome
    rw [Service.uncached, hreading, ← houtcome]
    exact (execute_outcome_congr hearlier.uses (hsearch.reading_uses day) hkeep
      (Filter.compile_perm room hearlier.mapping hperm) day n' size').symm

/-- A day whose outcome a search may be shown at the end of a session: its own, or one on which an
earlier search for the same page stored it, less than the lifetime before. -/
def IsRecentDay (start : Int) (events : Timeline) (today : Date) (s : Service) (raw : Filters)
    (page perPage : PageNumber) (day : Date) : Prop :=
  day = today ∨ ∃ n size time, clamp s.maxPerPage page perPage = .ok (n, size) ∧
    Stored start events raw n size day time ∧ time ≤ (stateAfter start events).now ∧
    (stateAfter start events).now - time < s.lifetime

theorem exists_recentDay (hkeep : ∀ f, keep = some f → f.ReadsMapping) (start : Int)
    {events : Timeline} (hevents : IsPlainSession db keep room events) {today : Date}
    (hsearch : IsPlainSearch (db today) keep room s raw) (page perPage : PageNumber) :
    ∃ day, IsRecentDay start events today s raw page perPage day ∧
      ((stateAfter start events).execution today s raw page perPage).outcome =
        (s.reading (db day)).uncached day raw page perPage := by
  have htracks : Tracks (executions ⟨start, []⟩ events) (stateAfter start events) :=
    (tracks_start start).after events
  rw [State.execution, State.answer]
  cases search_cases s today (stateAfter start events).now (stateAfter start events).cache raw page
    perPage with
  | cached n size entry hclamp hmem hkey hage houtcome _ _ =>
    obtain ⟨day, hstored, huncached⟩ := exists_stored hkeep hevents hsearch hclamp
      (htracks.mem_past hmem) hkey
    exact ⟨day, .inr ⟨n, size, entry.storedAt, hclamp, hstored, htracks.stored entry hmem, hage⟩,
      houtcome.trans huncached.symm⟩
  | executed _ _ _ _ huncached _ _ _ =>
    exact ⟨today, .inl rfl, by rw [huncached, hsearch.reading_eq]⟩
  | failed _ huncached _ _ =>
    have hkeyed : s.room.holdsKey raw = true := hsearch.uses.room ▸ hsearch.keyed
    exact ⟨today, .inl rfl, by rw [huncached hkeyed, hsearch.reading_eq]⟩

/-- **A search shows its outcome without the cache, of its own day or of that of a recent search.**
Services that share the cache, on one database and with one school filter, answer a search for
plain filters, when there is room for the keys, as `_execute` would for the same filters and the
clamped page if there were no cache: on the day of the search, or on the day when an earlier search
of the session for the same page stored it, less than the lifetime before.  If the rows stay as they
are and the search does not depend on the day, or if all events are on its own day, this is what it
would be answered today. -/
theorem search_shows_recent (hkeep : ∀ f, keep = some f → f.ReadsMapping) (start : Int)
    (events : Timeline) (hevents : IsPlainSession db keep room events) (today : Date)
    (hsearch : IsPlainSearch (db today) keep room s raw) (page perPage : PageNumber) :
    (∃ day, IsRecentDay start events today s raw page perPage day ∧
      ((stateAfter start events).execution today s raw page perPage).outcome =
        (s.reading (db day)).uncached day raw page perPage) ∧
    ((IsSteady db ∧ ¬ DependsOnDay raw) ∨ (∀ e ∈ events, e.1 = today) →
      ((stateAfter start events).execution today s raw page perPage).outcome =
        s.uncached today raw page perPage) := by
  have hrecent := exists_recentDay hkeep start hevents hsearch page perPage
  refine ⟨hrecent, ?_⟩
  obtain ⟨day, hday, houtcome⟩ := hrecent
  rw [houtcome]
  rintro (⟨hsteady, hdayless⟩ | hsame)
  · rw [uncached_reading_congr hsteady hdayless s day today, hsearch.reading_eq]
  · obtain rfl : day = today := by
      rcases hday with rfl | ⟨n, size, time, -, hstored, -⟩
      · rfl
      · obtain ⟨e, he, rfl⟩ := hstored.day_mem
        exact hsame e he
    rw [hsearch.reading_eq]

/-! ## 4. Over midnight -/

/-- A listing of the third of March. -/
def marchListing : Row :=
  ⟨[("listing_key", .str "key-1"), ("listing_id", .str "73000001"), ("is_archived", .bool false),
    ("city", .str "5"), ("listing_contract_date", .date ⟨2026, 3, 3⟩)]⟩

/-- Whether a piece of a statement does not ask for newer listings. -/
def reachesMarch : Sql.Piece → Bool
  | .bind ⟨_, .date since, _⟩ => decide (since.toOrdinal ≤ (⟨2026, 3, 3⟩ : Date).toOrdinal)
  | _ => true

/-- A database with this listing. -/
def marchDatabase : Database where
  select statement := .ok (if statement.all reachesMarch then [marchListing] else [])
  count statement := .ok (.int (if statement.all reachesMarch then 1 else 0))

/-- A service on this database that keeps pages for two minutes. -/
def marchService : Service where
  repository := marchDatabase.repository
  schoolFilter := some keepCity
  lifetime := 120
  capacity := 1000
  maxPerPage := 100

/-- The listings of the last week. -/
def lastWeek : Filters := [("new_listing_days", .int 7)]

/-- All that is active in three cities, the last of them named by a number. -/
def threeCities : Filters := [("city", .list [.str "Austin", .str "Dallas", .int 5])]

/-- Both are searched for, and midnight passes. -/
def overMidnight : Timeline :=
  [(⟨2026, 3, 10⟩, .search marchService lastWeek (.int 1) (.int 25)),
    (⟨2026, 3, 10⟩, .search marchService threeCities (.int 1) (.int 25)),
    (⟨2026, 3, 11⟩, .advance 60)]

theorem keepCity_readsMapping : ∀ f, some keepCity = some f → f.ReadsMapping := by
  rintro f hf rows criteria criteria' hmapping hperm
  cases hf
  rw [keepCity, keepCity, Filter.get_perm hmapping hperm]

/-- A search with one filter on the database of March. -/
theorem isPlainSearch_march {key : String} {v : Value} (hv : v.IsPlain)
    (hkeyed : Room.standard.holdsKey [(key, v)] = true) :
    IsPlainSearch marchDatabase (some keepCity) .standard marchService [(key, v)] :=
  ⟨⟨rfl, rfl, rfl⟩, List.nodup_singleton key, List.forall_mem_singleton.2 hv, hkeyed⟩

theorem isPlain_threeCities : (Value.list [.str "Austin", .str "Dallas", .int 5]).IsPlain := by
  refine .list fun x hx => ?_
  simp only [List.mem_cons, List.not_mem_nil, or_false] at hx
  rcases hx with rfl | rfl | rfl
  · exact .str "Austin"
  · exact .str "Dallas"
  · exact .scalar rfl

theorem isPlainSession_overMidnight :
    IsPlainSession (fun _ => marchDatabase) (some keepCity) .standard overMidnight := by
  intro day s raw page perPage hevent
  simp only [overMidnight, List.mem_cons, Prod.mk.injEq, List.not_mem_nil, or_false] at hevent
  rcases hevent with ⟨-, hsearch⟩ | ⟨-, hsearch⟩ | ⟨-, hsearch⟩
  · cases hsearch
    exact isPlainSearch_march (.scalar rfl) (by decide)
  · cases hsearch
    exact isPlainSearch_march isPlain_threeCities (by decide)
  · cases hsearch

/-- After midnight the page of last week is shown once more, and the page of the three cities is
what it would be without the cache. -/
theorem search_shows_recent_overMidnight :
    (∀ f, some keepCity = some f → f.ReadsMapping) ∧
      IsPlainSession (fun _ => marchDatabase) (some keepCity) .standard overMidnight ∧
      IsPlainSearch marchDatabase (some keepCity) .standard marchService lastWeek ∧
      IsPlainSearch marchDatabase (some keepCity) .standard marchService threeCities ∧
      (∃ day, IsRecentDay 1000 overMidnight ⟨2026, 3, 11⟩ marchService lastWeek (.int 1) (.int 25)
          day ∧
        ((stateAfter 1000 overMidnight).execution ⟨2026, 3, 11⟩ marchService lastWeek (.int 1)
          (.int 25)).outcome =
          (marchService.reading marchDatabase).uncached day lastWeek (.int 1) (.int 25)) ∧
      ((stateAfter 1000 overMidnight).execution ⟨2026, 3, 11⟩ marchService threeCities (.int 1)
        (.int 25)).outcome =
        marchService.uncached ⟨2026, 3, 11⟩ threeCities (.int 1) (.int 25) := by
  have hweek : IsPlainSearch marchDatabase (some keepCity) .standard marchService lastWeek :=
    isPlainSearch_march (.scalar rfl) (by decide)
  have hcities : IsPlainSearch marchDatabase (some keepCity) .standard marchService threeCities :=
    isPlainSearch_march isPlain_threeCities (by decide)
  have hsteady : IsSteady fun _ => marchDatabase :=
    ⟨fun _ _ => fun _ _ _ => rfl, fun _ _ => fun _ _ _ => rfl⟩
  have hdayless : ¬ DependsOnDay threeCities := by
    rintro ⟨-, hdays | hhouses⟩
    · exact absurd hdays (by decide +kernel)
    · exact absurd hhouses (by decide +kernel)
  exact ⟨keepCity_readsMapping, isPlainSession_overMidnight, hweek, hcities,
    (search_shows_recent keepCity_readsMapping 1000 overMidnight isPlainSession_overMidnight
      ⟨2026, 3, 11⟩ hweek (.int 1) (.int 25)).1,
    (search_shows_recent keepCity_readsMapping 1000 overMidnight isPlainSession_overMidnight
      ⟨2026, 3, 11⟩ hcities (.int 1) (.int 25)).2 (.inl ⟨hsteady, hdayless⟩)⟩

/-- The totals of the pages that are shown. -/
def totals (outcomes : List (Option (Except Error Page))) : List (Option Int) :=
  outcomes.map fun outcome => outcome.bind fun page => page.toOption.map Page.total

/-- The listings of the last week are searched for before and after midnight. -/
def weekTwice : Timeline :=
  [(⟨2026, 3, 10⟩, .search marchService lastWeek (.int 1) (.int 25)), (⟨2026, 3, 11⟩, .advance 60),
    (⟨2026, 3, 11⟩, .search marchService lastWeek (.int 1) (.int 25))]

/-- A school criterion is given as text and then as a decimal. -/
def textAndDecimal : Timeline :=
  [(⟨2026, 3, 10⟩,
      .search marchService [("school_district", .str "5")] (.int 1) (.int 25)),
    (⟨2026, 3, 10⟩,
      .search marchService [("school_district", .decimal (.finite false 5 0))] (.int 1) (.int 25))]

/-- A list that is nested in so many others. -/
def nestedList : Nat → Value
  | 0 => .list []
  | n + 1 => .list [nestedList n]

/-- A thousand lists are given under a key that no filter has. -/
def deepNote : Timeline :=
  [(⟨2026, 3, 10⟩, .search marchService [("note", nestedList 1000)] (.int 1) (.int 25))]

/-- **With the cache a search can show what it would not show itself, and the other way round.**
After midnight a listing is eight days old, and the page of the last week still shows it.  A decimal
has the key of its text, and the page of the text is shown for it.  Filters that are nested too
deeply have no key, even where no filter reads them. -/
theorem run_ne_uncached :
    totals (run ⟨1000, []⟩ weekTwice) = [some 1, none, some 1] ∧
      totals (weekTwice.map fun e => e.2.uncached e.1) = [some 1, none, some 0] ∧
      totals (run ⟨1000, []⟩ textAndDecimal) = [some 1, some 1] ∧
      totals (textAndDecimal.map fun e => e.2.uncached e.1) = [some 1, some 0] ∧
      totals (run ⟨1000, []⟩ deepNote) = [none] ∧
      totals (deepNote.map fun e => e.2.uncached e.1) = [some 1] := by
  decide +kernel

end Realty.Search
