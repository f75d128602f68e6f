/-
# Searches of one database

* `Database` is what a database answers to statements, and `Database.repository` the repository
  that sends them to it.
* `IsAlike`: two searches with the same statements, the same answers to them, and the same rows
  kept; `IsAlike.outcome` says that they end alike.
* `execute_outcome_congr`: so services on one database with one school filter give one outcome for
  filters whose plans agree.
-/
import Realty.Proofs.Filter.Mapping
import Realty.Search.Service

namespace Realty

open Realty.Filter (Plan IsMapping SamePlan)

/-! ## 1. Statements -/

namespace Sql

theorem listingQuery_congr {p q : Plan} (h : p.Agrees q) (today : Date) (limit offset : Value) :
    listingQuery p today limit offset = listingQuery q today limit offset := by
  rw [listingQuery, listingQuery, Plan.condition, Plan.condition, h.terms, h.order]

theorem countQuery_congr {p q : Plan} (h : p.Agrees q) (today : Date) :
    countQuery p today = countQuery q today := by
  rw [countQuery, countQuery, Plan.condition, Plan.condition, h.terms]

end Sql

namespace Search

/-- What a database answers, its rows being fixed.  It may fail. -/
structure Database where
  /-- The rows that a statement selects. -/
  select : List Sql.Piece → Except String (List Row)
  /-- The number that a counting statement gives. -/
  count : List Sql.Piece → Except String Value

/-- The repository that sends its statements to the database; limit and offset are part of the
statement that selects. -/
def Database.repository (db : Database) : Repository where
  fetch statement _ _ := db.select statement
  count := db.count

/-! ## 2. Searches that are alike -/

/-- Two searches with the same statements, the same answers to them, and the same rows kept. -/
structure IsAlike (s s' : Service) (today today' : Date) (p q : Plan) : Prop where
  listing : ∀ limit offset : Int,
    Sql.listingQuery p today (.int limit) (.int offset) =
      Sql.listingQuery q today' (.int limit) (.int offset)
  counting : Sql.countQuery p today = Sql.countQuery q today'
  fetch : ∀ limit offset : Int, ∀ statement,
    Sql.listingQuery p today (.int limit) (.int offset) = .ok statement →
      s.repository.fetch statement limit offset = s'.repository.fetch statement limit offset
  count : ∀ statement, Sql.countQuery p today = .ok statement →
    s.repository.count statement = s'.repository.count statement
  sift : ∀ rows, (s.sift rows p.schools).1 = (s'.sift rows q.schools).1
  hasSchools : p.hasSchools = q.hasSchools
  overfetch : p.overfetch = q.overfetch

section

variable {s s' : Service} {today today' : Date} {p q : Plan}

theorem executeSchools_outcome (s : Service) (today : Date) (p : Plan) (page perPage : Int) :
    (s.executeSchools today p page perPage).outcome =
      match Sql.listingQuery p today (.int (page * perPage * p.overfetch)) (.int 0) with
      | .error e => .error (.render e)
      | .ok statement =>
        match s.repository.fetch statement (page * perPage * p.overfetch) 0 with
        | .error message => .error (.database message)
        | .ok candidates =>
          match (s.sift candidates p.schools).1 with
          | .error message => .error (.school message)
          | .ok survivors =>
            pageOf (slice survivors (offsetOf page perPage) perPage) (.int survivors.length) page
              perPage := by
  rw [Service.executeSchools]
  cases Sql.listingQuery p today (.int (page * perPage * p.overfetch)) (.int 0) with
  | error e => rfl
  | ok statement =>
    dsimp only
    cases s.repository.fetch statement (page * perPage * p.overfetch) 0 with
    | error message => rfl
    | ok candidates =>
      dsimp only
      cases s.sift candidates p.schools with
      | mk kept notes => cases kept <;> rfl

namespace IsAlike

theorem executePlain (h : IsAlike s s' today today' p q) (page perPage : Int) :
    (s.executePlain today p page perPage).outcome =
      (s'.executePlain today' q page perPage).outcome := by
  rw [Service.executePlain, Service.executePlain, ← h.listing]
  cases hlisting : Sql.listingQuery p today (.int perPage) (.int (offsetOf page perPage)) with
  | error e => rfl
  | ok statement =>
    dsimp only
    rw [← h.fetch _ _ _ hlisting]
    cases s.repository.fetch statement perPage (offsetOf page perPage) with
    | error message => rfl
    | ok rows =>
      dsimp only
      rw [← h.counting]
      cases hcounting : Sql.countQuery p today with
      | error e => rfl
      | ok counting =>
        dsimp only
        rw [← h.count _ hcounting]

theorem executeSchools (h : IsAlike s s' today today' p q) (page perPage : Int) :
    (s.executeSchools today p page perPage).outcome =
      (s'.executeSchools today' q page perPage).outcome := by
  rw [executeSchools_outcome, executeSchools_outcome, ← h.overfetch, ← h.listing]
  cases hlisting : Sql.listingQuery p today (.int (page * perPage * p.overfetch)) (.int 0) with
  | error e => rfl
  | ok statement =>
    dsimp only
    rw [← h.fetch _ _ _ hlisting]
    cases s.repository.fetch statement (page * perPage * p.overfetch) 0 with
    | error message => rfl
    | ok candidates =>
      dsimp only
      rw [h.sift candidates]

/-- **Searches that are alike end alike.** -/
theorem outcome (h : IsAlike s s' today today' p q) {raw raw' : Filters}
    (hp : Filter.compile s.room raw = .ok p) (hq : Filter.compile s'.room raw' = .ok q)
    (page perPage : Int) :
    (s.execute today raw page perPage).outcome = (s'.execute today' raw' page perPage).outcome := by
  simp only [Service.execute, hp, hq, h.hasSchools]
  cases q.hasSchools with
  | true => exact h.executeSchools page perPage
  | false => exact h.executePlain page perPage

end IsAlike

end

/-! ## 3. One database -/

/-- Whether a school filter depends on the criteria as a mapping only. -/
def SchoolFilter.ReadsMapping (keep : SchoolFilter) : Prop :=
  ∀ rows criteria criteria', IsMapping criteria → criteria.Perm criteria' →
    keep rows criteria = keep rows criteria'

/-- A service that reads a database, sifts by a school filter and compiles within some room. -/
structure Service.Uses (s : Service) (db : Database) (keep : Option SchoolFilter)
    (room : Room) : Prop where
  repository : s.repository = db.repository
  schoolFilter : s.schoolFilter = keep
  room : s.room = room

variable {s s' : Service} {db : Database} {keep : Option SchoolFilter} {room : Room}

/-- The rows that are kept do not depend on the order of the criteria. -/
theorem sift_congr (hfilter : s.schoolFilter = keep) (hfilter' : s'.schoolFilter = keep)
    (hkeep : ∀ f, keep = some f → f.ReadsMapping) {p q : Plan} (h : p.Agrees q)
    (candidates : List Row) :
    (s.sift candidates p.schools).1 = (s'.sift candidates q.schools).1 := by
  rw [Service.sift, Service.sift, hfilter, hfilter']
  split
  · rfl
  · cases hk : keep with
    | none => rfl
    | some f => exact hkeep f hk candidates _ _ h.mapping h.schools

theorem isAlike_of_agrees (hs : s.Uses db keep room) (hs' : s'.Uses db keep room)
    (hkeep : ∀ f, keep = some f → f.ReadsMapping) {p q : Plan} (h : p.Agrees q) (today : Date) :
    IsAlike s s' today today p q where
  listing limit offset := Sql.listingQuery_congr h today (.int limit) (.int offset)
  counting := Sql.countQuery_congr h today
  fetch _ _ _ _ := by rw [hs.repository, hs'.repository]
  count _ _ := by rw [hs.repository, hs'.repository]
  sift := sift_congr hs.schoolFilter hs'.schoolFilter hkeep h
  hasSchools := h.hasSchools
  overfetch := h.overfetch

/-- **Filters whose plans agree have one outcome**, whichever service on the database is asked. -/
theorem execute_outcome_congr (hs : s.Uses db keep room) (hs' : s'.Uses db keep room)
    (hkeep : ∀ f, keep = some f → f.ReadsMapping) {raw raw' : Filters}
    (h : SamePlan (Filter.compile room raw) (Filter.compile room raw')) (today : Date)
    (page perPage : Int) :
    (s.execute today raw page perPage).outcome = (s'.execute today raw' page perPage).outcome := by
  generalize hp : Filter.compile room raw = a at h
  generalize hq : Filter.compile room raw' = b at h
  cases h with
  | error e => rw [Service.execute, Service.execute, hs.room, hs'.room, hp, hq]
  | plan h =>
    exact (isAlike_of_agrees hs hs' hkeep h today).outcome (hs.room ▸ hp) (hs'.room ▸ hq) page
      perPage

end Search

end Realty
