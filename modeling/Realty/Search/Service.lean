/-
# The search service

A service answers searches page by page from a repository of listings.

* `Service.execute` compiles the filters, fetches and counts.  A search with school criteria
  cannot be narrowed by the database: it fetches every candidate up to the end of the page, a
  number of times over, sifts them by the school filter, and cuts the page from the survivors.
* `Service.search` brings the page number and size into their ranges and answers from the cache
  when it can; only a successful answer is stored.  Filters for whose key there is no room are not
  searched for.

Calls on the repository and notes are part of the answer.  A call can fail, and so can the school
filter; both fail the search.
-/
import Realty.Json.Encode
import Realty.Search.Cache
import Realty.Search.Page
import Realty.Sql.Query

namespace Realty.Search

open Realty.Filter (Plan)

/-! ## 1. Collaborators -/

/-- Where listings are fetched and counted: a `ListingRepository` with its session.  Either call may
fail with a message. -/
structure Repository where
  /-- The listings that a statement selects, given its limit and its offset. -/
  fetch : List Sql.Piece → (limit offset : Int) → Except String (List Row)
  /-- The number that a counting statement gives, as the database answers. -/
  count : List Sql.Piece → Except String Value

/-- Sifts rows by school criteria, or fails with a message. -/
abbrev SchoolFilter := List Row → Filters → Except String (List Row)

/-- A search service: a `ListingSearchService` with its repository and school filter. -/
structure Service where
  repository : Repository
  /-- No filter means that every row passes. -/
  schoolFilter : Option SchoolFilter := none
  /-- The room for nested calls that is left when filters are compiled. -/
  room : Room := .standard
  /-- How long a page is kept, in the unit of the clock. -/
  lifetime : Int
  /-- How many pages are kept. -/
  capacity : Int
  /-- The most listings of a page. -/
  maxPerPage : Int

/-! ## 2. Answers -/

/-- Why a search fails. -/
inductive Error where
  | filter (e : Filter.Error)
  | render (e : Sql.RenderError)
  | fault (f : Fault)
  /-- A call on the repository failed. -/
  | database (message : String)
  /-- The school filter failed. -/
  | school (message : String)
  /-- A row or the page is not as it should be. -/
  | invalid (problems : List Problem)

/-- The text of an error. -/
def Error.message : Error → String
  | .filter e => e.message
  | .render e => e.message
  | .fault f => f.message
  | .database message => message
  | .school message => message
  | .invalid ps => problemsMessage ps

/-- A call on the repository, with its statement. -/
inductive Call where
  | fetch (statement : List Sql.Piece) (limit offset : Int)
  | count (statement : List Sql.Piece)

/-- What happens during a search. -/
inductive Note where
  | cached
  | noSchoolFilter (criteria : List String)
  | underFilled (kept fetched page shown perPage : Int)
  | returned (shown : Nat) (total : Value) (page : Int)

/-- The level of a note. -/
def Note.level : Note → String
  | .cached | .noSchoolFilter _ => "DEBUG"
  | _ => "INFO"

/-- The text of a note. -/
def Note.message : Note → String
  | .cached => "Returning cached search page"
  | .noSchoolFilter keys =>
    "No school filter configured; ignoring " ++ (Value.list (keys.map .str)).listing
  | .underFilled kept fetched page shown perPage =>
    "School post-filter kept " ++ Text.intText kept ++ " of " ++ Text.intText fetched ++
      " candidates; page " ++ Text.intText page ++ " under-filled (" ++ Text.intText shown ++ "/" ++
      Text.intText perPage ++ ")"
  | .returned shown total page =>
    "Search returned " ++ Text.intText (shown : Int) ++ " of " ++ total.text ++
      " listings (page " ++ Text.intText page ++ ")"

/-- How a search went, the cache apart. -/
structure Execution where
  outcome : Except Error Page
  calls : List Call := []
  notes : List Note := []

/-- The answer to a search, and the cache after it. -/
structure Answer where
  execution : Execution
  cache : Cache Page

/-! ## 3. Executing -/

/-- The summaries of rows; the first row that is not as it should be fails. -/
def summaries : List Row → Except Error (List Summary)
  | [] => .ok []
  | r :: rs =>
    match Summary.ofRow r with
    | .failed ps => .error (.invalid ps)
    | .ok s => (summaries rs).map (s :: ·)

/-- A page of rows. -/
def pageOf (rows : List Row) (total : Value) (page perPage : Int) : Except Error Page := do
  let data ← summaries rows
  match Checked.field "total" (readWhole total) with
  | .ok total => return ⟨data, total, page, perPage⟩
  | .failed ps => .error (.invalid ps)

/-- The end of an execution: the rows of the page are known. -/
def finish (rows : List Row) (total : Value) (page perPage : Int) (calls : List Call)
    (notes : List Note) : Execution where
  outcome := pageOf rows total page perPage
  calls := calls
  notes := notes ++ [.returned rows.length total page]

/-- A count as the database answers it; no answer counts as none. -/
def totalOf (v : Value) : Value := if v.isTruthy then v else .int 0

/-- The first row of a page. -/
def offsetOf (page perPage : Int) : Int := (page - 1) * perPage

/-- Rows from an offset on and up to a limit. -/
def slice (rows : List Row) (offset limit : Int) : List Row :=
  (rows.drop offset.toNat).take limit.toNat

namespace Service

/-- A search whose page the database cuts. -/
def executePlain (s : Service) (today : Date) (plan : Plan) (page perPage : Int) : Execution :=
  let offset := offsetOf page perPage
  match Sql.listingQuery plan today (.int perPage) (.int offset) with
  | .error e => { outcome := .error (.render e) }
  | .ok statement =>
    let fetch : Call := .fetch statement perPage offset
    match s.repository.fetch statement perPage offset with
    | .error message => { outcome := .error (.database message), calls := [fetch] }
    | .ok rows =>
      match Sql.countQuery plan today with
      | .error e => { outcome := .error (.render e), calls := [fetch] }
      | .ok counting =>
        let calls : List Call := [fetch, .count counting]
        match s.repository.count counting with
        | .error message => { outcome := .error (.database message), calls }
        | .ok total => finish rows (totalOf total) page perPage calls []

/-- The candidates that the school filter keeps, with the notes on it. -/
def sift (s : Service) (candidates : List Row) (criteria : Filters) :
    Except String (List Row) × List Note :=
  if candidates.isEmpty then (.ok [], [])
  else match s.schoolFilter with
    | some keep => (keep candidates criteria, [])
    | none => (.ok candidates, [.noSchoolFilter (Filter.sortedKeys criteria)])

/-- Whether all candidates were needed and the page is still not full. -/
def underFilledNote (fetched kept shown : Nat) (limit page perPage : Int) : List Note :=
  if (fetched : Int) = limit && (shown : Int) < perPage then
    [.underFilled kept limit page shown perPage]
  else []

/-- A search whose candidates are sifted by school criteria. -/
def executeSchools (s : Service) (today : Date) (plan : Plan) (page perPage : Int) : Execution :=
  let limit := page * perPage * plan.overfetch
  match Sql.listingQuery plan today (.int limit) (.int 0) with
  | .error e => { outcome := .error (.render e) }
  | .ok statement =>
    let calls : List Call := [.fetch statement limit 0]
    match s.repository.fetch statement limit 0 with
    | .error message => { outcome := .error (.database message), calls }
    | .ok candidates =>
      match s.sift candidates plan.schools with
      | (.error message, notes) => { outcome := .error (.school message), calls, notes }
      | (.ok survivors, notes) =>
        let rows := slice survivors (offsetOf page perPage) perPage
        finish rows (.int survivors.length) page perPage calls (notes ++
          underFilledNote candidates.length survivors.length rows.length limit page perPage)

/-- A search without the cache: `_execute`. -/
def execute (s : Service) (today : Date) (raw : Filters) (page perPage : Int) : Execution :=
  match Filter.compile s.room raw with
  | .error e => { outcome := .error (.filter e) }
  | .ok plan =>
    if plan.hasSchools then s.executeSchools today plan page perPage
    else s.executePlain today plan page perPage

end Service

/-! ## 4. Searching -/

/-- What a page number or a page size is given as.  Doubles and decimals are left out. -/
inductive PageNumber where
  | int (n : Int)
  | bool (b : Bool)
  /-- Something that has no order with numbers, by the name of its kind. -/
  | unordered (kind : String)
deriving DecidableEq, Repr

/-- The number that is given, when it is compared; truth values count as one and zero. -/
def PageNumber.toInt (operator : String) : PageNumber → Except Fault Int
  | .int n => .ok n
  | .bool b => .ok (if b then 1 else 0)
  | .unordered kind => .error (.notComparable operator kind "int")

/-- The page number and size of a request, brought into their ranges. -/
def clamp (maxPerPage : Int) (page perPage : PageNumber) : Except Fault (Int × Int) := do
  let perPage ← perPage.toInt "<"
  let page ← page.toInt ">"
  return (max 1 page, max 1 (min maxPerPage perPage))

/-- The text that is the key of a page: filters that are equal as mappings have one key. -/
def cacheKey (raw : Filters) (page perPage : Int) : String :=
  "search:" ++ Json.encode (.object raw) ++ ":" ++ Text.intText page ++ ":" ++
    Text.intText perPage

/-- The key of a page: `_cache_key`.  Writing it fails on filters that are nested more deeply than
there is room for. -/
def Service.key (s : Service) (raw : Filters) (page perPage : Int) : Except Fault String :=
  if s.room.holdsKey raw then .ok (cacheKey raw page perPage) else .error .nestedTooDeeply

/-- A search with page number and size in their ranges, whose page has this key. -/
def Service.searchKeyed (s : Service) (today : Date) (now : Int) (cache : Cache Page)
    (key : String) (raw : Filters) (page perPage : Int) : Answer :=
  match cache.hit? now s.lifetime key with
  | some hit => ⟨{ outcome := .ok hit, notes := [.cached] }, cache⟩
  | none =>
    let e := s.execute today raw page perPage
    match e.outcome with
    | .ok result => ⟨e, cache.store now s.lifetime s.capacity key result⟩
    | .error _ => ⟨e, cache⟩

/-- A search with page number and size in their ranges. -/
def Service.searchClamped (s : Service) (today : Date) (now : Int) (cache : Cache Page)
    (raw : Filters) (page perPage : Int) : Answer :=
  match s.key raw page perPage with
  | .error f => ⟨{ outcome := .error (.fault f) }, cache⟩
  | .ok key => s.searchKeyed today now cache key raw page perPage

/-- A search: `ListingSearchService.search`. -/
def Service.search (s : Service) (today : Date) (now : Int) (cache : Cache Page) (raw : Filters)
    (page perPage : PageNumber) : Answer :=
  match clamp s.maxPerPage page perPage with
  | .error f => ⟨{ outcome := .error (.fault f) }, cache⟩
  | .ok (page, perPage) => s.searchClamped today now cache raw page perPage

end Realty.Search
