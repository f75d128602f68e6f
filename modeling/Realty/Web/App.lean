/-
# The web application

* `/` says that the application is up; `/api/properties` is the search.  Every query parameter but
  the page and its size is a filter.
* A page or page size that is no integer is answered by 422, a rejected filter by 400, any other
  failure of a search by 500.
* Another path is not found, unless it is one of these with a slash too many or too few, which
  redirects; another method is not allowed.

`App.handle` answers one request of a day and returns the cache after it.
-/
import Realty.Search.Service
import Realty.Settings
import Realty.Web.Cors
import Realty.Web.Query

namespace Realty.Web

open Search (Service)

/-! ## 1. Requests and responses -/

/-- A request; the header names are in lower case. -/
structure Request where
  method : String
  path : String
  query : String
  headers : Cors.Headers

/-- The content of a response. -/
inductive Body where
  | json (v : Value)
  | text (s : String)

/-- A response, with what happened while it was made. -/
structure Response where
  status : Nat
  body : Body
  /-- The headers for browsers that ask from another origin. -/
  cors : Cors.Headers := []
  /-- The calls on the repository. -/
  calls : List Search.Call := []
  /-- Whether the request opened a session of the database, which was closed afterwards. -/
  closesSession : Bool := false
  /-- Warnings. -/
  warnings : List String := []
  /-- The failure behind a status of 500. -/
  raised : Option Search.Error := none

/-- A response that gives a reason. -/
def detail (status : Nat) (reason : String) : Response :=
  { status, body := .json (.object [("detail", .str reason)]) }

/-! ## 2. Paging parameters -/

/-- The text of a problem with an integer parameter. -/
def integerMessage : ProblemKind → String
  | .tooManyDigits => "Unable to parse input string as an integer, exceeded maximum size"
  | _ => "Input should be a valid integer, unable to parse string as an integer"

/-- A problem with a parameter as the response lists it. -/
def parameterProblem (name input : String) (k : ProblemKind) : Value :=
  .object [("type", .str k.name), ("loc", .list [.str "query", .str name]),
    ("msg", .str (integerMessage k)), ("input", .str input)]

/-- An integer parameter, or a default when it is not given. -/
def integerParameter (params : List (String × String)) (name : String) (fallback : Int) :
    Except Value Int :=
  match Query.last? params name with
  | none => .ok fallback
  | some s =>
    match wholeOfText s with
    | .ok n => .ok n
    | .error k => .error (parameterProblem name s k)

/-- The page and page size that a request asks for, or what is wrong with them. -/
def paging (params : List (String × String)) (defaultPerPage : Int) :
    Except (List Value) (Int × Int) :=
  match integerParameter params "page" 1, integerParameter params "per_page" defaultPerPage with
  | .ok page, .ok perPage => .ok (page, perPage)
  | .error e, .ok _ => .error [e]
  | .ok _, .error e => .error [e]
  | .error e, .error f => .error [e, f]

/-! ## 3. Routes -/

/-- The application: its settings and the search service behind it. -/
structure App where
  defaultPerPage : Int
  origins : List String
  service : Service

namespace App

/-- The answer to a request for the state of the application. -/
def statusResponse : Response :=
  { status := 200
    body := .json (.object [("status", .str "ok"), ("service", .str "Listing Search API")]) }

/-- The response to an execution of a search. -/
def searchResponse (e : Search.Execution) : Response :=
  let base : Response := match e.outcome with
    | .ok page => { status := 200, body := .json page.toValue }
    | .error (.filter (.rejected r)) =>
      { detail 400 r.message with warnings := ["Rejected search filters: " ++ r.message] }
    | .error e => { status := 500, body := .text "Internal Server Error", raised := some e }
  { base with calls := e.calls, closesSession := true }

/-- A request for a page of listings: `search_properties`. -/
def properties (app : App) (today : Date) (now : Int) (cache : Cache Page) (query : String) :
    Response × Cache Page :=
  let params := Query.parse query
  match paging params app.defaultPerPage with
  | .error problems =>
    ({ status := 422
       body := .json (.object [("detail", .list problems)])
       closesSession := true }, cache)
  | .ok (page, perPage) =>
    let answer := app.service.search today now cache (Query.filters params) (.int page)
      (.int perPage)
    (searchResponse answer.execution, answer.cache)

/-- The paths of the application. -/
def paths : List String := ["/", "/api/properties"]

/-- A path without the slashes at its end. -/
def stripSlashes (path : String) : String :=
  String.ofList ((path.toList.reverse.dropWhile (· = '/')).reverse)

/-- The path that a path with a slash too many or too few stands for. -/
def redirect (path : String) : String :=
  if path.toList.getLast? = some '/' then stripSlashes path else path ++ "/"

/-- The response to a request, without the headers for other origins. -/
def route (app : App) (today : Date) (now : Int) (cache : Cache Page) (r : Request) :
    Response × Cache Page :=
  if !paths.contains r.path then
    if r.path != "/" && paths.contains (redirect r.path) then
      ({ status := 307, body := .text "" }, cache)
    else (detail 404 "Not Found", cache)
  else if r.method != "GET" then (detail 405 "Method Not Allowed", cache)
  else if r.path == "/" then (statusResponse, cache)
  else app.properties today now cache r.query

/-- The response to a request, and the cache after it. -/
def handle (app : App) (today : Date) (now : Int) (cache : Cache Page) (r : Request) :
    Response × Cache Page :=
  match r.headers.lookup "origin" with
  | none => app.route today now cache r
  | some origin =>
    if Cors.isPreflight r.method r.headers then
      let (status, text, cors) := Cors.preflight app.origins origin r.headers
      ({ status, body := .text text, cors }, cache)
    else
      let (response, cache) := app.route today now cache r
      let cors := if response.raised.isSome then [] else Cors.simpleHeaders app.origins origin
      ({ response with cors }, cache)

end App

end Realty.Web
