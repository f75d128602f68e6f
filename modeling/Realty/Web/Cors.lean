/-
# Requests from other origins

Which headers a response carries for a browser that asks from another origin.

* A preflight request, an OPTIONS request that names the method to come, is answered here:
  `Cors.preflight`.
* Any other request with an origin gets `Cors.simpleHeaders` on its response.
-/
import Realty.Text.Split

namespace Realty.Web.Cors

/-- Header names and values. -/
abbrev Headers := List (String × String)

/-- The methods that other origins may use. -/
def methods : List String :=
  ["DELETE", "GET", "HEAD", "OPTIONS", "PATCH", "POST", "PUT", "QUERY"]

/-- For how many seconds a browser may keep the answer to a preflight request. -/
def maxAge : String := "600"

/-- A request from an allowed origin may carry credentials. -/
def credentials : String × String := ("access-control-allow-credentials", "true")

/-- Names the origin, if it is allowed. -/
def allowOrigin (origins : List String) (origin : String) : Headers :=
  if origins.contains origin then [("access-control-allow-origin", origin)] else []

/-- The headers of an ordinary response. -/
def simpleHeaders (origins : List String) (origin : String) : Headers :=
  credentials :: allowOrigin origins origin

/-- Whether a request asks what it may do, rather than doing it. -/
def isPreflight (method : String) (headers : Headers) : Bool :=
  method == "OPTIONS" && (headers.lookup "access-control-request-method").isSome

/-- What a preflight request asks for that is not allowed. -/
def refusals (origins : List String) (origin method : String) : List String :=
  (if origins.contains origin then [] else ["origin"]) ++
    (if methods.contains method then [] else ["method"])

/-- The status, text and headers of the answer to a preflight request. -/
def preflight (origins : List String) (origin : String) (headers : Headers) :
    Nat × String × Headers :=
  let method := (headers.lookup "access-control-request-method").getD ""
  let asked := match headers.lookup "access-control-request-headers" with
    | some names => [("access-control-allow-headers", names)]
    | none => []
  let answer := allowOrigin origins origin ++
    [("access-control-allow-methods", Text.joined ", " methods),
      ("access-control-max-age", maxAge), credentials] ++ asked
  match refusals origins origin method with
  | [] => (200, "OK", answer)
  | refused => (400, "Disallowed CORS " ++ Text.joined ", " refused, answer)

end Realty.Web.Cors
