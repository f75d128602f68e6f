/-
# Rejected filters

Of all filters only `bounds` and `polygon` can be rejected: any other value that cannot be read
counts as not given.  A rejection says which filter it concerns and why; its message starts with
the filter's key.
-/
import Realty.Fault
import Realty.Json.Parse

namespace Realty.Filter

/-- Why a filter is rejected: what a `FilterValidationError` says. -/
inductive Rejection where
  /-- The bounds are neither text nor a list. -/
  | boundsShape
  /-- The bounds do not have four parts. -/
  | boundsCount (parts : Nat)
  /-- A part of the bounds is no number. -/
  | boundsNotNumeric
  /-- A corner of the bounds is not on the globe. -/
  | boundsOutOfRange
  /-- The text of the polygon is no JSON. -/
  | polygonText (error : Json.Error)
  /-- The polygon has too few vertices, or one that is not on the globe. -/
  | polygonVertices
deriving DecidableEq, Repr

namespace Rejection

/-- The filter that is rejected. -/
def key : Rejection → String
  | .boundsShape | .boundsCount _ | .boundsNotNumeric | .boundsOutOfRange => "bounds"
  | .polygonText _ | .polygonVertices => "polygon"

/-- The reason alone. -/
def reason : Rejection → String
  | .boundsShape => "expected 'south,west,north,east'"
  | .boundsCount n => "expected 4 coordinates, got " ++ Text.intText n
  | .boundsNotNumeric => "coordinates must be numeric"
  | .boundsOutOfRange => "coordinates out of range"
  | .polygonText e => "invalid JSON (" ++ e.message ++ ")"
  | .polygonVertices => "expected at least 3 [lat, lng] vertices with valid coordinates"

/-- The filter and the reason. -/
def message (r : Rejection) : String := r.key ++ ": " ++ r.reason

end Rejection

/-- Why filters do not compile. -/
inductive Error where
  /-- A filter is rejected. -/
  | rejected (r : Rejection)
  /-- A polygon holds an integer that cannot be handled, or something is nested too deeply. -/
  | fault (f : Fault)
deriving DecidableEq, Repr

/-- The text of an error. -/
def Error.message : Error → String
  | .rejected r => r.message
  | .fault f => f.message

end Realty.Filter
