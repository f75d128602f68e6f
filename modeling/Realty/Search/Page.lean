/-
# Pages of results

A page holds some summaries, the number of all matching listings, and where it stands among the
pages.  `Page.ofFields` checks a page that is given as a mapping, `Page.toValue` is its JSON form.
-/
import Realty.Listing.Summary

namespace Realty

/-- A page of search results: a `SearchPage`. -/
structure Page where
  data : List Summary
  total : Int
  page : Int
  perPage : Int
deriving DecidableEq, Repr

namespace Page

/-- A whole number from one on. -/
def readPositive (v : Value) : Except ProblemKind Int := do
  let n ← readWhole v
  if n < 1 then .error .tooSmall else .ok n

/-- The summary at a position of a list. -/
def readSummary (v : Value) (i : Nat) : Checked Summary :=
  .within (Text.intText i)
    (match v with
      | .object fs => Summary.ofFields fs
      | _ => .failed [⟨[], .notRecord⟩])

/-- The summaries of a list. -/
def readSummaries (v : Value) : Checked (List Summary) :=
  .within "data"
    (match v.items? with
      | some vs => .each (fun (v, i) => readSummary v i) vs.zipIdx
      | none => .failed [⟨[], .notList⟩])

/-- The page that a mapping describes. -/
def ofFields (fields : List (String × Value)) : Checked Page :=
  let src : Summary.Source := fun name => fields.lookup name
  let data : Checked (List Summary) :=
    match src "data" with
    | some v => readSummaries v
    | none => .failed [⟨["data"], .missing⟩]
  (Checked.ok Page.mk)
    |>.and data
    |>.and (Summary.required src "total" readWhole)
    |>.and (Summary.required src "page" readPositive)
    |>.and (Summary.required src "per_page" readPositive)

/-- The JSON form of a page. -/
def toValue (p : Page) : Value :=
  .object [("data", .list (p.data.map Summary.toValue)), ("total", .int p.total),
    ("page", .int p.page), ("per_page", .int p.perPage)]

end Page

end Realty
