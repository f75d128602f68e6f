/-
# Explaining a search

* `filtersOfPairs` reads filters that are written as `key=value`.
* `explain` describes the statement that a search is compiled to, without a database: how it will
  be answered, the statement itself, and its parameters.
-/
import Realty.Sql.Query

namespace Realty.Explain

/-! ## 1. Filters -/

/-- A filter that is written as `key=value`; the key may have blanks around it. -/
def readPair (s : String) : Option (String × String) :=
  (Text.partition '=' s.toList).map fun (key, value) =>
    (String.ofList (Text.trim key), String.ofList value)

/-- Filters with a value for a key; a key that is there keeps its place. -/
def setFilter (key value : String) : Filters → Filters
  | [] => [(key, .str value)]
  | (k, v) :: fs => if k = key then (k, .str value) :: fs else (k, v) :: setFilter key value fs

/-- The filters so far and those that more arguments write, or the first argument that is none. -/
def addPairs (filters : Filters) : List String → Except String Filters
  | [] => .ok filters
  | s :: ss =>
    match readPair s with
    | some (key, value) => addPairs (setFilter key value filters) ss
    | none => .error s

/-- The filters that arguments write, or the first argument that writes none: `parse_args`. -/
def filtersOfPairs (ss : List String) : Except String Filters := addPairs [] ss

/-- What is said of an argument that writes no filter. -/
def pairMessage (s : String) : String := "Expected key=value, got " ++ Text.quoted s

/-! ## 2. Explanations -/

/-- Why a search cannot be explained. -/
inductive Error where
  | filter (e : Filter.Error)
  | render (e : Sql.RenderError)

/-- The text of an error. -/
def Error.message : Error → String
  | .filter e => e.message
  | .render e => e.message

/-- The rows that are fetched for a page. -/
def fetched (p : Filter.Plan) (perPage : Int) : Int := perPage * p.overfetch

/-- The school criteria of a search. -/
def schoolText (p : Filter.Plan) : String :=
  if p.schools.isEmpty then "none" else (Value.object p.schools).listing

/-- The lines of an explanation. -/
def explanationLines (p : Filter.Plan) (r : Sql.Rendering) : List String :=
  ["-- direct lookup: " ++ Value.boolText p.isLookup,
    "-- school criteria: " ++ schoolText p,
    "-- overfetch multiplier: " ++ Text.intText p.overfetch,
    r.sql,
    "-- params: " ++ (Value.object r.params).listing]

/-- The explanation of a search: `explain`. -/
def explain (room : Room) (today : Date) (filters : Filters) (perPage : Int) :
    Except Error String :=
  match Filter.compile room filters with
  | .error e => .error (.filter e)
  | .ok p =>
    match Sql.listingQuery p today (.int (fetched p perPage)) (.int 0) >>=
        Sql.Rendering.ofPieces with
    | .error e => .error (.render e)
    | .ok r => .ok (Text.joined "\n" (explanationLines p r))

end Realty.Explain
