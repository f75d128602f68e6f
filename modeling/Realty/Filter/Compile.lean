/-
# From filters to a search plan

Filters are a mapping from keys to values as they arrive in a request.

* A filter that identifies a listing (`lookupFacets`) makes the search a direct lookup: all other
  filters are left aside, and archived listings are searched too.
* Otherwise the plan joins the status, Active unless asked otherwise, the facets, and the areas on
  the map; school criteria are kept as they are, because no listing column expresses them, and
  make the search fetch more rows than it shows.
* `compile` is the plan or the first failure; `notes` says what happened on the way.
-/
import Realty.Filter.Area
import Realty.Filter.Facet
import Realty.Nesting
import Realty.ResultOrder
import Realty.Status

namespace Realty

/-- Search filters by key, in the order of the request. -/
abbrev Filters := List (String × Value)

namespace Filter

/-! ## 1. Filters -/

/-- The value of a filter; a filter that is not given is null. -/
def get (raw : Filters) (key : String) : Value := (raw.lookup key).getD .null

/-- The conditions that a list of facets gives. -/
def conditions (raw : Filters) (fs : List Facet) : List Predicate :=
  fs.filterMap fun f => f.rule.condition (get raw f.key)

/-- How the keys of most school criteria begin. -/
def schoolStart : String := "school_"

/-- School keys without the common beginning. -/
def schoolNames : List String := ["elementary_school", "middle_school", "high_school"]

/-- Whether a key names a school criterion: `is_school_key`. -/
def namesSchool (key : String) : Bool :=
  schoolStart.toList.isPrefixOf key.toList || schoolNames.contains key

/-- The school criteria among the filters, as they were given: `_school_criteria`. -/
def schoolCriteria (raw : Filters) : Filters :=
  raw.filter fun (key, v) => namesSchool key && !v.isBlank

/-! ## 2. Plans -/

/-- What a search looks for, and how: a `FilterResult`. -/
structure Plan where
  /-- The conditions, all of which a listing has to meet. -/
  terms : List Predicate
  order : ResultOrder := .newest
  /-- Whether the search identifies a listing. -/
  isLookup : Bool := false
  /-- School criteria to sift the fetched rows by. -/
  schools : Filters := []
  /-- Whether fetched rows are sifted by school criteria. -/
  hasSchools : Bool := false
  /-- How many rows are fetched for each row to show. -/
  overfetch : Nat := 1

namespace Plan

/-- The condition that a listing has to meet. -/
def condition (p : Plan) : Predicate := .allOf p.terms

/-- How many times more rows are fetched when they are sifted. -/
def schoolOverfetch : Nat := 10

/-- Whether two plans are equal, values being compared by value. -/
def same (p q : Plan) : Bool :=
  p.condition.same q.condition && p.order == q.order && p.isLookup == q.isLookup &&
    (Value.object p.schools).same (.object q.schools) && p.hasSchools == q.hasSchools &&
    p.overfetch == q.overfetch

end Plan

/-! ## 3. Compiling -/

/-- The conditions of the areas on the map: those of `_spatial`. -/
def areaConditions (room : Room) (raw : Filters) : Except Error (List Predicate) := do
  let bounds ← Area.boundsCondition (get raw "bounds")
  let polygon ← Area.polygonCondition room (get raw "polygon")
  return bounds ++ polygon

/-- The conditions that identify a listing: those of `_direct_lookup`. -/
def lookupConditions (raw : Filters) : List Predicate := conditions raw lookupFacets

/-- The conditions that narrow a search, the areas apart. -/
def facetConditions (raw : Filters) : List Predicate :=
  Status.condition (get raw "status") :: conditions raw facets

/-- Whether there is room for the texts of a facet. -/
def Facet.fits (room : Room) (raw : Filters) (f : Facet) : Bool :=
  room.holds f.key (f.rule.listed (get raw f.key))

/-- Whether there is room for the texts of the status. -/
def statusFits (room : Room) (raw : Filters) : Bool :=
  room.holds "status" (Status.listed (get raw "status"))

/-- Whether there is room for all texts that are taken on the way to a plan. -/
def textsFit (room : Room) (raw : Filters) : Bool :=
  statusFits room raw && facets.all (Facet.fits room raw)

/-- The plan of the facets and some areas. -/
def facetPlan (raw : Filters) (areas : List Predicate) : Plan :=
  let schools := schoolCriteria raw
  let hasSchools := !schools.isEmpty
  { terms := facetConditions raw ++ areas
    order := .ofFilter (get raw "sort")
    schools
    hasSchools
    overfetch := if hasSchools then Plan.schoolOverfetch else 1 }

/-- The plan of a search that identifies no listing.  The areas come last: a text that there is no
room for fails before them. -/
def compileFacets (room : Room) (raw : Filters) : Except Error Plan :=
  if textsFit room raw then (areaConditions room raw).map (facetPlan raw)
  else .error (.fault .nestedTooDeeply)

/-- The plan of a search that identifies a listing by some conditions. -/
def identifyingPlan (raw : Filters) (terms : List Predicate) : Plan :=
  { terms, order := .ofFilter (get raw "sort"), isLookup := true }

/-- The plan of a search: `FilterCompiler.compile`. -/
def compile (room : Room) (raw : Filters) : Except Error Plan :=
  match lookupConditions raw with
  | [] => compileFacets room raw
  | terms => .ok (identifyingPlan raw terms)

/-! ### What a plan is made of -/

section

variable {room : Room} {raw : Filters} {p : Plan}

theorem compile_of_lookup (h : lookupConditions raw ≠ []) :
    compile room raw = .ok (identifyingPlan raw (lookupConditions raw)) := by
  rw [compile]
  split
  · next hnil => exact absurd hnil h
  · rfl

theorem compile_of_facets (h : lookupConditions raw = []) :
    compile room raw = compileFacets room raw := by
  rw [compile, h]

theorem compileFacets_eq_ok_iff :
    compileFacets room raw = .ok p ↔
      textsFit room raw = true ∧ ∃ areas, areaConditions room raw = .ok areas ∧
        facetPlan raw areas = p := by
  rw [compileFacets]
  cases textsFit room raw with
  | true => simp only [if_true, true_and, map_eq_ok_iff]
  | false => simp

/-- **All that a plan can be**: the plan of a lookup, or the plan of the facets and some areas. -/
theorem compile_cases (h : compile room raw = .ok p) :
    lookupConditions raw ≠ [] ∧ p = identifyingPlan raw (lookupConditions raw) ∨
      lookupConditions raw = [] ∧ textsFit room raw = true ∧
        ∃ areas, areaConditions room raw = .ok areas ∧ p = facetPlan raw areas := by
  by_cases hlookup : lookupConditions raw = []
  · rw [compile_of_facets hlookup] at h
    obtain ⟨hfits, areas, hareas, rfl⟩ := compileFacets_eq_ok_iff.1 h
    exact .inr ⟨hlookup, hfits, areas, hareas, rfl⟩
  · rw [compile_of_lookup hlookup] at h
    exact .inl ⟨hlookup, (Except.ok.inj h).symm⟩

theorem order_of_compile (h : compile room raw = .ok p) :
    p.order = .ofFilter (get raw "sort") := by
  rcases compile_cases h with ⟨-, rfl⟩ | ⟨-, -, areas, -, rfl⟩ <;> rfl

/-- **The school criteria of a plan**: a lookup has none, any other search those that are given. -/
theorem schools_of_compile (h : compile room raw = .ok p) :
    p.schools = if p.isLookup then [] else schoolCriteria raw := by
  rcases compile_cases h with ⟨-, rfl⟩ | ⟨-, -, areas, -, rfl⟩ <;> rfl

/-- A plan sifts rows exactly when it has criteria to sift them by. -/
theorem hasSchools_of_compile (h : compile room raw = .ok p) :
    p.hasSchools = !p.schools.isEmpty := by
  rcases compile_cases h with ⟨-, rfl⟩ | ⟨-, -, areas, -, rfl⟩ <;> rfl

/-- A plan fetches more rows than it shows exactly when it sifts them. -/
theorem overfetch_of_compile (h : compile room raw = .ok p) :
    p.overfetch = if p.hasSchools then Plan.schoolOverfetch else 1 := by
  rcases compile_cases h with ⟨-, rfl⟩ | ⟨-, -, areas, -, rfl⟩ <;> rfl

end

/-! ## 4. Notes -/

/-- What happens while filters are compiled. -/
inductive Note where
  /-- The search identifies a listing. -/
  | directLookup
  /-- A numeric facet was given something else. -/
  | ignored (key : String) (value : Value)
  /-- A plan with so many conditions and these school criteria. -/
  | compiled (conditions : Nat) (schools : List String)

/-- Keys in order. -/
def sortedKeys (fs : Filters) : List String :=
  (fs.map (·.1)).mergeSort fun a b => decide (a ≤ b)

/-- The text of a note. -/
def Note.message : Note → String
  | .directLookup => "Direct lookup, skipping faceted filters"
  | .ignored key v => "Ignoring non-numeric " ++ key ++ "=" ++ v.listing
  | .compiled n [] => "Compiled " ++ Text.intText n ++ " conditions"
  | .compiled n schools =>
    "Compiled " ++ Text.intText n ++ " conditions, school criteria " ++
      (Value.list (schools.map .str)).listing

/-- The facets that are reached before there is no room for a text. -/
def reachedFacets (room : Room) (raw : Filters) : List Facet :=
  if statusFits room raw then facets.takeWhile (Facet.fits room raw) else []

/-- The numeric facets among those reached that were given something else, in order. -/
def ignoredNotes (room : Room) (raw : Filters) : List Note :=
  ((reachedFacets room raw).filter fun f => f.rule.isIgnored (get raw f.key)).map fun f =>
    .ignored f.key (get raw f.key)

/-- What happens while filters are compiled, in order. -/
def notes (room : Room) (raw : Filters) : List Note :=
  match compile room raw with
  | .error _ => ignoredNotes room raw
  | .ok plan =>
    if plan.isLookup then [.directLookup]
    else ignoredNotes room raw ++ [.compiled plan.terms.length (sortedKeys plan.schools)]

end Filter

end Realty
