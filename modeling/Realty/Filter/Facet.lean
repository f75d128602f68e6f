/-
# Facets

A facet is one filter key and the rule by which its value becomes a condition on a column.  Every
facet reads its own key only, and none can fail, unless a text that it takes is nested too deeply.

* `Rule.condition` is the condition of a value, if it gives one.
* `facets` lists the facets in the order of their conditions.
* `Rule.isIgnored` says when a numeric facet has to ignore what it was given.
* `Rule.listed` says which texts a facet takes.
-/
import Realty.Fault
import Realty.Predicate.Basic
import Realty.Value.Coerce

namespace Realty.Filter

/-! ## 1. Lot sizes -/

/-- Lot sizes above this are taken to be square feet, the others acres. -/
def lotSizeThreshold : Nat := 100

/-- Square feet to an acre. -/
def squareFeetPerAcre : Nat := 43560

/-- Acres from a size that may be acres or square feet, in any arithmetic.  `normalize_lot_size` is
this in doubles. -/
def acres {α : Type} [LT α] [DecidableLT α] [Div α] (threshold perAcre size : α) : α :=
  if threshold < size then size / perAcre else size

/-- Acres from a size in doubles. -/
def lotAcres (size : Float) : Float :=
  acres lotSizeThreshold.toFloat squareFeetPerAcre.toFloat size

/-- `normalize_lot_size` on a value of any kind: the kind of the number is kept unless it is
divided. -/
def lotAcresValue (v : Value) : Except Fault Value :=
  match v with
  | .int n =>
    if n > lotSizeThreshold then
      match Double.ofInt? n with
      | some x => .ok (.float (x / squareFeetPerAcre.toFloat))
      | none => .error .integerTooLarge
    else .ok v
  | .float x => .ok (.float (lotAcres x))
  | .bool _ => .ok v
  | .decimal (.finite negative c e) =>
    match (Decimal.finite negative c e).toRat? with
    | some q =>
      if q > lotSizeThreshold then .error (.noOperator "/" v.kindName "float") else .ok v
    | none => .ok v
  | v => .error (.notComparable ">" v.kindName "int")

/-! ## 2. Rules -/

/-- How the value of a facet becomes a condition. -/
inductive Rule where
  /-- The column holds one of the choices. -/
  | oneOf (column : String)
  /-- The column holds one of the choices; a single choice is compared with. -/
  | oneOfOrEqual (column : String)
  /-- The column holds the label. -/
  | equals (column : String)
  /-- Some column holds the label. -/
  | equalsAny (columns : List String)
  /-- The column contains the label. -/
  | contains (column : String)
  /-- The column is at least the number, cut to a whole one. -/
  | atLeast (column : String)
  /-- The column is at most the number, cut to a whole one. -/
  | atMost (column : String)
  /-- The column is at least the lot size. -/
  | lotAtLeast (column : String)
  /-- The column is at most the lot size. -/
  | lotAtMost (column : String)
  /-- The date in the column is at most so many days ago. -/
  | listedWithin (column : String)
  /-- A fixed condition, when the flag is set. -/
  | whenSet (condition : Predicate)

/-- A number that is not zero; zero counts as not given. -/
def nonzero? (v : Value) : Option Float := v.number?.filter fun x => !Double.isZero x

/-- A number that is not zero, cut to a whole one, as `_bounds` takes it. -/
def whole? (v : Value) : Option Value :=
  (nonzero? v).bind fun x => (Double.truncate? x).map .int

/-- The condition that one of some choices stands in a column. -/
def oneOfCondition (column : String) : List String → Option Predicate
  | [] => none
  | ss => some (.inList column (ss.map .str))

/-- The condition of a facet's value, when it gives one. -/
def Rule.condition (v : Value) : Rule → Option Predicate
  | .oneOf c => oneOfCondition c v.choices
  | .oneOfOrEqual c =>
    match v.choices with
    | [s] => some (.equals c (.str s))
    | ss => oneOfCondition c ss
  | .equals c => v.label?.map fun s => .equals c (.str s)
  | .equalsAny cs => v.label?.map fun s => .anyOf (cs.map fun c => .equals c (.str s))
  | .contains c => v.label?.map fun s => .like c s
  | .atLeast c => (whole? v).map (.atLeast c)
  | .atMost c => (whole? v).map (.atMost c)
  | .lotAtLeast c => (nonzero? v).map fun x => .atLeast c (.float (lotAcres x))
  | .lotAtMost c => (nonzero? v).map fun x => .atMost c (.float (lotAcres x))
  | .listedWithin c => (whole? v).map (.listedWithin c)
  | .whenSet p => if v.flag then some p else none

/-- Whether a rule reads a number. -/
def Rule.isNumeric : Rule → Bool
  | .atLeast _ | .atMost _ | .lotAtLeast _ | .lotAtMost _ | .listedWithin _ => true
  | _ => false

/-- Whether a value was given to a numeric rule that says no number; `_number` leaves a note then.
-/
def Rule.isIgnored (v : Value) (r : Rule) : Bool :=
  r.isNumeric && v.number?.isNone &&
    match v with
    | .null => false
    | .str s => !s.isEmpty
    | _ => true

/-- The values whose texts are taken for a facet: the items of a list of choices, and what is no
number where one is wanted, as a note says so. -/
def Rule.listed (v : Value) (r : Rule) : List Value :=
  match r with
  | .oneOf _ | .oneOfOrEqual _ => v.givenItems
  | r => if r.isIgnored v then [v] else []

/-- A facet of a number takes no text but that of its value. -/
theorem Rule.mem_listed_of_isNumeric {r : Rule} (h : r.isNumeric = true) {v w : Value}
    (hw : w ∈ r.listed v) : w = v := by
  cases r <;> cases h
  all_goals
    simp only [listed] at hw
    split at hw
    · exact List.mem_singleton.1 hw
    · cases hw

/-! ## 3. The table -/

/-- A filter key and its rule. -/
structure Facet where
  key : String
  rule : Rule

/-- The facets of `_direct_lookup`, which identify a listing; they search archived listings as well.
-/
def lookupFacets : List Facet :=
  [⟨"mls_number", .equals "listing_id"⟩, ⟨"address", .contains "unparsed_address"⟩]

/-- The facets that narrow a search, in the order of their conditions: those of `_location`,
`_classification`, `_price`, `_rooms`, `_size`, `_time`, `_parking`, `_amenities` and `_special`. -/
def facets : List Facet :=
  [⟨"city", .oneOf "city"⟩,
    ⟨"zip", .oneOf "postal_code"⟩,
    ⟨"neighborhood", .equalsAny ["subdivision_name", "mls_area_major", "mls_area_minor"]⟩,
    ⟨"street_name", .contains "street_name"⟩,
    ⟨"property_type", .equals "property_type"⟩,
    ⟨"property_sub_type", .oneOfOrEqual "property_sub_type"⟩,
    ⟨"min_price", .atLeast "list_price"⟩,
    ⟨"max_price", .atMost "list_price"⟩,
    ⟨"price_reduced", .whenSet (.columnGreaterThan "original_list_price" "list_price")⟩,
    ⟨"beds", .atLeast "bedrooms_total"⟩,
    ⟨"baths", .atLeast "bathrooms_total"⟩,
    ⟨"sqft_min", .atLeast "living_area"⟩,
    ⟨"sqft_max", .atMost "living_area"⟩,
    ⟨"lot_size_min", .lotAtLeast "lot_size_acres"⟩,
    ⟨"lot_size_max", .lotAtMost "lot_size_acres"⟩,
    ⟨"year_built_min", .atLeast "year_built"⟩,
    ⟨"year_built_max", .atMost "year_built"⟩,
    ⟨"min_dom", .atLeast "days_on_market"⟩,
    ⟨"max_dom", .atMost "days_on_market"⟩,
    ⟨"new_listing_days", .listedWithin "listing_contract_date"⟩,
    ⟨"garage_spaces_min", .atLeast "garage_spaces"⟩,
    ⟨"parking_total_min", .atLeast "parking_total"⟩,
    ⟨"has_virtual_tour", .whenSet (.notNull "virtual_tour_url_unbranded")⟩,
    ⟨"has_garage", .whenSet (.greaterThan "garage_spaces" (.int 0))⟩,
    ⟨"has_fireplace", .whenSet (.greaterThan "fireplaces_total" (.int 0))⟩,
    ⟨"open_house_only", .whenSet .upcomingOpenHouse⟩,
    ⟨"exclusive_only", .whenSet (.exclusiveListing "listing_id")⟩]

end Realty.Filter
