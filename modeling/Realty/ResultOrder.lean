/-
# Result orders

A user picks an order of the results by name.  `ResultOrder.ofLabel` is an exact look-up apart
from case and blanks around the name; anything unknown sorts the newest listings first.
-/
import Realty.Value.Coerce

namespace Realty

/-- A direction of ordering. -/
inductive Direction where
  | ascending
  | descending
deriving DecidableEq, Repr

/-- The keyword of a direction. -/
def Direction.text : Direction → String
  | .ascending => "ASC"
  | .descending => "DESC"

/-- A column to order by, and which way: a `SortOrder`. -/
structure ResultOrder where
  column : String
  direction : Direction
deriving DecidableEq, Repr

namespace ResultOrder

/-- The newest listings first. -/
def newest : ResultOrder := ⟨"listing_contract_date", .descending⟩

/-- The orders by name. -/
def labels : List (String × ResultOrder) :=
  [("price_asc", ⟨"list_price", .ascending⟩),
    ("price_desc", ⟨"list_price", .descending⟩),
    ("list_date_asc", ⟨"listing_contract_date", .ascending⟩),
    ("list_date_desc", newest),
    ("beds_desc", ⟨"bedrooms_total", .descending⟩),
    ("sqft_desc", ⟨"living_area", .descending⟩),
    ("dom_asc", ⟨"days_on_market", .ascending⟩),
    ("dom_desc", ⟨"days_on_market", .descending⟩)]

/-- The order of a name. -/
def ofLabel (label : String) : ResultOrder :=
  (labels.lookup (String.ofList (Text.lower (Text.trim label.toList)))).getD newest

/-- The order that a value names, as `SortResolver.resolve` finds it; what is no text names none. -/
def ofValue : Value → ResultOrder
  | .str s => ofLabel s
  | _ => newest

/-- The order that a filter value asks for. -/
def ofFilter (v : Value) : ResultOrder := (v.label?.map ofLabel).getD newest

end ResultOrder

end Realty
