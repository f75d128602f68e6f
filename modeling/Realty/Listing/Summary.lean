/-
# Listing summaries

A summary is one line of a page of results.

* `Summary.ofRow` reads it from a row, `Summary.ofFields` from a mapping that may leave fields
  out; both report everything that is wrong.
* `Summary.toValue` is its JSON form: decimal numbers and dates as text.
-/
import Realty.Listing.Checked
import Realty.Listing.Row

namespace Realty

/-- One line of a page of results: a `ListingSummary`. -/
structure Summary where
  listingKey : String
  listingId : String
  address : Option String
  city : Option String
  state : Option String
  postalCode : Option String
  status : Option String
  isArchived : Bool
  listPrice : Option Decimal
  originalListPrice : Option Decimal
  bedrooms : Option Int
  bathrooms : Option Int
  livingArea : Option Decimal
  lotAcres : Option Decimal
  yearBuilt : Option Int
  propertyType : Option String
  propertySubType : Option String
  latitude : Option Decimal
  longitude : Option Decimal
  contractDate : Option Date
  daysOnMarket : Option Int
  photo : Option String
  isExclusive : Bool
deriving DecidableEq, Repr

namespace Summary

/-! ## 1. Reading -/

/-- What a field is read from: its value, and none when the field is left out. -/
abbrev Source := String → Option Value

/-- A field that has to be there. -/
def required {α : Type} (src : Source) (name : String) (read : Value → Except ProblemKind α) :
    Checked α :=
  match src name with
  | some v => .field name (read v)
  | none => .failed [⟨[name], .missing⟩]

/-- A field with a value for when it is left out. -/
def defaulted {α : Type} (src : Source) (name : String) (read : Value → Except ProblemKind α)
    (fallback : α) : Checked α :=
  match src name with
  | some v => .field name (read v)
  | none => .ok fallback

/-- A field that may be null or left out. -/
def optional {α : Type} (src : Source) (name : String) (read : Value → Except ProblemKind α) :
    Checked (Option α) :=
  defaulted src name (readOptional read) none

/-- The summary that a source gives. -/
def ofSource (src : Source) : Checked Summary :=
  (Checked.ok Summary.mk)
    |>.and (required src "listing_key" readText)
    |>.and (required src "listing_id" readText)
    |>.and (optional src "unparsed_address" readText)
    |>.and (optional src "city" readText)
    |>.and (optional src "state_or_province" readText)
    |>.and (optional src "postal_code" readText)
    |>.and (optional src "standard_status" readText)
    |>.and (defaulted src "is_archived" readFlag false)
    |>.and (optional src "list_price" readDecimal)
    |>.and (optional src "original_list_price" readDecimal)
    |>.and (optional src "bedrooms_total" readWhole)
    |>.and (optional src "bathrooms_total" readWhole)
    |>.and (optional src "living_area" readDecimal)
    |>.and (optional src "lot_size_acres" readDecimal)
    |>.and (optional src "year_built" readWhole)
    |>.and (optional src "property_type" readText)
    |>.and (optional src "property_sub_type" readText)
    |>.and (optional src "latitude" readDecimal)
    |>.and (optional src "longitude" readDecimal)
    |>.and (optional src "listing_contract_date" readDate)
    |>.and (optional src "days_on_market" readWhole)
    |>.and (optional src "main_photo_url" readText)
    |>.and (defaulted src "is_exclusive" readFlag false)

/-- The summary of a row, which has every field. -/
def ofRow (r : Row) : Checked Summary :=
  ofSource fun name =>
    some (if name = Row.derivedField then .bool r.isExclusive else r.get name)

/-- The summary that a mapping describes; fields that a summary does not have are left aside. -/
def ofFields (fields : List (String × Value)) : Checked Summary :=
  ofSource fun name => fields.lookup name

/-! ## 2. JSON form -/

/-- An optional value, null when there is none. -/
def orNull {α : Type} (f : α → Value) : Option α → Value
  | some a => f a
  | none => .null

/-- A decimal number as text. -/
def decimalValue (d : Decimal) : Value := .str d.text

/-- A date as text. -/
def dateValue (d : Date) : Value := .str d.iso

/-- The JSON form of a summary. -/
def toValue (s : Summary) : Value :=
  .object [("listing_key", .str s.listingKey), ("listing_id", .str s.listingId),
    ("unparsed_address", orNull .str s.address), ("city", orNull .str s.city),
    ("state_or_province", orNull .str s.state), ("postal_code", orNull .str s.postalCode),
    ("standard_status", orNull .str s.status), ("is_archived", .bool s.isArchived),
    ("list_price", orNull decimalValue s.listPrice),
    ("original_list_price", orNull decimalValue s.originalListPrice),
    ("bedrooms_total", orNull .int s.bedrooms), ("bathrooms_total", orNull .int s.bathrooms),
    ("living_area", orNull decimalValue s.livingArea),
    ("lot_size_acres", orNull decimalValue s.lotAcres), ("year_built", orNull .int s.yearBuilt),
    ("property_type", orNull .str s.propertyType),
    ("property_sub_type", orNull .str s.propertySubType),
    ("latitude", orNull decimalValue s.latitude), ("longitude", orNull decimalValue s.longitude),
    ("listing_contract_date", orNull dateValue s.contractDate),
    ("days_on_market", orNull .int s.daysOnMarket), ("main_photo_url", orNull .str s.photo),
    ("is_exclusive", .bool s.isExclusive)]

end Summary

end Realty
