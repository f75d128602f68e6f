/-
# Tables and column types

The tables of the database with their columns and indexes.  `Table.find?` looks a column of a
table up; `listings` is the table that searches read, `openHouses` the table that hangs off it.
-/
import Realty.Text.Digit

namespace Realty.Sql

/-- The type of a column. -/
inductive ColumnType where
  | varchar (length : Nat)
  | text
  | integer
  | boolean
  | date
  | timestamp
  | numeric (precision scale : Nat)
  | point
deriving DecidableEq, Repr

/-- The name of a column type. -/
def ColumnType.name : ColumnType → String
  | .varchar n => "VARCHAR(" ++ Text.intText n ++ ")"
  | .text => "TEXT"
  | .integer => "INTEGER"
  | .boolean => "BOOLEAN"
  | .date => "DATE"
  | .timestamp => "TIMESTAMP WITHOUT TIME ZONE"
  | .numeric p s => "NUMERIC(" ++ Text.intText p ++ ", " ++ Text.intText s ++ ")"
  | .point => "geometry(POINT,4326)"

/-- A column of a table. -/
structure Column where
  name : String
  type : ColumnType
  /-- Whether every row has a value. -/
  isRequired : Bool := false
  /-- Whether no two rows have the same value. -/
  isUnique : Bool := false
deriving DecidableEq, Repr

/-- An index of a table. -/
structure Index where
  name : String
  columns : List String
deriving DecidableEq, Repr

/-- A table; its first column is the primary key. -/
structure Table where
  name : String
  columns : List Column
  indexes : List Index

/-- The column of a name. -/
def Table.find? (t : Table) (name : String) : Option Column :=
  t.columns.find? fun c => c.name == name

/-- The listings. -/
def listings : Table where
  name := "listings"
  columns := [
    { name := "id", type := .integer, isRequired := true },
    { name := "listing_key", type := .varchar 128, isRequired := true, isUnique := true },
    { name := "listing_id", type := .varchar 50, isRequired := true },
    { name := "standard_status", type := .varchar 50 },
    { name := "is_archived", type := .boolean, isRequired := true },
    { name := "listing_contract_date", type := .date },
    { name := "days_on_market", type := .integer },
    { name := "modification_timestamp", type := .timestamp },
    { name := "property_type", type := .varchar 50 },
    { name := "property_sub_type", type := .varchar 50 },
    { name := "list_price", type := .numeric 20 2 },
    { name := "original_list_price", type := .numeric 20 2 },
    { name := "close_price", type := .numeric 20 2 },
    { name := "bedrooms_total", type := .integer },
    { name := "bathrooms_total", type := .integer },
    { name := "living_area", type := .numeric 14 2 },
    { name := "lot_size_acres", type := .numeric 20 4 },
    { name := "year_built", type := .integer },
    { name := "garage_spaces", type := .integer },
    { name := "parking_total", type := .integer },
    { name := "fireplaces_total", type := .integer },
    { name := "virtual_tour_url_unbranded", type := .varchar 255 },
    { name := "main_photo_url", type := .varchar 512 },
    { name := "unparsed_address", type := .varchar 255 },
    { name := "street_number", type := .varchar 50 },
    { name := "street_name", type := .varchar 100 },
    { name := "unit_number", type := .varchar 30 },
    { name := "city", type := .varchar 100 },
    { name := "state_or_province", type := .varchar 50 },
    { name := "postal_code", type := .varchar 20 },
    { name := "subdivision_name", type := .varchar 100 },
    { name := "mls_area_major", type := .varchar 100 },
    { name := "mls_area_minor", type := .varchar 100 },
    { name := "school_district", type := .varchar 100 },
    { name := "latitude", type := .numeric 10 8 },
    { name := "longitude", type := .numeric 11 8 },
    { name := "coordinates", type := .point },
    { name := "public_remarks", type := .text }]
  indexes := [
    ⟨"ix_listings_status_archived", ["is_archived", "standard_status"]⟩,
    ⟨"ix_listings_city", ["city"]⟩,
    ⟨"ix_listings_postal_code", ["postal_code"]⟩,
    ⟨"ix_listings_list_price", ["list_price"]⟩,
    ⟨"ix_listings_contract_date", ["listing_contract_date"]⟩,
    ⟨"ix_listings_listing_id", ["listing_id"]⟩]

/-- The open houses of listings. -/
def openHouses : Table where
  name := "open_houses"
  columns := [
    { name := "id", type := .integer, isRequired := true },
    { name := "listing_key", type := .varchar 128, isRequired := true },
    { name := "open_house_key", type := .varchar 128 },
    { name := "open_house_date", type := .date },
    { name := "open_house_type", type := .varchar 50 },
    { name := "open_house_remarks", type := .text }]
  indexes := [
    ⟨"ix_open_houses_listing_key", ["listing_key"]⟩,
    ⟨"ix_open_houses_open_house_date", ["open_house_date"]⟩]

end Realty.Sql
