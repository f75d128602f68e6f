/-
# Rows

A row is what the database returns for a listing or an open house: some columns with their values;
a column that is not given is null.

* `Row.ofFields` and `Row.openHouse` check that every field is a column of the table.
* `Row.isExclusive` says whether the listing was entered in-house.
* `Row.describe` and `Row.describeOpenHouse` are one-line descriptions.
-/
import Realty.ListingNumber
import Realty.Sql.Column

namespace Realty

/-- A record as the database returns it: values by column. -/
structure Row where
  fields : List (String × Value)
deriving Inhabited

namespace Row

/-- The value of a column. -/
def get (r : Row) (column : String) : Value := (r.fields.lookup column).getD .null

/-- A property of listings that no column holds. -/
def derivedField : String := "is_exclusive"

/-- A field that a row cannot be given. -/
inductive FieldError where
  /-- The table of the record has no such column. -/
  | unknown (name record : String)
  /-- The field follows from the others. -/
  | derived (name record : String)
deriving DecidableEq, Repr

/-- The text of an error. -/
def FieldError.message : FieldError → String
  | .unknown name record => Text.quoted name ++ " is an invalid keyword argument for " ++ record
  | .derived name record =>
    "property " ++ Text.quoted name ++ " of " ++ Text.quoted record ++ " object has no setter"

/-- The row with these fields, unless one of them has an error. -/
def checked (error? : String → Option FieldError) (fields : List (String × Value)) :
    Except FieldError Row :=
  match fields.findSome? fun (name, _) => error? name with
  | some e => .error e
  | none => .ok ⟨fields⟩

/-- What is wrong with the name of a field of a listing. -/
def listingError? (name : String) : Option FieldError :=
  if name = derivedField then some (.derived name "Listing")
  else if (Sql.listings.find? name).isSome then none
  else some (.unknown name "Listing")

/-- What is wrong with the name of a field of an open house. -/
def openHouseError? (name : String) : Option FieldError :=
  if (Sql.openHouses.find? name).isSome then none else some (.unknown name "OpenHouse")

/-- The listing with these fields. -/
def ofFields (fields : List (String × Value)) : Except FieldError Row :=
  checked listingError? fields

/-- The open house with these fields. -/
def openHouse (fields : List (String × Value)) : Except FieldError Row :=
  checked openHouseError? fields

/-- Whether the listing was entered in-house. -/
def isExclusive (r : Row) : Bool := ListingNumber.isExclusive (r.get "listing_id")

/-- The number and address of a listing. -/
def describe (r : Row) : String :=
  "<Listing " ++ (r.get "listing_id").text ++ ": " ++ (r.get "unparsed_address").text ++ ">"

/-- The listing and day of an open house. -/
def describeOpenHouse (r : Row) : String :=
  "<OpenHouse " ++ (r.get "listing_key").text ++ " " ++ (r.get "open_house_date").text ++ ">"

end Row

end Realty
