/-
# Listing numbers

Listings entered in-house get numbers from one on, below a watermark that every number assigned
by the listing service exceeds.  `isExclusive` recognises them: the number is all ASCII digits,
leading zeros allowed, and its value is below the watermark.
-/
import Realty.Value.Basic

namespace Realty.ListingNumber

/-- In-house numbers are below this. -/
def watermark : Nat := 1000000

/-- The longest digit string that fits the widest integer of the database, leading zeros apart. -/
def maxDigits : Nat := 18

/-- Whether a text is a number of an in-house listing. -/
def isExclusiveText (s : List Char) : Bool :=
  let isDigit (c : Char) := '0' ≤ c && c ≤ '9'
  let significant := s.dropWhile (· = '0')
  !s.isEmpty && s.all isDigit && significant.length ≤ maxDigits &&
    Text.ofDigits (significant.map fun c => c.toNat - 48) < watermark

/-- Whether a value is a number of an in-house listing: `is_exclusive_listing_id`.  The text of the
value decides. -/
def isExclusive (v : Value) : Bool := !v.isNull && isExclusiveText v.text.toList

end Realty.ListingNumber
