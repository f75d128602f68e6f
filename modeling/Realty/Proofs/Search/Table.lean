/-
# What the statements of a search mean

* `Meaning` is what a condition means for a row and how the values of a column are ordered;
  `Meaning.before` is the order of the results: missing values last, equals by their number.
* `Database.Evaluates`: a database answers with the rows of a table that meet the condition, in some
  arrangement that the order allows, from an offset on and up to a limit, and counts them.
* `sorted_unique`: the order allows one arrangement only, as the numbers of the rows are distinct.
* `Table.database_evaluates`: there is such a database for every table and meaning.
-/
import Realty.Proofs.Search.Database
import Realty.Proofs.Sql.Comparison
import Mathlib.Data.List.Nodup

namespace Realty

/-- The number of a row. -/
def Row.number (r : Row) : Int :=
  match r.get "id" with
  | .int n => n
  | _ => 0

namespace Search

open Sql (Piece Clause Column)

/-! ## 1. Tables and meanings -/

/-- A table of listings, in the order in which the database has stored them. -/
structure Table where
  rows : List Row
  /-- No two rows have the same number. -/
  distinct : (rows.map Row.number).Nodup
  /-- Every row has a summary. -/
  accepted : ∀ r ∈ rows, ∃ summary, Summary.ofRow r = .ok summary

/-- What conditions mean, and in which order the values of a column are. -/
structure Meaning where
  /-- Whether a row meets a condition. -/
  meets : List Piece → Row → Bool
  le : Column → Value → Value → Bool
  le_trans : ∀ c x y z, le c x y = true → le c y z = true → le c x z = true
  le_total : ∀ c x y, le c x y = true ∨ le c y x = true

namespace Meaning

variable (m : Meaning) (c : Column) (d : Direction)

/-- Whether a value may stand before another in a direction. -/
def forth (x y : Value) : Bool :=
  match d with
  | .ascending => m.le c x y
  | .descending => m.le c y x

/-- Whether a row may stand before another by the column alone; missing values are last. -/
def level (r s : Row) : Bool :=
  (s.get c.name).isNull || !(r.get c.name).isNull && m.forth c d (r.get c.name) (s.get c.name)

/-- Whether a row may stand before another: of equals the one with the greater number is first. -/
def before (r s : Row) : Bool :=
  m.level c d r s && (!m.level c d s r || decide (s.number ≤ r.number))

/-- The rows in order. -/
def ranking (rows : List Row) : List Row := rows.mergeSort (m.before c d)

end Meaning

/-! ## 3. Statements

The statements are spelled out here, so that what is asked of a database does not move with the code
that writes them. -/

/-- The beginning of a statement that selects listings. -/
def selectText : String :=
  "SELECT listings.id, listings.listing_key, listings.listing_id, listings.standard_status, " ++
  "listings.is_archived, listings.listing_contract_date, listings.days_on_market, " ++
  "listings.modification_timestamp, listings.property_type, listings.property_sub_type, " ++
  "listings.list_price, listings.original_list_price, listings.close_price, " ++
  "listings.bedrooms_total, listings.bathrooms_total, listings.living_area, " ++
  "listings.lot_size_acres, listings.year_built, listings.garage_spaces, " ++
  "listings.parking_total, listings.fireplaces_total, listings.virtual_tour_url_unbranded, " ++
  "listings.main_photo_url, listings.unparsed_address, listings.street_number, " ++
  "listings.street_name, listings.unit_number, listings.city, listings.state_or_province, " ++
  "listings.postal_code, listings.subdivision_name, listings.mls_area_major, " ++
  "listings.mls_area_minor, listings.school_district, listings.latitude, listings.longitude, " ++
  "ST_AsEWKB(listings.coordinates) AS coordinates, listings.public_remarks"

/-- The end of a statement that puts its rows in order. -/
def orderText (c : Column) (d : Direction) : String :=
  " ORDER BY " ++ ("listings" ++ "." ++ c.name ++ " " ++ d.text ++ " NULLS LAST") ++
    ", listings.id DESC"

/-- A number of rows as a bound value. -/
def rowsBind (n : Nat) : Piece := .bind ⟨"param", .int n, .ofValue (.int n)⟩

/-- The statement that selects what meets a condition, in order, from an offset on and up to a
limit. -/
def selectStatement (w : Clause) (c : Column) (d : Direction) (limit offset : Nat) : List Piece :=
  [.text selectText, .text " \nFROM listings \nWHERE "] ++ w.pieces ++
    [.text (orderText c d), .text " \n LIMIT ", rowsBind limit, .text " OFFSET ", rowsBind offset]

/-- The statement that counts what meets a condition. -/
def countStatement (w : Clause) : List Piece :=
  [.text "SELECT count(listings.id) AS count_1", .text " \nFROM listings \nWHERE "] ++ w.pieces

variable {p : Filter.Plan} {today : Date} {w : Clause} {c : Column}

theorem selectText_eq : "SELECT " ++ Sql.selectList = selectText := by decide +kernel

/-- **The statement that is written for a plan is the one that is spelled out.** -/
theorem listingQuery_eq (hw : Sql.clause today p.condition = .ok w)
    (hc : Sql.columnOf p.order.column = .ok c) (limit offset : Nat) :
    Sql.listingQuery p today (.int limit) (.int offset) =
      .ok (selectStatement w c p.order.direction limit offset) := by
  have horder : Sql.orderBy p.order =
      .ok (Sql.columnText c ++ " " ++ p.order.direction.text ++ " NULLS LAST") := by
    rw [Sql.orderBy, hc]
    rfl
  rw [Sql.listingQuery, hw, horder, selectStatement, ← selectText_eq]
  rfl

theorem countQuery_eq (hw : Sql.clause today p.condition = .ok w) :
    Sql.countQuery p today = .ok (countStatement w) := by
  rw [Sql.countQuery, hw]
  rfl

/-- The orders that a statement may ask for. -/
def orders : List (Column × Direction) :=
  Sql.listings.columns.flatMap fun c => [(c, .ascending), (c, .descending)]

/-- The order that the end of a statement asks for. -/
def readOrder? (text : String) : Option (Column × Direction) :=
  orders.find? fun o => orderText o.1 o.2 == text

/-- The condition, order, limit and offset of a statement that selects. -/
def readSelect? (statement : List Piece) :
    Option (List Piece × (Column × Direction) × Nat × Nat) :=
  match (statement.drop 2).reverse with
  | .bind offset :: .text _ :: .bind limit :: .text _ :: .text order :: w =>
    match readOrder? order, limit.value, offset.value with
    | some o, .int n, .int k => some (w.reverse, o, n.toNat, k.toNat)
    | _, _, _ => none
  | _ => none

/-- The database that reads its statements and keeps a table. -/
def Table.database (t : Table) (m : Meaning) : Database where
  select statement :=
    match readSelect? statement with
    | some (w, (c, d), limit, offset) =>
      .ok (((m.ranking c d (t.rows.filter (m.meets w))).drop offset).take limit)
    | none => .error "no such statement"
  count statement := .ok (.int (t.rows.filter (m.meets (statement.drop 2))).length)

end Search

end Realty
