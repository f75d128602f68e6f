/-
# The statements of a search

* `listingQuery` selects the listings of a plan, in its order with missing values last and the
  newest entry first among equals, from an offset on and up to a limit.
* `countQuery` counts them.
-/
import Realty.Filter.Compile
import Realty.Sql.Rendering

namespace Realty.Sql

/-! ## 1. Parts -/

/-- A column in the list of selected columns; a point is converted to its binary form. -/
def selectedColumn (c : Column) : String :=
  if c.type = .point then "ST_AsEWKB(" ++ columnText c ++ ") AS " ++ c.name else columnText c

/-- The selected columns of a listing. -/
def selectList : String := Text.joined ", " (listings.columns.map selectedColumn)

/-- An order of the results: `render_order_by`. -/
def orderBy (o : ResultOrder) : Except RenderError String := do
  return columnText (← columnOf o.column) ++ " " ++ o.direction.text ++ " NULLS LAST"

/-- The number of rows to return or skip, when it is given. -/
def rowCount (v : Value) : Except RenderError (Option Int) :=
  match v with
  | .null => .ok none
  | v =>
    match wholeNumber v with
    | .ok n => .ok (some n)
    | .error f => .error (.fault f)

/-- A number of rows as a bound value. -/
def countBind (n : Int) : Piece := .bind ⟨"param", .int n, .ofValue (.int n)⟩

/-- The end of a statement that returns part of the rows. -/
def window : Option Int → Option Int → List Piece
  | none, none => []
  | some n, none => [.text " \n LIMIT ", countBind n]
  | none, some k => [.text "\n LIMIT ALL OFFSET ", countBind k]
  | some n, some k => [.text " \n LIMIT ", countBind n, .text " OFFSET ", countBind k]

/-- The part of a statement that says where to look and for what. -/
def fromWhere (c : Clause) : List Piece :=
  .text (" \nFROM " ++ listings.name ++ " \nWHERE ") :: c.pieces

/-! ## 2. Statements -/

/-- The statement that selects the listings of a plan: `build_listing_query`. -/
def listingQuery (p : Filter.Plan) (today : Date) (limit offset : Value) :
    Except RenderError (List Piece) := do
  let c ← clause today p.condition
  let order ← orderBy p.order
  let limit ← rowCount limit
  let offset ← rowCount offset
  return .text ("SELECT " ++ selectList) :: fromWhere c ++
    .text (" ORDER BY " ++ order ++ ", listings.id DESC") :: window limit offset

/-- The statement that counts the listings of a plan: `build_count_query`. -/
def countQuery (p : Filter.Plan) (today : Date) : Except RenderError (List Piece) := do
  let c ← clause today p.condition
  return .text "SELECT count(listings.id) AS count_1" :: fromWhere c

end Realty.Sql
