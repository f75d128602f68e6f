/-
# Conditions on the place of a listing

Each condition is a fragment of query text with named placeholders, and the values of the
placeholders in the order of their binding.

* Over a latitude and a longitude column: `withinRadius`, `withinBounds`, `withinRing`.
* Over a geometry column: `inEnvelope`, `inPolygon`.

A column name given by a caller is reduced to letters, digits, underscores and points.
-/
import Realty.Geo.Wkt
import Realty.Predicate.Basic

namespace Realty.Geo

/-! ## 1. Column names -/

/-- Whether a character may stand in a column name. -/
def isIdentifierChar (c : Char) : Bool :=
  ('a' ≤ c && c ≤ 'z') || ('A' ≤ c && c ≤ 'Z') || ('0' ≤ c && c ≤ '9') || c = '_' || c = '.'

/-- A name without the characters that a column name cannot hold: `_column`. -/
def plainIdentifier (name : String) : String := String.ofList (name.toList.filter isIdentifierChar)

/-- The columns that hold the place of a listing. -/
structure PlaceColumns where
  lat : String
  lng : String

/-- The columns of the listings table. -/
def PlaceColumns.standard : PlaceColumns := ⟨"latitude", "longitude"⟩

/-- Columns with plain names. -/
def PlaceColumns.plain (c : PlaceColumns) : PlaceColumns :=
  ⟨plainIdentifier c.lat, plainIdentifier c.lng⟩

/-- The spatial reference system of the geometry column. -/
def referenceSystem : String := "4326"

/-- The geometry column of the listings table. -/
def placeColumn : String := "coordinates"

/-- Named doubles as parameter values. -/
def params (ps : List (String × Float)) : List (String × Value) :=
  ps.map fun (name, x) => (name, .float x)

/-! ## 2. Latitude and longitude columns -/

/-- The mean radius of the earth in miles. -/
def earthRadiusText : String := "3959"

/-- At most so many miles from a place, by the spherical law of cosines: `build_radius_condition`.
-/
def withinRadius (columns : PlaceColumns) (place : Point Float) (miles : Float) : Predicate :=
  let c := columns.plain
  .raw
    ("(" ++ earthRadiusText ++ " * ACOS(COS(RADIANS(:radius_lat)) * COS(RADIANS(" ++ c.lat ++
      ")) * COS(RADIANS(" ++ c.lng ++ ") - RADIANS(:radius_lng)) + SIN(RADIANS(:radius_lat)) * " ++
      "SIN(RADIANS(" ++ c.lat ++ ")))) <= :radius_miles")
    (params [("radius_lat", place.lat), ("radius_lng", place.lng), ("radius_miles", miles)])

/-- A rectangle of latitudes and longitudes. -/
structure Bounds (α : Type) where
  south : α
  west : α
  north : α
  east : α
deriving Repr

/-- Between the sides of a rectangle: `build_bounds_condition`. -/
def withinBounds (columns : PlaceColumns) (b : Bounds Float) : Predicate :=
  let c := columns.plain
  .raw
    ("(" ++ c.lat ++ " BETWEEN :bounds_south AND :bounds_north AND " ++ c.lng ++
      " BETWEEN :bounds_west AND :bounds_east)")
    (params [("bounds_south", b.south), ("bounds_north", b.north), ("bounds_west", b.west),
      ("bounds_east", b.east)])

/-- One term of a containment test: an edge of the ring with its position. -/
structure Arm (α : Type) where
  index : Nat
  edge : Edge α
deriving Repr

/-- The terms of a closed ring.  An edge along a meridian is never crossed and is left out, which
keeps every divisor away from zero. -/
def arms {α : Type} [BEq α] (ring : List (Point α)) : List (Arm α) :=
  ((Ring.path ring).zipIdx.map fun (e, i) => ⟨i, e⟩).filter fun a =>
    !(a.edge.start.lng == a.edge.stop.lng)

/-- The name of a term's placeholders, up to the coordinate. -/
def Arm.name {α : Type} (a : Arm α) : String := "edge" ++ Text.intText a.index

/-- The text of a term: one when the ray from the row's place crosses the edge, else zero. -/
def Arm.text {α : Type} (c : PlaceColumns) (a : Arm α) : String :=
  let p := ":" ++ a.name
  "CASE WHEN ((" ++ p ++ "_lng1 > " ++ c.lng ++ ") <> (" ++ p ++ "_lng2 > " ++ c.lng ++
    ")) AND (" ++ c.lat ++ " < (" ++ p ++ "_lat2 - " ++ p ++ "_lat1) * (" ++ c.lng ++ " - " ++ p ++
    "_lng1) / (" ++ p ++ "_lng2 - " ++ p ++ "_lng1) + " ++ p ++ "_lat1) THEN 1 ELSE 0 END"

/-- The values of a term's placeholders. -/
def Arm.params {α : Type} (a : Arm α) : List (String × α) :=
  [(a.name ++ "_lat1", a.edge.start.lat), (a.name ++ "_lng1", a.edge.start.lng),
    (a.name ++ "_lat2", a.edge.stop.lat), (a.name ++ "_lng2", a.edge.stop.lng)]

/-- Inside a ring that is closed, by casting a ray in the query: `build_polygon_condition`.  A ring
on one meridian contains nothing. -/
def withinRing (columns : PlaceColumns) (ring : List (Point Float)) : Predicate :=
  match arms ring with
  | [] => .raw "1 = 0" []
  | as =>
    .raw ("(MOD(" ++ Text.joined " + " (as.map (Arm.text columns.plain)) ++ ", 2) = 1)")
      (params (as.flatMap Arm.params))

/-! ## 3. The geometry column -/

/-- Inside a rectangle, by the spatial index: `build_spatial_bounds_condition`. -/
def inEnvelope (column : String) (b : Bounds Float) : Predicate :=
  .raw
    ("ST_Intersects(" ++ plainIdentifier column ++
      ", ST_MakeEnvelope(:bounds_min_lng, :bounds_min_lat, :bounds_max_lng, :bounds_max_lat, " ++
      referenceSystem ++ "))")
    (params [("bounds_min_lng", b.west), ("bounds_min_lat", b.south), ("bounds_max_lng", b.east),
      ("bounds_max_lat", b.north)])

/-- Inside the polygon of a well-known text. -/
def inPolygonText (column wkt : String) : Predicate :=
  .raw ("ST_Contains(ST_GeomFromText(:polygon_wkt, " ++ referenceSystem ++ "), " ++
      plainIdentifier column ++ ")")
    [("polygon_wkt", .str wkt)]

/-- Inside the polygon that a ring bounds: `build_spatial_polygon_condition`. -/
def inPolygon (column : String) (ring : List (Point Float)) : Predicate :=
  inPolygonText column (Wkt.polygon ring)

end Realty.Geo
