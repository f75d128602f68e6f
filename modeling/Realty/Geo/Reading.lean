/-
# Reading places from values

A caller may pass any value for a coordinate, a vertex or a polygon.

* `coordinate` reads a double from a number or its text; `vertex` reads the first two elements of
  a vertex, latitude first; each reports the first fault.
* `isPolygon` is the check on polygons from outside: at least three vertices, each a list that
  starts with two numbers on the globe.  Its only fault is an integer beyond the doubles.
* The remaining functions apply an operation on rings to a polygon given as a value.
-/
import Realty.Fault
import Realty.Geo.Distance
import Realty.Geo.Fragment

namespace Realty.Geo

/-! ## 1. Coordinates and vertices -/

/-- The double nearest to an integer. -/
def doubleOfInt (n : Int) : Except Fault Float :=
  match Double.ofInt? n with
  | some x => .ok x
  | none => .error .integerTooLarge

/-- The double nearest to a decimal number. -/
def doubleOfDecimal : Decimal → Float
  | .finite negative c e => Double.ofNumeral (.decimal negative c e)
  | .infinity negative => Double.infinity negative
  | .nan => Double.nan

/-- The double of a number. -/
def real? : Value → Option (Except Fault Float)
  | .bool b => some (.ok (if b then 1 else 0))
  | .int n => some (doubleOfInt n)
  | .float x => some (.ok x)
  | .decimal d => some (.ok (doubleOfDecimal d))
  | _ => none

/-- The double of a number, and a fault for anything else. -/
def real (v : Value) : Except Fault Float := (real? v).getD (.error (.notReal v.kindName))

/-- The double that a number or a text says. -/
def coordinate (v : Value) : Except Fault Float :=
  match v with
  | .str s =>
    match Text.Numeral.read? s.toList with
    | some n => .ok (Double.ofNumeral n)
    | none => .error (.notNumeral s)
  | v => (real? v).getD (.error (.notConvertible v.kindName))

/-- What a value has at a position. -/
def element (v : Value) (i : Nat) : Except Fault Value :=
  let at? (xs : List Value) : Except Fault Value :=
    match xs[i]? with
    | some x => .ok x
    | none => .error (.indexOutOfRange v.kindName)
  match v with
  | .list xs => at? xs
  | .tuple xs => at? xs
  | .str s => at? (s.toList.map fun c => .str c.toString)
  | .object _ => .error (.missingKey (Text.intText i))
  | v => .error (.notSubscriptable v.kindName)

/-- The place that the first two elements of a value give. -/
def vertex (v : Value) : Except Fault (Point Float) := do
  let lat ← coordinate (← element v 0)
  let lng ← coordinate (← element v 1)
  return ⟨lat, lng⟩

/-- What one gets from a value one after the other. -/
def elements? : Value → Option (List Value)
  | .list xs => some xs
  | .tuple xs => some xs
  | .str s => some (s.toList.map fun c => .str c.toString)
  | .object fs => some (fs.map fun (k, _) => .str k)
  | _ => none

/-- The place that the first two elements of a value give, longitude read first. -/
def unpackedVertex (v : Value) : Except Fault (Point Float) :=
  match elements? v with
  | none => .error (.notUnpackable v.kindName)
  | some (lat :: lng :: _) => do
    let lng ← coordinate lng
    let lat ← coordinate lat
    return ⟨lat, lng⟩
  | some xs => .error (.tooFewElements xs.length)

/-! ## 2. Checks -/

/-- Whether a number lies between two others. -/
def between (lo hi : Rat) : Value.Number → Bool
  | .finite q => decide (lo ≤ q) && decide (q ≤ hi)
  | .infinity _ => false

/-- Whether a value lies between two numbers; not a number does not. -/
def valueBetween (lo hi : Rat) (v : Value) : Except Fault Bool :=
  match real? v with
  | none => .error (.notComparable "<=" "float" v.kindName)
  | some _ => .ok ((v.toNumber?.map (between lo hi)).getD false)

/-- Whether two values are a latitude and a longitude within their ranges: `validate_coordinates`.
-/
def areCoordinates (lat lng : Value) : Except Fault Bool := do
  if ← valueBetween (-90) 90 lat then valueBetween (-180) 180 lng else return false

/-- A number that may be a coordinate of a polygon from outside: no truth value. -/
def polygonCoordinate? : Value → Option (Except Fault Float)
  | .int n => some (doubleOfInt n)
  | .float x => some (.ok x)
  | _ => none

/-- The place of a vertex from outside, when it has the right form. -/
def polygonVertex? (v : Value) : Option (Except Fault (Point Float)) :=
  match v.items? with
  | some (lat :: lng :: _) =>
    match polygonCoordinate? lat, polygonCoordinate? lng with
    | some x, some y => some do return ⟨← x, ← y⟩
    | _, _ => none
  | _ => none

/-- Whether every value is a vertex on the globe; the first that is not decides. -/
def areVertices : List Value → Except Fault Bool
  | [] => .ok true
  | v :: vs =>
    match polygonVertex? v with
    | none => .ok false
    | some r => do if (← r).onGlobe then areVertices vs else return false

/-- Whether a value is a polygon, at least three vertices on the globe: `validate_polygon`. -/
def isPolygon (v : Value) : Except Fault Bool :=
  match v.items? with
  | some vs => if vs.length < 3 then .ok false else areVertices vs
  | none => .ok false

/-! ## 3. Operations on polygons given as values -/

/-- The vertices of a polygon that are reached by position. -/
def positions (v : Value) : Except Fault (List (Except Fault Value)) :=
  match v with
  | .list xs => .ok (xs.map .ok)
  | .tuple xs => .ok (xs.map .ok)
  | .str s => .ok (s.toList.map fun c => .ok (.str c.toString))
  | .object fs => .ok ((List.range fs.length).map fun (i : Nat) =>
    .error (.missingKey (Text.intText i)))
  | v => .error (.noLength v.kindName)

/-- Whether a double is greater than a number. -/
def exceeds (x : Float) (v : Value) : Except Fault Bool :=
  match real? v with
  | none => .error (.notComparable ">" "float" v.kindName)
  | some _ => .ok (Value.isLess v (.float x))

/-- Whether a number is less than a double. -/
def isBelow (v : Value) (x : Float) : Except Fault Bool :=
  match real? v with
  | none => .error (.notComparable "<" v.kindName "float")
  | some _ => .ok (Value.isLess v (.float x))

/-- A number from which a double can be subtracted. -/
def minuend (v : Value) : Except Fault Float :=
  match v with
  | .decimal _ => .error (.noOperator "-" v.kindName "float")
  | v => real v

/-- Whether a ray from a point given as values crosses an edge. -/
def crossesValue (lat lng : Value) (e : Edge Float) : Except Fault Bool := do
  let start ← exceeds e.start.lng lng
  let stop ← exceeds e.stop.lng lng
  if start == stop then return false
  let y ← minuend lng
  isBelow lat (e.latitudeAt ⟨0, y⟩)

/-- Which of the edges that end at each vertex in turn a ray crosses; each vertex is read when it
is reached. -/
def crossings (lat lng : Value) (previous : Except Fault (Point Float)) :
    List (Except Fault (Point Float)) → Except Fault (List Bool)
  | [] => .ok []
  | v :: vs => do
    let here ← v
    let there ← previous
    let b ← crossesValue lat lng ⟨here, there⟩
    let bs ← crossings lat lng v vs
    return b :: bs

/-- Whether a point lies inside a polygon, all given as values: `is_point_in_polygon`. -/
def containsValue (lat lng polygon : Value) : Except Fault Bool := do
  let vs ← positions polygon
  if vs.length < 3 then return false
  let points := vs.map fun v => v.bind vertex
  match points.getLast? with
  | none => return false
  | some last => return Ring.odd (← crossings lat lng last points)

/-- Whether two elements of two values are numerically different. -/
def differAt (a b : Value) (i : Nat) : Except Fault Bool := do
  let x ← coordinate (← element a i)
  let y ← coordinate (← element b i)
  return x != y

/-- The vertices of a polygon with the first repeated at the end, unless it stands there:
`close_polygon`. -/
def closeValue (polygon : Value) : Except Fault (List Value) :=
  match elements? polygon with
  | none => .error (.notIterable polygon.kindName)
  | some ring =>
    match ring, ring.getLast? with
    | first :: _, some last => do
      if ← differAt first last 0 then return ring ++ [first]
      if ← differAt first last 1 then return ring ++ [first]
      return ring
    | _, _ => .ok ring

/-- The well-known text of a polygon given as a value: `polygon_wkt`. -/
def wktValue (polygon : Value) : Except Fault String := do
  let ring ← closeValue polygon
  return Wkt.ofRing (← ring.mapM unpackedVertex)

/-- A column name that is given as a value: what `_column` makes of it. -/
def columnName (v : Value) : Except Fault String :=
  match v with
  | .str s => .ok s
  | v => .error (.notText v.kindName)

/-- The columns of latitude and longitude, given as values. -/
def placeColumns (lat lng : Value) : Except Fault PlaceColumns := do
  return ⟨← columnName lat, ← columnName lng⟩

/-- Inside a polygon given as a value. -/
def withinRingValue (polygon latColumn lngColumn : Value) : Except Fault Predicate := do
  let columns ← placeColumns latColumn lngColumn
  let ring ← closeValue polygon
  if ring.length < 2 then return withinRing columns []
  return withinRing columns (← ring.mapM vertex)

/-- At most so many miles from a place, given as values. -/
def withinRadiusValue (lat lng miles latColumn lngColumn : Value) : Except Fault Predicate := do
  let columns ← placeColumns latColumn lngColumn
  return withinRadius columns ⟨← coordinate lat, ← coordinate lng⟩ (← coordinate miles)

/-- Between the sides of a rectangle given as values. -/
def withinBoundsValue (north south east west latColumn lngColumn : Value) :
    Except Fault Predicate := do
  let columns ← placeColumns latColumn lngColumn
  let south ← coordinate south
  let north ← coordinate north
  let west ← coordinate west
  let east ← coordinate east
  return withinBounds columns ⟨south, west, north, east⟩

/-- Inside a rectangle given as values, by the spatial index. -/
def inEnvelopeValue (north south east west column : Value) : Except Fault Predicate := do
  let column ← columnName column
  let west ← coordinate west
  let south ← coordinate south
  let east ← coordinate east
  let north ← coordinate north
  return inEnvelope column ⟨south, west, north, east⟩

/-- Inside a polygon given as a value, by the spatial index. -/
def inPolygonValue (polygon column : Value) : Except Fault Predicate := do
  let column ← columnName column
  return inPolygonText column (← wktValue polygon)

/-- The distance of two places given as values. -/
def distanceValue (lat₁ lng₁ lat₂ lng₂ : Value) : Except Fault Float := do
  let p : Point Float := ⟨← real lat₁, ← real lng₁⟩
  let q : Point Float := ⟨← real lat₂, ← real lng₂⟩
  distance p q

end Realty.Geo
