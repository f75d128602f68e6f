/-
# Areas on the map

* `Area.bounds` reads a rectangle from four numbers south, west, north, east, in a list or as text
  with commas; both corners have to be on the globe.
* `Area.polygon` reads a polygon from a list of vertices or its JSON text.
* `Area.boundsCondition` and `Area.polygonCondition` are the conditions they compile to.
-/
import Realty.Filter.Rejection
import Realty.Geo.Reading
import Realty.Nesting
import Realty.Value.Coerce

namespace Realty.Filter.Area

open Geo

/-- Four numbers as a rectangle. -/
def rectangle : List (Option Float) → Except Rejection (Bounds Float)
  | [some south, some west, some north, some east] =>
    if Point.onGlobe ⟨south, west⟩ && Point.onGlobe ⟨north, east⟩ then
      .ok ⟨south, west, north, east⟩
    else .error .boundsOutOfRange
  | _ => .error .boundsNotNumeric

/-- The parts of a bounds filter. -/
def boundsParts : Value → Except Rejection (List Value)
  | .str s => .ok ((Text.parts ',' s).map fun part => .str part)
  | .list xs => .ok xs
  | .tuple xs => .ok xs
  | _ => .error .boundsShape

/-- The rectangle that a bounds filter describes: what `_parse_bounds` reads. -/
def bounds (v : Value) : Except Rejection (Bounds Float) := do
  let parts ← boundsParts v
  if parts.length ≠ 4 then .error (.boundsCount parts.length)
  else rectangle (parts.map Value.number?)

/-- The list that a polygon filter describes: text is read as JSON.  An integer that is too long and
brackets that are nested too deeply are no rejections. -/
def polygonValue (room : Room) (v : Value) : Except Error Value :=
  match v with
  | .str s =>
    match Json.parse room.brackets s.toList with
    | .ok v => .ok v
    | .error (.integerTooLong digits) => .error (.fault (.integerTooLong digits))
    | .error .nestedTooDeeply => .error (.fault .nestedTooDeeply)
    | .error e => .error (.rejected (.polygonText e))
  | v => .ok v

/-- The polygon that a list of vertices describes. -/
def polygonOfValue (v : Value) : Except Error (List (Point Float)) :=
  match isPolygon v with
  | .error f => .error (.fault f)
  | .ok false => .error (.rejected .polygonVertices)
  | .ok true => .ok ((v.items?.getD []).filterMap fun p => (polygonVertex? p).bind Except.toOption)

/-- The polygon that a polygon filter describes: what `_parse_polygon` reads. -/
def polygon (room : Room) (v : Value) : Except Error (List (Point Float)) := do
  polygonOfValue (← polygonValue room v)

/-- The condition of a bounds filter, when it is given. -/
def boundsCondition (v : Value) : Except Error (List Predicate) :=
  if v.isBlank then .ok []
  else match bounds v with
    | .ok b => .ok [inEnvelope placeColumn b]
    | .error r => .error (.rejected r)

/-- The condition of a polygon filter, when it is given. -/
def polygonCondition (room : Room) (v : Value) : Except Error (List Predicate) :=
  if v.isBlank then .ok []
  else (polygon room v).map fun ring => [inPolygon placeColumn ring]

end Realty.Filter.Area
