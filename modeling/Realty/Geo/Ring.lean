/-
# Rings and containment

A polygon is given by the vertices of its ring, in order, closed or not.

* `Ring.contains` casts a ray from a point and counts the edges it crosses: an odd count means
  that the point is inside.
* `Ring.close` repeats the first vertex at the end unless it stands there already.
* `InRange` says which points are on the globe.

The arithmetic is a parameter: doubles to run, rational numbers to reason about.
-/

namespace Realty.Geo

/-- A place given by its latitude and longitude. -/
structure Point (α : Type) where
  lat : α
  lng : α
deriving Repr, DecidableEq

/-- A directed edge of a ring. -/
structure Edge (α : Type) where
  start : Point α
  stop : Point α
deriving Repr

namespace Edge

variable {α : Type} [LT α] [DecidableLT α]

/-- Whether the ends of an edge lie on different sides of the meridian through a point. -/
def straddles (e : Edge α) (p : Point α) : Bool :=
  decide (p.lng < e.start.lng) != decide (p.lng < e.stop.lng)

variable [Add α] [Sub α] [Mul α] [Div α]

/-- The latitude at which the line through an edge meets the meridian of a point. -/
def latitudeAt (e : Edge α) (p : Point α) : α :=
  (e.stop.lat - e.start.lat) * (p.lng - e.start.lng) / (e.stop.lng - e.start.lng) + e.start.lat

/-- Whether the ray from a point toward greater latitudes crosses an edge. -/
def crosses (e : Edge α) (p : Point α) : Bool :=
  e.straddles p && decide (p.lat < e.latitudeAt p)

end Edge

namespace Ring

variable {α : Type}

/-- The edges between neighbours of a list of vertices. -/
def path : List (Point α) → List (Edge α)
  | a :: b :: r => ⟨a, b⟩ :: path (b :: r)
  | _ => []

/-- Each vertex of a ring with the one before it; before the first stands the last. -/
def edges (ring : List (Point α)) : List (Edge α) :=
  match ring.getLast? with
  | none => []
  | some last => (path (last :: ring)).map fun e => ⟨e.stop, e.start⟩

/-- Whether an odd number of the listed truths hold. -/
def odd : List Bool → Bool
  | [] => false
  | b :: bs => b != odd bs

/-- Whether a point lies inside a ring: `is_point_in_polygon`, in any arithmetic. -/
def contains [LT α] [DecidableLT α] [Add α] [Sub α] [Mul α] [Div α]
    (ring : List (Point α)) (p : Point α) : Bool :=
  3 ≤ ring.length && odd ((edges ring).map fun e => e.crosses p)

/-- Whether two vertices have the same coordinates. -/
def meets [BEq α] (a b : Point α) : Bool := a.lat == b.lat && a.lng == b.lng

/-- A ring with the first vertex repeated at the end, unless it stands there: `close_polygon`. -/
def close [BEq α] (ring : List (Point α)) : List (Point α) :=
  match ring, ring.getLast? with
  | first :: _, some last => if meets first last then ring else ring ++ [first]
  | _, _ => ring

end Ring

/-- Whether a latitude and a longitude are within their ranges. -/
def Point.inRange {α : Type} [LE α] [DecidableLE α] (minLat maxLat minLng maxLng : α)
    (p : Point α) : Bool :=
  decide (minLat ≤ p.lat) && decide (p.lat ≤ maxLat) && decide (minLng ≤ p.lng) &&
    decide (p.lng ≤ maxLng)

/-- Whether a place is on the globe: `validate_coordinates`. -/
def Point.onGlobe (p : Point Float) : Bool := p.inRange (-90) 90 (-180) 180

end Realty.Geo
