/-
# Distances on the globe

`distance` is the great-circle distance of two places in miles, by the haversine formula.  A
function without a value at its argument, such as the sine of an infinity, is a fault; not a
number stays not a number.
-/
import Realty.Fault
import Realty.Geo.Ring

namespace Realty.Geo

/-- The mean radius of the earth in miles. -/
def earthRadius : Float := 3959

/-- The ratio of a circle's circumference to its diameter. -/
def pi : Float := 3.141592653589793

/-- An angle in radians. -/
def radians (degrees : Float) : Float := degrees * (pi / 180)

/-- The result of a function, unless it has none at the argument. -/
def defined (argument result : Float) : Except Fault Float :=
  if Double.isNaN result && !Double.isNaN argument then .error .outsideDomain else .ok result

/-- The great-circle distance of two places in miles: `haversine_distance`. -/
def distance (p q : Point Float) : Except Fault Float := do
  let latP := radians p.lat
  let lngP := radians p.lng
  let latQ := radians q.lat
  let lngQ := radians q.lng
  let halfLat := (latQ - latP) / 2
  let halfLng := (lngQ - lngP) / 2
  let sinLat ← defined halfLat halfLat.sin
  let cosP ← defined latP latP.cos
  let cosQ ← defined latQ latQ.cos
  let sinLng ← defined halfLng halfLng.sin
  let a := sinLat * sinLat + cosP * cosQ * (sinLng * sinLng)
  let root := a.sqrt
  let angle ← defined root root.asin
  return 2 * earthRadius * angle

end Realty.Geo
