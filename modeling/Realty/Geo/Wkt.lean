/-
# Rings as well-known text

`Wkt.polygon` writes a closed ring for the database: longitude before latitude, a space between
them, a comma and a space between the points.
-/
import Realty.Double.Shortest
import Realty.Geo.Ring
import Realty.Text.Split

namespace Realty.Geo.Wkt

/-- A point of a ring. -/
def point (p : Point Float) : String := Double.text p.lng ++ " " ++ Double.text p.lat

/-- The polygon that a ring bounds, the ring being written as it is given. -/
def ofRing (ring : List (Point Float)) : String :=
  "POLYGON((" ++ Text.joined ", " (ring.map point) ++ "))"

/-- The polygon that a ring bounds, as `polygon_wkt` writes it; the ring is closed if needed. -/
def polygon (ring : List (Point Float)) : String := ofRing (Ring.close ring)

end Realty.Geo.Wkt
