import NavScript.Geometry.Basic
import NavScript.Decimal.Fixed

namespace NavScript.Geometry

/-!
# Well-known text

Polygons are handed to the simulator as one `MULTIPOLYGON`, each path the single ring of its own
polygon.

* `pair` — a vertex, its coordinates with a fixed count of places
* `multipolygon` — the text of a list of paths
-/

/-- The coordinates of a vertex, separated by a space. -/
def pair (places : Nat) (v : Vertex) : String :=
  Decimal.fixed places v.x ++ " " ++ Decimal.fixed places v.y

/-- A polygon whose only ring is the path. -/
def polygon (places : Nat) (path : Path) : String :=
  "((" ++ ",".intercalate (path.map (pair places)) ++ "))"

/-- One polygon per path, in order. -/
def multipolygon (places : Nat) (paths : List Path) : String :=
  "MULTIPOLYGON(" ++ ",".intercalate (paths.map (polygon places)) ++ ")"

end NavScript.Geometry
