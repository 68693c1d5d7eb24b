import NavScript.Geometry.Basic

namespace NavScript.Geometry

/-!
# From a drawing to the arena

A drawing's y axis points down and its unit is its own.  A transform turns the y axis around and
multiplies by one scale.

* `Point` — a point of a drawing
* `Transform.apply` — its place in the arena
-/

/-- A point of a drawing. -/
structure Point where
  x : Float
  y : Float

/-- The change of coordinates fixed when a drawing is loaded. -/
structure Transform where
  scale : Float

namespace Transform

/-- The transform that only turns the y axis around. -/
def unit : Transform := ⟨1.0⟩

/-- The arena vertex of a drawing's point. -/
def apply (t : Transform) (p : Point) : Vertex :=
  ⟨p.x * t.scale, -p.y * t.scale⟩

/-- The arena path of a sequence of points. -/
def applyAll (t : Transform) (ps : List Point) : Path :=
  ps.map t.apply

end Transform

end NavScript.Geometry
