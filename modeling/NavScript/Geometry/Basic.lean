namespace NavScript.Geometry

/-!
# Vertices and paths

Arena space is a plane whose y axis points up.  A path is the sequence of its vertices; a closed
path repeats its first vertex at the end.  All arithmetic is binary64, in the order written.

* `Vertex.distance`, `Vertex.lerp` — Euclidean distance, and the point part of the way to another
* `nearlyEqual`, `quotientOr` — comparison and division with a tolerance
-/

/-- A point of arena space. -/
structure Vertex where
  x : Float
  y : Float

/-- A vertex sequence.  A closed path repeats its first vertex at the end. -/
abbrev Path := List Vertex

namespace Vertex

/-- The Euclidean distance between two vertices. -/
def distance (a b : Vertex) : Float :=
  let dx := b.x - a.x
  let dy := b.y - a.y
  (dx * dx + dy * dy).sqrt

/-- The point at `fraction` of the way from `a` to `b`. -/
def lerp (a b : Vertex) (fraction : Float) : Vertex :=
  ⟨a.x + (b.x - a.x) * fraction, a.y + (b.y - a.y) * fraction⟩

/-- The direction from `a` to `b` in radians, counted from the x axis. -/
def direction (a b : Vertex) : Float :=
  Float.atan2 (b.y - a.y) (b.x - a.x)

end Vertex

/-! ### Tolerances -/

/-- The share of a path's length by which a sample target may lie past its end. -/
def lengthTolerance : Float := 1e-9

/-- A denominator this small or smaller is treated as zero. -/
def denominatorTolerance : Float := 1e-12

/-- Two numbers at most `tolerance` apart. -/
def nearlyEqual (a b tolerance : Float) : Bool :=
  (a - b).abs ≤ tolerance

/-- A quotient, or `fallback` where the denominator is as good as zero. -/
def quotientOr (numerator denominator fallback : Float) : Float :=
  if denominator.abs ≤ denominatorTolerance then fallback else numerator / denominator

end NavScript.Geometry
