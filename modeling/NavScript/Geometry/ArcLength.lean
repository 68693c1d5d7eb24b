import NavScript.Geometry.Basic

namespace NavScript.Geometry

/-!
# Arc length

The length of a path, its heading, and the part of it up to a given arc length.

* `length` — the sum of the segment lengths, from the first to the last
* `heading` — the direction of the first segment
* `Stop` — the segment in which an arc length is reached
* `sample` — the path up to an arc length
-/

/-- Why a path has no heading or cannot be sampled. -/
inductive ArcLengthFault where
  | tooFewVertices (count : Nat)
  | outOfRange (target length : Float)

/-! ### Length and heading -/

/-- The lengths of the segments of a path. -/
def segmentLengths (path : Path) : List Float :=
  path.zipWith Vertex.distance path.tail

/-- The length of a path: the sum of its segment lengths from the left, started at negative zero,
    which is the neutral element of addition. -/
def length (path : Path) : Float :=
  (segmentLengths path).foldl (· + ·) (-0.0)

/-- The direction of the first segment. -/
def heading : Path → Except ArcLengthFault Float
  | a :: b :: _ => .ok (a.direction b)
  | path => .error (.tooFewVertices path.length)

/-! ### Sampling -/

/-- Where an arc length is reached: the vertices before the stopping segment, last first, the ends
    of that segment, and the arc length from the start of the path to its first end. -/
structure Stop where
  passed : List Vertex
  first : Vertex
  last : Vertex
  travelled : Float

namespace Stop

/-- The share of the stopping segment that remains to the target; none of it when the segment is as
    good as empty. -/
def fraction (s : Stop) (target : Float) : Float :=
  quotientOr (target - s.travelled) (s.first.distance s.last) 0.0

/-- The point at which the target is reached. -/
def point (s : Stop) (target : Float) : Vertex :=
  s.first.lerp s.last (s.fraction target)

/-- The path up to the target. -/
def path (s : Stop) (target : Float) : Path :=
  (s.point target :: s.first :: s.passed).reverse

end Stop

/-- The segment in which the target is reached, starting with the one from `a` to `b` with `rest`
    behind it.  A segment is passed while the arc length at its end does not exceed the target; the
    last segment is never passed. -/
def stopFrom (target : Float) (passed : List Vertex) (travelled : Float) (a b : Vertex) :
    List Vertex → Stop
  | [] => ⟨passed, a, b, travelled⟩
  | c :: rest =>
    let next := travelled + a.distance b
    -- not `next ≤ target`, which differs where the sum is not a number
    if target < next then ⟨passed, a, b, travelled⟩
    else stopFrom target (a :: passed) next b c rest

/-- The greatest target that a path of the given length admits. -/
def reach (length : Float) : Float :=
  length + lengthTolerance * (if 1.0 ≤ length then length else 1.0)

/-- A target that a path of the given length admits: finite, not negative, and not past its end by
    more than the tolerance. -/
def admits (length target : Float) : Bool :=
  target.isFinite && !(target < 0.0) && !(reach length < target)

/-- The path up to an arc length: the vertices passed and the point reached.  At zero it is the
    first vertex alone. -/
def sample (path : Path) (target : Float) : Except ArcLengthFault Path :=
  match path with
  | a :: b :: rest =>
    if admits (length path) target then
      if target == 0.0 then .ok [a]
      else .ok ((stopFrom target [] 0.0 a b rest).path target)
    else .error (.outOfRange target (length path))
  | path => .error (.tooFewVertices path.length)

end NavScript.Geometry
