import NavScript.Geometry.ArcLength

namespace NavScript.Geometry.Generic

/-!
# Sampling with any numbers

Sampling a path takes nothing from its numbers but the four operations, comparison, roots and
magnitudes.  So a path whose coordinates are other numbers can be sampled in the same way, step by
step; with precise numbers it is seen what a sample is apart from rounding.  The tolerances are left
open.

* `Numbers` — what is taken from numbers besides operations and comparison
* `Tolerances` — how far past the end a target may lie, and which segments are as good as empty
* `Vertex`, `length`, `Stop`, `sample` — paths, and their parts up to an arc length
* `sample_binary64` — with binary64 numbers it is `Geometry.sample`
-/

/-- What is taken from numbers besides the four operations and comparison. -/
class Numbers (R : Type) where
  sqrt : R → R
  abs : R → R
  isFinite : R → Bool

/-- The share of a path's length by which a target may lie past its end, and the length up to which
    a segment is as good as empty. -/
structure Tolerances (R : Type) where
  length : R
  denominator : R

/-- A point of the plane. -/
structure Vertex (R : Type) where
  x : R
  y : R

/-- Why a path cannot be sampled. -/
inductive Fault (R : Type) where
  | tooFewVertices (count : Nat)
  | outOfRange (target length : R)

/-- Where an arc length is reached: the vertices before the stopping segment, last first, the ends
    of that segment, and the arc length from the start of the path to its first end. -/
structure Stop (R : Type) where
  passed : List (Vertex R)
  first : Vertex R
  last : Vertex R
  travelled : R

variable {R : Type} [Add R] [Sub R] [Mul R] [Div R] [Neg R] [OfScientific R] [BEq R] [LT R] [LE R]
  [DecidableLT R] [DecidableLE R] [Numbers R]

/-! ### Lengths -/

namespace Vertex

/-- The Euclidean distance between two vertices. -/
def distance (a b : Vertex R) : R :=
  let dx := b.x - a.x
  let dy := b.y - a.y
  Numbers.sqrt (dx * dx + dy * dy)

/-- The point at `fraction` of the way from `a` to `b`. -/
def lerp (a b : Vertex R) (fraction : R) : Vertex R :=
  ⟨a.x + (b.x - a.x) * fraction, a.y + (b.y - a.y) * fraction⟩

end Vertex

/-- The lengths of the segments of a path. -/
def segmentLengths (path : List (Vertex R)) : List R :=
  path.zipWith Vertex.distance path.tail

/-- The length of a path: the sum of its segment lengths from the left. -/
def length (path : List (Vertex R)) : R :=
  (segmentLengths path).foldl (· + ·) (-0.0)

/-! ### Sampling -/

/-- A quotient, or `fallback` where the denominator is as good as zero. -/
def quotientOr (τ : Tolerances R) (numerator denominator fallback : R) : R :=
  if Numbers.abs denominator ≤ τ.denominator then fallback else numerator / denominator

namespace Stop

/-- The share of the stopping segment that remains to the target. -/
def fraction (τ : Tolerances R) (s : Stop R) (target : R) : R :=
  quotientOr τ (target - s.travelled) (s.first.distance s.last) 0.0

/-- The point at which the target is reached. -/
def point (τ : Tolerances R) (s : Stop R) (target : R) : Vertex R :=
  s.first.lerp s.last (s.fraction τ target)

/-- The path up to the target. -/
def path (τ : Tolerances R) (s : Stop R) (target : R) : List (Vertex R) :=
  (s.point τ target :: s.first :: s.passed).reverse

end Stop

/-- The segment in which the target is reached, starting with the one from `a` to `b` with `rest`
    behind it. -/
def stopFrom (target : R) (passed : List (Vertex R)) (travelled : R) (a b : Vertex R) :
    List (Vertex R) → Stop R
  | [] => ⟨passed, a, b, travelled⟩
  | c :: rest =>
    let next := travelled + a.distance b
    if target < next then ⟨passed, a, b, travelled⟩
    else stopFrom target (a :: passed) next b c rest

/-- The greatest target that a path of the given length admits. -/
def reach (τ : Tolerances R) (length : R) : R :=
  length + τ.length * (if 1.0 ≤ length then length else 1.0)

/-- A target that a path of the given length admits. -/
def admits (τ : Tolerances R) (length target : R) : Bool :=
  Numbers.isFinite target && !(target < 0.0) && !(reach τ length < target)

/-- The path up to an arc length: the vertices passed and the point reached.  At zero it is the
    first vertex alone. -/
def sample (τ : Tolerances R) (path : List (Vertex R)) (target : R) :
    Except (Fault R) (List (Vertex R)) :=
  match path with
  | a :: b :: rest =>
    if admits τ (length path) target then
      if target == 0.0 then .ok [a]
      else .ok ((stopFrom target [] 0.0 a b rest).path τ target)
    else .error (.outOfRange target (length path))
  | path => .error (.tooFewVertices path.length)

/-! ### Binary64 numbers -/

instance : Numbers Float := ⟨Float.sqrt, Float.abs, Float.isFinite⟩

/-- The tolerances that samples of arena paths are taken with. -/
def arenaTolerances : Tolerances Float := ⟨lengthTolerance, denominatorTolerance⟩

/-- A vertex of the arena. -/
def ofVertex (v : Geometry.Vertex) : Vertex Float := ⟨v.x, v.y⟩

/-- Why a path of the arena cannot be sampled. -/
def ofFault : ArcLengthFault → Fault Float
  | .tooFewVertices count => .tooFewVertices count
  | .outOfRange target length => .outOfRange target length

/-- A stopping segment in the arena. -/
def ofStop (s : Geometry.Stop) : Stop Float :=
  ⟨s.passed.map ofVertex, ofVertex s.first, ofVertex s.last, s.travelled⟩

/-- Over binary64 numbers the length is that of the program. -/
theorem length_ofVertex (path : Path) : length (path.map ofVertex) = Geometry.length path := by
  have hlengths : segmentLengths (path.map ofVertex) = Geometry.segmentLengths path := by
    rw [segmentLengths, Geometry.segmentLengths, ← List.map_tail, List.zipWith_map]
    rfl
  rw [length, hlengths, Geometry.length]

/-- So is the place where a part of a path stops. -/
theorem stopFrom_ofVertex (target : Float) (passed : List Geometry.Vertex) (travelled : Float)
    (a b : Geometry.Vertex) (rest : List Geometry.Vertex) :
    stopFrom target (passed.map ofVertex) travelled (ofVertex a) (ofVertex b) (rest.map ofVertex) =
      ofStop (Geometry.stopFrom target passed travelled a b rest) := by
  induction rest generalizing passed travelled a b with
  | nil => rfl
  | cons c rest ih =>
    have hdistance : (ofVertex a).distance (ofVertex b) = a.distance b := rfl
    rw [List.map_cons, stopFrom, Geometry.stopFrom, hdistance]
    by_cases hstop : target < travelled + a.distance b
    · rw [if_pos hstop, if_pos hstop]
      rfl
    · rw [if_neg hstop, if_neg hstop]
      exact ih (a :: passed) (travelled + a.distance b) b c

/-- And so is the part. -/
theorem path_ofStop (s : Geometry.Stop) (target : Float) :
    (ofStop s).path arenaTolerances target = (s.path target).map ofVertex := by
  rw [Stop.path, Geometry.Stop.path, List.map_reverse]
  rfl

/-- With binary64 numbers, paths are sampled as in the arena. -/
theorem sample_binary64 (path : Path) (target : Float) :
    sample arenaTolerances (path.map ofVertex) target =
      ((Geometry.sample path target).map (List.map ofVertex)).mapError ofFault := by
  match path with
  | [] => rfl
  | [a] => rfl
  | a :: b :: rest =>
    have hlength := length_ofVertex (a :: b :: rest)
    have hstop := stopFrom_ofVertex target [] 0.0 a b rest
    simp only [List.map_cons, List.map_nil] at hlength hstop
    rw [List.map_cons, List.map_cons, sample, Geometry.sample, hlength, hstop, path_ofStop]
    change (if Geometry.admits (Geometry.length (a :: b :: rest)) target then _ else _) = _
    cases Geometry.admits (Geometry.length (a :: b :: rest)) target with
    | false => rfl
    | true => cases target == 0.0 <;> rfl

end NavScript.Geometry.Generic
