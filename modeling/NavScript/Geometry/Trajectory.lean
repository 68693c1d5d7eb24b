namespace NavScript.Geometry

/-!
# Trajectories of a batch

A batch of experiment runs starts its runs at evenly spread offsets along one path.  A trajectory is
the number of a run, counted from one, with the number of runs.

* `Trajectory.valid` — the run is one of the batch
* `Trajectory.offset` — the arc length at which the run starts
-/

/-- Run `current` of `total`. -/
structure Trajectory where
  current : Nat
  total : Nat
  deriving DecidableEq, Repr

namespace Trajectory

/-- The only run of its batch. -/
def single : Trajectory := ⟨1, 1⟩

/-- The run is one of the batch. -/
def valid (t : Trajectory) : Bool :=
  t.total ≠ 0 && t.current ≠ 0 && t.current ≤ t.total

/-- A run is valid exactly when it is counted from one up to the size of its batch. -/
theorem valid_iff (t : Trajectory) : t.valid = true ↔ 1 ≤ t.current ∧ t.current ≤ t.total := by
  simp [valid]; omega

/-- The start of a valid run along a path of the given length: the share of the batch that lies
    before it. -/
def offset (t : Trajectory) (length : Float) : Float :=
  length * (Float.ofNat (t.current - 1) / Float.ofNat t.total)

end Trajectory

end NavScript.Geometry
