import NavScript.Geometry.ArcLength
import NavScript.Geometry.Trajectory

namespace NavScript.Geometry

/-!
# Arc length by positions

The length of a path, its heading and its samples can be computed with the vertices taken by their
positions, where every access may be out of range and every difference of counts below zero.  None
of them ever is, and what is computed is the same.

* `below?`, `segmentAt?` — a difference of counts, and a segment, that there may not be
* `lengthAt?`, `headingAt?`, `sampleAt?`, `Trajectory.offsetAt?` — the computations by positions
* `lengthAt?_eq`, `headingAt?_eq`, `sampleAt?_eq`, `Trajectory.offsetAt?_eq` — they stay in range
-/

/-! ### Access that can fail -/

/-- The difference of two counts, if it is a count. -/
def below? (a b : Nat) : Option Nat :=
  if b ≤ a then some (a - b) else none

/-- A place in front of another is found. -/
theorem below?_of_le {a b : Nat} (h : b ≤ a) : below? a b = some (a - b) :=
  if_pos h

/-- The length of the segment that starts at a position. -/
def segmentAt? (path : Path) (i : Nat) : Option Float := do
  let a ← path[i]?
  let b ← path[i + 1]?
  return a.distance b

/-- A segment between two neighbours of a path is there. -/
theorem segmentAt?_append (before : Path) (a b : Vertex) (rest : List Vertex) :
    segmentAt? (before ++ a :: b :: rest) before.length = some (a.distance b) := by
  simp [segmentAt?]

/-! ### Lengths, headings and offsets -/

/-- The length of a path, each of its segments taken by the position it starts at. -/
def lengthAt? (path : Path) : Option Float := do
  -- a segment starts at every vertex but the last
  let lengths ← (List.range (path.length - 1)).mapM (segmentAt? path)
  return lengths.foldl (· + ·) (-0.0)

/-- The segments behind some vertices of a path are there. -/
theorem mapM_segmentAt?_eq (before : Path) (a : Vertex) (rest : List Vertex) :
    (List.range' before.length rest.length).mapM (segmentAt? (before ++ a :: rest)) =
      some (segmentLengths (a :: rest)) := by
  -- the position of a segment is the count of vertices before it, so the list grows at its end
  induction rest generalizing before a with
  | nil => rfl
  | cons b rest ih =>
    have hrest := ih (before ++ [a]) b
    rw [List.append_assoc, List.singleton_append, List.length_append,
      List.length_singleton] at hrest
    rw [List.length_cons, List.range'_succ, List.mapM_cons, segmentAt?_append, hrest]
    rfl

/-- With its places looked up, the length of a path is what it is without. -/
theorem lengthAt?_eq (path : Path) : lengthAt? path = some (length path) := by
  cases path with
  | nil => rfl
  | cons a rest =>
    have hlengths := mapM_segmentAt?_eq [] a rest
    rw [List.nil_append, List.length_nil, ← List.range_eq_range'] at hlengths
    rw [lengthAt?, List.length_cons, Nat.add_sub_cancel, hlengths]
    rfl

/-- The direction of the first segment, its ends taken by their positions. -/
def headingAt? (path : Path) : Option (Except ArcLengthFault Float) :=
  if path.length < 2 then some (.error (.tooFewVertices path.length))
  else do
    let a ← path[0]?
    let b ← path[1]?
    return .ok (a.direction b)

/-- So is the direction in which it begins. -/
theorem headingAt?_eq (path : Path) : headingAt? path = some (heading path) := by
  match path with
  | [] => rfl
  | [a] => rfl
  | a :: b :: rest => simp [headingAt?, heading]

/-- The start of a run, one less than its number being taken as a difference of counts. -/
def Trajectory.offsetAt? (t : Trajectory) (length : Float) : Option Float := do
  let before ← below? t.current 1
  return length * (Float.ofNat before / Float.ofNat t.total)

/-- The number of a valid run is at least one. -/
theorem Trajectory.offsetAt?_eq {t : Trajectory} (h : t.valid = true) (length : Float) :
    t.offsetAt? length = some (t.offset length) := by
  rw [offsetAt?, below?_of_le (t.valid_iff.mp h).1]
  rfl

/-! ### Samples -/

/-- How far a sample has come: the segment it is at, the arc length before it, and the vertices so
    far, last first. -/
structure Cursor where
  segment : Nat
  travelled : Float
  vertices : List Vertex

/-- Whole segments passed one after the other, up to the last one that may be passed. -/
def passAt? (path : Path) (target : Float) (limit : Nat) (c : Cursor) : Option Cursor :=
  if c.segment < limit then do
    let next := c.travelled + (← segmentAt? path c.segment)
    if target < next then return c
    let v ← path[c.segment + 1]?
    passAt? path target limit ⟨c.segment + 1, next, v :: c.vertices⟩
  else some c
termination_by limit - c.segment

/-- The path up to an arc length, its vertices taken by their positions. -/
def sampleAt? (path : Path) (target : Float) : Option (Except ArcLengthFault Path) :=
  if path.length < 2 then some (.error (.tooFewVertices path.length))
  else do
    let total ← lengthAt? path
    if !admits total target then return .error (.outOfRange target total)
    let first ← path[0]?
    if target == 0.0 then return .ok [first]
    -- of one segment less than there are vertices, the last is never passed
    let c ← passAt? path target (← below? path.length 2) ⟨0, 0.0, [first]⟩
    let share := quotientOr (target - c.travelled) (← segmentAt? path c.segment) 0.0
    let start ← path[c.segment]?
    let stop ← path[c.segment + 1]?
    return .ok (start.lerp stop share :: c.vertices).reverse

/-- From a segment on, whole segments are passed up to the one that the target is reached in: the
    vertices so far are those in front of it, and its own two ends are there. -/
theorem passAt?_eq (target : Float) (passed : List Vertex) (travelled : Float) (before : Path)
    (a b : Vertex) (rest : List Vertex) :
    let stop := stopFrom target passed travelled a b rest
    let path := before ++ a :: b :: rest
    ∃ i, passAt? path target (path.length - 2) ⟨before.length, travelled, a :: passed⟩ =
        some ⟨i, stop.travelled, stop.first :: stop.passed⟩ ∧
      path[i]? = some stop.first ∧ path[i + 1]? = some stop.last := by
  -- what is behind the current segment decides; what is before it only gives the position
  induction rest generalizing passed travelled before a b with
  | nil =>
    refine ⟨before.length, ?_, by simp [stopFrom], by simp [stopFrom]⟩
    rw [passAt?]
    simp [stopFrom]
  | cons c rest ih =>
    have hlimit : before.length < (before ++ a :: b :: c :: rest).length - 2 := by
      simp only [List.length_append, List.length_cons]
      omega
    dsimp only
    rw [passAt?, if_pos hlimit]
    simp only [segmentAt?_append, stopFrom, Option.bind_eq_bind, Option.bind_some]
    by_cases hstop : target < travelled + a.distance b
    · exact ⟨before.length, by simp [hstop], by simp [hstop], by simp [hstop]⟩
    · -- the segment is behind: its start joins what lies before
      obtain ⟨i, hpass, hfirst, hlast⟩ :=
        ih (a :: passed) (travelled + a.distance b) (before ++ [a]) b c
      simp only [List.append_assoc, List.singleton_append, List.length_append,
        List.length_singleton]
        at hpass hfirst hlast
      refine ⟨i, ?_, by simpa [hstop] using hfirst, by simpa [hstop] using hlast⟩
      simpa [hstop] using hpass

/-- No access of a sample is out of range. -/
theorem sampleAt?_eq (path : Path) (target : Float) :
    sampleAt? path target = some (sample path target) := by
  match path with
  | [] => rfl
  | [a] => rfl
  | a :: b :: rest =>
    have hcount : ¬ (a :: b :: rest).length < 2 := by simp
    rw [sampleAt?, sample, if_neg hcount, lengthAt?_eq, Option.bind_eq_bind, Option.bind_some]
    cases hadmits : admits (length (a :: b :: rest)) target with
    | false => rfl
    | true =>
      cases hzero : target == 0.0 with
      | true => rfl
      | false =>
        obtain ⟨i, hpass, hfirst, hlast⟩ := passAt?_eq target [] 0.0 [] a b rest
        simp only [List.nil_append, List.length_nil] at hpass hfirst hlast
        have hbelow : below? (a :: b :: rest).length 2 = some ((a :: b :: rest).length - 2) :=
          below?_of_le (by simp)
        have hsegment : segmentAt? (a :: b :: rest) i = some
            ((stopFrom target [] 0.0 a b rest).first.distance
              (stopFrom target [] 0.0 a b rest).last) := by
          simp only [segmentAt?, hfirst, hlast, Option.bind_eq_bind, Option.bind_some]
          rfl
        simp only [hbelow, hpass, hsegment, hfirst, hlast, List.getElem?_cons_zero,
          Option.bind_eq_bind, Option.bind_some]
        rfl

end NavScript.Geometry
