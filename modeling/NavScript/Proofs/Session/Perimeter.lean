import NavScript.Proofs.Geometry.Offset
import NavScript.Proofs.Session.OnDrawing

namespace NavScript

open NavScript.Geometry NavScript.Binary64

/-!
# The perimeter as far as a run

The sample of a path is written as its first waypoints and the point that the run starts at.  The
later the run is in its batch, the more of the waypoints there are, and the last of them is never
reached.

* `Setting.forRun` — the setting of a run
* `Setting.compile_of_start`, `Setting.compile_of_not_start` — the two forms of a sample
* `Setting.exists_perimeter`, `Setting.perimeter_isPrefix` — one run, and two runs of a batch
* `Setting.perimeter_of_path` — the samples of a path and its waypoints
-/

namespace Setting

/-- The setting with another run of the batch. -/
def forRun (s : Setting) (t : Trajectory) : Setting :=
  { s with trajectory := t }

variable (s : Setting)

/-- The directives of the sample of a path that has been found. -/
theorem onDrawing_samplePerimeter {l : Loaded} {id : String} {path : Path}
    (hpath : l.drawing.path id l.transform = .ok path) {t : Trajectory} (ht : t.valid) :
    (s.forRun t).onDrawing l (.samplePerimeter id) =
      ((sample path (t.offset (length path))).mapError (.ofArcLength id)).map (·.map .goto) := by
  have hvalid : (s.forRun t).trajectory.valid = true := ht
  simp only [onDrawing, samplePerimeter, hvalid, hpath]
  rfl

/-- The line of a waypoint. -/
def waypoint (places : Nat) (v : Vertex) : String :=
  (Directive.goto v).render places

section Run

variable {s} (hp : s.options.precision ≤ Decimal.placesLimit) {session : Session} {l : Loaded}
  (hl : session.loaded = some l) {id line : String} (hline : Asks line (.samplePerimeter id))
  {a b : Vertex} {rest : List Vertex} (hpath : l.drawing.path id l.transform = .ok (a :: b :: rest))
  (hlength : (length (a :: b :: rest)).isFinite) {t : Trajectory} (ht : t.valid)
  (htotal : t.total < 2 ^ 32)

include hp hl hline hpath hlength ht htotal

/-- A run that starts where the path does has the first waypoint for its sample. -/
theorem compile_of_start (hstart : t.current = 1 ∨ (length (a :: b :: rest) == 0.0) = true) :
    ((s.forRun t).compile session line).1 = .lines [waypoint s.options.precision a] := by
  rw [(s.forRun t).compile_of_asks hp hl hline, s.onDrawing_samplePerimeter hpath ht,
    sample_offset_eq ht htotal hlength, if_pos hstart]
  rfl

/-- Any other run has the waypoints passed, and the point reached. -/
theorem compile_of_not_start
    (hstart : ¬ (t.current = 1 ∨ (length (a :: b :: rest) == 0.0) = true)) :
    ∃ point, ((s.forRun t).compile session line).1 =
      .lines ((t.stop a b rest).covered.map (waypoint s.options.precision) ++ [point]) := by
  refine ⟨waypoint s.options.precision
    ((t.stop a b rest).point (t.offset (length (a :: b :: rest)))), ?_⟩
  rw [(s.forRun t).compile_of_asks hp hl hline, s.onDrawing_samplePerimeter hpath ht,
    sample_offset_eq ht htotal hlength, if_neg hstart, Stop.path_eq]
  -- the directives are those of the path, the lines are those of the directives
  change Compiled.lines ((List.map Directive.goto _).map (Directive.render s.options.precision)) = _
  rw [List.map_map, List.map_append]
  rfl

/-- A run has a sample: the first waypoint alone, or the waypoints passed and one line more. -/
theorem exists_perimeter :
    ∃ out, ((s.forRun t).compile session line).1 = .lines out ∧
      (out = [waypoint s.options.precision a] ↔
        t.current = 1 ∨ (length (a :: b :: rest) == 0.0) = true) ∧
      (¬ (t.current = 1 ∨ (length (a :: b :: rest) == 0.0) = true) →
        2 ≤ out.length ∧ out.length ≤ (a :: b :: rest).length ∧
          out.dropLast <+: (a :: b :: rest).map (waypoint s.options.precision)) := by
  by_cases hstart : t.current = 1 ∨ (length (a :: b :: rest) == 0.0) = true
  · have hlines := compile_of_start hp hl hline hpath hlength ht htotal hstart
    exact ⟨_, hlines, iff_of_true rfl hstart, fun h => absurd hstart h⟩
  · obtain ⟨point, hlines⟩ := compile_of_not_start hp hl hline hpath hlength ht htotal hstart
    obtain ⟨k, hk, hcovered⟩ := exists_covered_stop t a b rest
    have hcount :
        ((t.stop a b rest).covered.map (waypoint s.options.precision)).length = k + 1 := by
      rw [hcovered, List.length_map, List.length_take, List.length_cons, List.length_cons]
      omega
    have hprefix : (t.stop a b rest).covered.map (waypoint s.options.precision) <+:
        (a :: b :: rest).map (waypoint s.options.precision) := by
      rw [hcovered]
      exact (List.take_prefix _ _).map _
    refine ⟨_, hlines, iff_of_false (fun h => ?_) hstart, fun _ => ⟨?_, ?_, ?_⟩⟩
    · -- at least one waypoint is passed, and the point reached comes behind it
      have hone := congrArg List.length h
      rw [List.length_append, hcount, List.length_singleton, List.length_singleton] at hone
      omega
    · rw [List.length_append, hcount]
      exact Nat.le_add_left 2 k
    · rw [List.length_append, hcount]
      exact Nat.add_le_add_right hk 2
    · rwa [List.dropLast_concat]

/-- On a path that has a length, a later run of the batch has all but the last line of an earlier
    one. -/
theorem perimeter_isPrefix {u : Trajectory} (hu : u.valid) (hbatch : t.total = u.total)
    (hfirst : 1 < t.current) (hle : t.current ≤ u.current) (hpos : 0.0 < length (a :: b :: rest)) :
    ∃ earlier later, ((s.forRun t).compile session line).1 = .lines earlier ∧
      ((s.forRun u).compile session line).1 = .lines later ∧
      earlier.dropLast <+: later.dropLast := by
  have hnonzero : ¬ (length (a :: b :: rest) == 0.0) = true := by
    rw [lt_iff_value isFinite_zero hlength, value_zero] at hpos
    rw [beq_zero_iff hlength]
    exact hpos.ne'
  have hstart : ∀ r : Trajectory, 1 < r.current →
      ¬ (r.current = 1 ∨ (length (a :: b :: rest) == 0.0) = true) :=
    fun r hr => not_or.mpr ⟨hr.ne', hnonzero⟩
  obtain ⟨point, hearlier⟩ :=
    compile_of_not_start hp hl hline hpath hlength ht htotal (hstart t hfirst)
  obtain ⟨point', hlater⟩ :=
    compile_of_not_start hp hl hline hpath hlength hu (hbatch ▸ htotal)
      (hstart u (hfirst.trans_le hle))
  refine ⟨_, _, hearlier, hlater, ?_⟩
  rw [List.dropLast_concat, List.dropLast_concat]
  exact (covered_stop_isPrefix ht hu hbatch (hbatch ▸ htotal) hle hlength).map _

end Run

/-- **The samples of a path.**  Take a path of at least two vertices and of finite length.  Every
    run has a sample; it is the first waypoint alone exactly if the run is the first of its batch or
    the path has no length, and otherwise it has at least two lines, not more than there are
    waypoints, and all but the last are the first waypoints.  On a path that has a length, a later
    run of the same batch goes on from what an earlier one has before its last line. -/
theorem perimeter_of_path (hp : s.options.precision ≤ Decimal.placesLimit) {session : Session}
    {l : Loaded} (hl : session.loaded = some l) {id : String} {p : PathElement} {path : Path}
    (hfound : l.drawing.pathsNamed id = [p]) (hread : p.read .document l.transform = .ok path)
    (hvertices : 2 ≤ path.length) (hlength : (length path).isFinite) {follow line : String}
    (hfollow : Asks follow (.followTrajectory id)) (hline : Asks line (.samplePerimeter id)) :
    ∃ first later, (s.compile session follow).1 = .lines (first :: later) ∧
      (first :: later).length = path.length ∧
      (∀ t : Trajectory, t.valid → t.total < 2 ^ 32 →
        ∃ out, ((s.forRun t).compile session line).1 = .lines out ∧
          (out = [first] ↔ t.current = 1 ∨ (length path == 0.0) = true) ∧
          (¬ (t.current = 1 ∨ (length path == 0.0) = true) →
            2 ≤ out.length ∧ out.length ≤ path.length ∧ out.dropLast <+: first :: later)) ∧
      ∀ t u : Trajectory, t.valid → u.valid → t.total = u.total → u.total < 2 ^ 32 →
        1 < t.current → t.current ≤ u.current → 0.0 < length path →
        ∃ earlier later, ((s.forRun t).compile session line).1 = .lines earlier ∧
          ((s.forRun u).compile session line).1 = .lines later ∧
          earlier.dropLast <+: later.dropLast := by
  have hpath : l.drawing.path id l.transform = .ok path := by
    rw [Drawing.path, hfound]
    exact hread
  match path, hvertices with
  | a :: b :: rest, _ =>
  have hgotos : (s.compile session follow).1 =
      .lines ((a :: b :: rest).map (waypoint s.options.precision)) := by
    rw [s.compile_of_asks hp hl hfollow, (s.onDrawing_of_path_eq_ok l hpath).1, Compiled.of_ok,
      List.map_map]
    rfl
  refine ⟨_, _, hgotos, by simp, ?_, ?_⟩
  · intro t ht htotal
    exact exists_perimeter hp hl hline hpath hlength ht htotal
  · intro t u ht hu hbatch htotal hfirst hle hpos
    exact perimeter_isPrefix hp hl hline hpath hlength ht (hbatch ▸ htotal) hu hbatch
      hfirst hle hpos

/-- A session that has loaded a drawing with one path, which has a corner. -/
def cornerSession : Session :=
  ⟨⟨[], []⟩, some ⟨⟨[], [⟨some "p", some "M 0 0 L 4 0 L 4 4"⟩]⟩, ⟨1.0⟩⟩⟩

/-- The second of four runs starts before the corner and the fourth behind it: where the second has
    its last line, the fourth goes on to the corner. -/
theorem perimeter_of_corner :
    let sampled := fun t =>
      (plain.forRun t).compile cornerSession "sample-perimeter-from-svg-path p"
    let earlier := ["goto 0.000000 -0.000000", "goto 2.000000 0.000000"]
    let later := ["goto 0.000000 -0.000000", "goto 4.000000 -0.000000", "goto 4.000000 -2.000000"]
    plain.options.precision ≤ Decimal.placesLimit ∧
    Asks "follow-trajectory-from-svg-path p" (.followTrajectory "p") ∧
    Asks "sample-perimeter-from-svg-path p" (.samplePerimeter "p") ∧
    (length [⟨0.0, -0.0⟩, ⟨4.0, -0.0⟩, ⟨4.0, -4.0⟩]).isFinite ∧
    (sampled ⟨2, 4⟩).1 = .lines earlier ∧ (sampled ⟨4, 4⟩).1 = .lines later ∧
      earlier.dropLast <+: later.dropLast ∧ 2 ≤ later.length ∧ later.length ≤ 3 := by
  intro sampled earlier later
  have hp : plain.options.precision ≤ Decimal.placesLimit := by decide
  have hl : cornerSession.loaded =
      some ⟨⟨[], [⟨some "p", some "M 0 0 L 4 0 L 4 4"⟩]⟩, ⟨1.0⟩⟩ := rfl
  have hread : (⟨some "p", some "M 0 0 L 4 0 L 4 4"⟩ : PathElement).read .document ⟨1.0⟩ =
      .ok [⟨0.0, -0.0⟩, ⟨4.0, -0.0⟩, ⟨4.0, -4.0⟩] := rfl
  have hlength : (length [⟨0.0, -0.0⟩, ⟨4.0, -0.0⟩, ⟨4.0, -4.0⟩]).isFinite := by decide +kernel
  have hpos : 0.0 < length [⟨0.0, -0.0⟩, ⟨4.0, -0.0⟩, ⟨4.0, -4.0⟩] := by decide +kernel
  have hzero : ¬ (length [⟨0.0, -0.0⟩, ⟨4.0, -0.0⟩, ⟨4.0, -4.0⟩] == 0.0) = true := by decide +kernel
  have hfollow : Asks "follow-trajectory-from-svg-path p" (.followTrajectory "p") := ⟨[], rfl⟩
  have hline : Asks "sample-perimeter-from-svg-path p" (.samplePerimeter "p") := ⟨[], rfl⟩
  have hlines : ∀ t lines, ((plain.forRun t).onDrawing
        ⟨⟨[], [⟨some "p", some "M 0 0 L 4 0 L 4 4"⟩]⟩, ⟨1.0⟩⟩ (.samplePerimeter "p")).toOption.map
          (List.map (Directive.render 6)) = some lines → (sampled t).1 = .lines lines := by
    intro t lines hrendered
    obtain ⟨ds, hds, rfl⟩ := Option.map_eq_some_iff.mp hrendered
    rw [← Compiled.of_ok, ← eq_ok_of_toOption hds]
    exact (plain.forRun t).compile_of_asks hp hl hline
  have hearlier : (sampled ⟨2, 4⟩).1 = .lines earlier := hlines _ _ (by decide +kernel)
  have hlater : (sampled ⟨4, 4⟩).1 = .lines later := hlines _ _ (by decide +kernel)
  obtain ⟨_, _, -, -, hone, hboth⟩ :=
    plain.perimeter_of_path hp hl rfl hread (by decide) hlength hfollow hline
  obtain ⟨earlier', later', hearlier', hlater', hprefix⟩ :=
    hboth ⟨2, 4⟩ ⟨4, 4⟩ (by decide) (by decide) rfl (by decide) (by decide) (by decide) hpos
  obtain ⟨out, hout, -, hcount⟩ := hone ⟨4, 4⟩ (by decide) (by decide)
  obtain ⟨hmin, hmax, -⟩ := hcount (not_or.mpr ⟨by decide, hzero⟩)
  obtain rfl : earlier = earlier' := Compiled.lines.inj (hearlier.symm.trans hearlier')
  obtain rfl : later = later' := Compiled.lines.inj (hlater.symm.trans hlater')
  obtain rfl : later = out := Compiled.lines.inj (hlater.symm.trans hout)
  exact ⟨hp, hfollow, hline, hlength, hearlier, hlater, hprefix, hmin, hmax⟩

end Setting

end NavScript
