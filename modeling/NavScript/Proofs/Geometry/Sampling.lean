import Mathlib.Order.Bounds.Basic
import NavScript.Proofs.Geometry.Offset

namespace NavScript.Geometry

open NavScript.Binary64

/-!
# Where a sample is cut

Sampling passes the segments of a path one after the other, and it stops at the first that it must
not pass: the last one, or one whose end lies beyond the target.  What has been passed up to there
is the path up to the start of that segment, so a target that is further along only adds to it.

* `segmentLength`, `arcLengthTo` — the length of one segment, and of all before a vertex
* `Halts` — the segments that must not be passed
* `stopFrom_eq_of_append` — what is left of the path decides where sampling stops
* `admits_eq_false_iff`, `sample_eq_ok_iff` — when there is a sample
* `sample_cuts_path` — the sample of a path
* `dropLast_sample_isPrefix` — the samples of two targets
-/

/-! ### Arc lengths -/

/-- The length of the segment that starts at a position. -/
def segmentLength (path : Path) (i : Nat) (h : i + 1 < path.length) : Float :=
  path[i].distance path[i + 1]

/-- The arc length up to a vertex: the sum of the segment lengths before it, from the left, started
    at zero. -/
def arcLengthTo (path : Path) (j : Nat) : Float :=
  ((segmentLengths path).take j).foldl (· + ·) 0.0

/-- The next segment is added at the end. -/
theorem arcLengthTo_succ (path : Path) (j : Nat) (h : j + 1 < path.length) :
    arcLengthTo path (j + 1) = arcLengthTo path j + segmentLength path j h := by
  have hsegment : (segmentLengths path)[j]? = some (segmentLength path j h) := by
    simp [segmentLengths, segmentLength, List.getElem?_zipWith, h, Nat.lt_of_succ_lt h]
  rw [arcLengthTo, arcLengthTo, List.take_add_one, hsegment, List.foldl_append]
  rfl

theorem segmentLength_append (before : Path) (a b : Vertex) (rest : List Vertex)
    (h : before.length + 1 < (before ++ a :: b :: rest).length) :
    segmentLength (before ++ a :: b :: rest) before.length h = a.distance b := by
  simp [segmentLength]

/-! ### The stopping segment -/

/-- A segment that must not be passed: the last one, or one whose end lies beyond the target. -/
def Halts (path : Path) (target : Float) (j : Nat) : Prop :=
  ∃ h : j + 1 < path.length,
    j + 2 = path.length ∨ target < arcLengthTo path j + segmentLength path j h

/-- Sampling that has come to a segment, having passed those before it, stops at the first segment
    of all that must not be passed. -/
theorem stopFrom_eq_of_append (target : Float) (before : Path) (a b : Vertex) (rest : List Vertex)
    (hbefore : ∀ j < before.length, ¬ Halts (before ++ a :: b :: rest) target j) :
    let path := before ++ a :: b :: rest
    ∃ (k : Nat) (h : k + 1 < path.length), IsLeast {j | Halts path target j} k ∧
      stopFrom target before.reverse (arcLengthTo path before.length) a b rest =
        ⟨(path.take k).reverse, path[k], path[k + 1], arcLengthTo path k⟩ := by
  -- what is behind the current segment shrinks, and the segment joins what is before
  induction rest generalizing before a b with
  | nil =>
    have hlast : before.length + 1 < (before ++ [a, b]).length := by simp
    refine ⟨before.length, hlast, ⟨⟨hlast, .inl (by simp)⟩, fun j hj => ?_⟩, by simp [stopFrom]⟩
    exact Nat.le_of_not_lt fun hlt => hbefore j hlt hj
  | cons c rest ih =>
    have hnext : before.length + 1 < (before ++ a :: b :: c :: rest).length := by simp
    dsimp only
    rw [stopFrom]
    by_cases hstop :
        target < arcLengthTo (before ++ a :: b :: c :: rest) before.length + a.distance b
    · refine ⟨before.length, hnext, ⟨⟨hnext, .inr ?_⟩, fun j hj => ?_⟩, by simp [hstop]⟩
      · rwa [segmentLength_append]
      · exact Nat.le_of_not_lt fun hlt => hbefore j hlt hj
    · have hpassed : ∀ j < (before ++ [a]).length,
          ¬ Halts ((before ++ [a]) ++ b :: c :: rest) target j := by
        intro j hj
        rw [List.append_assoc, List.singleton_append]
        rcases Nat.lt_succ_iff_lt_or_eq.mp (by simpa using hj) with hlt | rfl
        · exact hbefore j hlt
        · rintro ⟨h, hlast | hend⟩
          · simp at hlast
          · rw [segmentLength_append] at hend
            exact hstop hend
      obtain ⟨k, hk, hleast, hstopFrom⟩ := ih (before ++ [a]) b c hpassed
      simp only [List.append_assoc, List.singleton_append, List.length_append,
        List.length_singleton, arcLengthTo_succ _ _ hnext, segmentLength_append,
        List.reverse_append, List.reverse_singleton] at hk hleast hstopFrom
      exact ⟨k, by simpa using hk, hleast, by simpa [hstop] using hstopFrom⟩

/-- From the start of a path on, sampling stops at the first segment that must not be passed. -/
theorem exists_stopFrom_eq (target : Float) (a b : Vertex) (rest : List Vertex) :
    let path := a :: b :: rest
    ∃ (k : Nat) (h : k + 1 < path.length), IsLeast {j | Halts path target j} k ∧
      stopFrom target [] 0.0 a b rest =
        ⟨(path.take k).reverse, path[k], path[k + 1], arcLengthTo path k⟩ :=
  stopFrom_eq_of_append target [] a b rest (by simp)

/-! ### Samples -/

/-- A target is refused if it is not finite, negative, or past the reach of the path. -/
theorem admits_eq_false_iff (length target : Float) :
    admits length target = false ↔
      target.isFinite = false ∨ target < 0.0 ∨ reach length < target := by
  rw [admits, Bool.and_eq_false_iff, Bool.and_eq_false_iff]
  simp [or_assoc]

/-- A path of at least two vertices has a sample for each target that it admits. -/
theorem sample_eq_ok_iff {a b : Vertex} {rest : List Vertex} {target : Float} {out : Path} :
    sample (a :: b :: rest) target = .ok out ↔
      admits (length (a :: b :: rest)) target = true ∧
        out = if target == 0.0 then [a] else (stopFrom target [] 0.0 a b rest).path target := by
  rw [sample]
  cases admits (length (a :: b :: rest)) target with
  | false => simp
  | true =>
    cases target == 0.0 <;> simp [eq_comm]

/-- **Where a sample is cut.**  A path of fewer than two vertices cannot be sampled, and no path at
    a target that is not finite, negative, or further past its end than the tolerance.  At zero the
    sample is the first vertex.  At any other target it is the path up to the start of the first
    segment that must not be passed, which is the last one or one that ends beyond the target, and
    the point on this segment at the share that remains to the target.  So it has at least two
    vertices and at most as many as the path; all but the last are the first vertices of the path,
    and the last vertex of the path is none of those. -/
theorem sample_cuts_path (path : Path) (target : Float) :
    (path.length < 2 → sample path target = .error (.tooFewVertices path.length)) ∧
    ∀ h : 2 ≤ path.length,
      let past := length path + lengthTolerance * (if 1.0 ≤ length path then length path else 1.0)
      let refused := target.isFinite = false ∨ target < 0.0 ∨ past < target
      (refused → sample path target = .error (.outOfRange target (length path))) ∧
      (¬ refused → (target == 0.0) = true → sample path target = .ok [path[0]]) ∧
      (¬ refused → (target == 0.0) = false → ∃ (k : Nat) (hk : k + 1 < path.length),
        IsLeast {j | ∃ hj : j + 1 < path.length,
          j + 2 = path.length ∨ target < arcLengthTo path j + segmentLength path j hj} k ∧
        let share := quotientOr (target - arcLengthTo path k) (segmentLength path k hk) 0.0
        let out := path.take (k + 1) ++ [path[k].lerp path[k + 1] share]
        sample path target = .ok out ∧ 2 ≤ out.length ∧ out.length ≤ path.length ∧
          out.dropLast <+: path ∧ out.dropLast.length < path.length) := by
  refine ⟨fun h => ?_, fun h => ?_⟩
  · match path, h with
    | [], _ => rfl
    | [a], _ => rfl
  match path, h with
  | a :: b :: rest, h =>
  intro past refused
  have hrefused : refused ↔ admits (length (a :: b :: rest)) target = false :=
    (admits_eq_false_iff _ _).symm
  have hadmits : ¬ refused ↔ admits (length (a :: b :: rest)) target = true := by
    rw [hrefused, Bool.not_eq_false]
  refine ⟨fun hr => ?_, fun hr hzero => ?_, fun hr hzero => ?_⟩
  · rw [sample, hrefused.mp hr]
    rfl
  · rw [sample_eq_ok_iff, hzero]
    exact ⟨hadmits.mp hr, rfl⟩
  · obtain ⟨k, hk, hleast, hstop⟩ := exists_stopFrom_eq target a b rest
    refine ⟨k, hk, hleast, ?_⟩
    intro share out
    have hcovered : ((a :: b :: rest).take (k + 1)).length = k + 1 := by
      rw [List.length_take]
      exact Nat.min_eq_left hk.le
    have hout : sample (a :: b :: rest) target = .ok out := by
      have htake := List.take_succ_eq_append_getElem (Nat.lt_of_succ_lt hk)
      rw [sample_eq_ok_iff, hstop, if_neg (Bool.not_eq_true _ ▸ hzero), Stop.path_eq, Stop.covered,
        List.reverse_cons, List.reverse_reverse, ← htake]
      exact ⟨hadmits.mp hr, rfl⟩
    refine ⟨hout, ?_, ?_, ?_, ?_⟩
    · rw [List.length_append, hcovered]
      exact Nat.le_add_left 2 k
    · rw [List.length_append, hcovered]
      exact hk
    · rw [List.dropLast_concat]
      exact List.take_prefix _ _
    · rw [List.dropLast_concat, hcovered]
      exact hk

/-- The target is a vertex that the path has twice: both are passed, and the cut is at the start of
    the last segment. -/
theorem sample_at_repeated_vertex :
    let path : Path := [⟨0.0, 0.0⟩, ⟨3.0, 0.0⟩, ⟨3.0, 0.0⟩, ⟨3.0, 4.0⟩]
    let past := length path + lengthTolerance * (if 1.0 ≤ length path then length path else 1.0)
    ¬ ((3.0 : Float).isFinite = false ∨ (3.0 : Float) < 0.0 ∨ past < 3.0) ∧
      ((3.0 : Float) == 0.0) = false ∧
      let share := quotientOr (3.0 - arcLengthTo path 2) (segmentLength path 2 (by decide)) 0.0
      sample path 3.0 = .ok (path.take 3 ++ [(⟨3.0, 0.0⟩ : Vertex).lerp ⟨3.0, 4.0⟩ share]) := by
  intro path past
  have hr : ¬ ((3.0 : Float).isFinite = false ∨ (3.0 : Float) < 0.0 ∨ past < 3.0) := by
    decide +kernel
  have hzero : ((3.0 : Float) == 0.0) = false := by decide +kernel
  obtain ⟨k, hk, hleast, hout, -⟩ := ((sample_cuts_path path 3.0).2 (by decide)).2.2 hr hzero
  have hle : k ≤ 2 := hleast.2 ⟨by decide, .inl rfl⟩
  have hhalts : k + 2 = 4 ∨ 3.0 < arcLengthTo path k + segmentLength path k hk :=
    hleast.1.elim fun _ h => h
  have hfirst : ¬ (3.0 : Float) < arcLengthTo path 0 + segmentLength path 0 (by decide) := by
    decide +kernel
  have hsecond : ¬ (3.0 : Float) < arcLengthTo path 1 + segmentLength path 1 (by decide) := by
    decide +kernel
  match k, hk, hle, hhalts, hout with
  | 0, _, _, hhalts, _ => exact absurd (hhalts.resolve_left (by decide)) hfirst
  | 1, _, _, hhalts, _ => exact absurd (hhalts.resolve_left (by decide)) hsecond
  | 2, _, _, _, hout => exact ⟨hr, hzero, hout⟩

/-- **Samples of two targets.**  All but the last vertex of the sample of a target are found at the
    start of the sample of every target that is further along. -/
theorem dropLast_sample_isPrefix {path near far : Path} {t u : Float} (hpos : 0.0 < t) (hle : t ≤ u)
    (hnear : sample path t = .ok near) (hfar : sample path u = .ok far) :
    near.dropLast <+: far.dropLast := by
  match path, hnear, hfar with
  | a :: b :: rest, hnear, hfar =>
    obtain ⟨ht, rfl⟩ := sample_eq_ok_iff.mp hnear
    obtain ⟨hu, rfl⟩ := sample_eq_ok_iff.mp hfar
    simp only [admits, Bool.and_eq_true] at ht hu
    have htfinite := ht.1.1
    have hufinite := hu.1.1
    rw [le_iff_value htfinite hufinite] at hle
    rw [lt_iff_value isFinite_zero htfinite, value_zero] at hpos
    have htzero : ¬ (t == 0.0) = true := fun h => hpos.ne' ((beq_zero_iff htfinite).mp h)
    have huzero : ¬ (u == 0.0) = true := fun h =>
      (hpos.trans_le hle).ne' ((beq_zero_iff hufinite).mp h)
    rw [if_neg htzero, if_neg huzero, Stop.path_eq, Stop.path_eq, List.dropLast_concat,
      List.dropLast_concat]
    exact covered_stopFrom_isPrefix htfinite hufinite hle [] 0.0 a b rest

/-- One target on the first segment, and one at its end, where the path has a vertex twice. -/
theorem dropLast_sample_of_repeated_vertex :
    let path : Path := [⟨0.0, 0.0⟩, ⟨3.0, 0.0⟩, ⟨3.0, 0.0⟩, ⟨3.0, 4.0⟩]
    (0.0 : Float) < 1.5 ∧ (1.5 : Float) ≤ 3.0 ∧ ∃ near far, sample path 1.5 = .ok near ∧
      sample path 3.0 = .ok far ∧ near.length = 2 ∧ far.length = 4 ∧
        near.dropLast <+: far.dropLast := by
  intro path
  have hpos : (0.0 : Float) < 1.5 := by decide +kernel
  have hle : (1.5 : Float) ≤ 3.0 := by decide +kernel
  have hnear : sample path 1.5 = .ok _ := sample_eq_ok_iff.mpr ⟨by decide +kernel, rfl⟩
  have hfar : sample path 3.0 = .ok _ := sample_eq_ok_iff.mpr ⟨by decide +kernel, rfl⟩
  exact ⟨hpos, hle, _, _, hnear, hfar, by decide +kernel, by decide +kernel,
    dropLast_sample_isPrefix hpos hle hnear hfar⟩

end NavScript.Geometry
