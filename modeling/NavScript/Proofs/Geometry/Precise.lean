import Mathlib
import NavScript.Proofs.Geometry.Generic

namespace NavScript.Geometry.Generic

/-!
# Samples without rounding

With real numbers the arc lengths that sampling keeps account of are those of the path.  So the
target lies on the stopping segment, and what remains to it is a share of that segment between
nothing and all.  The sample is as long as the target says, except that nothing is taken of a
segment that is as good as empty.

* `distance_lerp`, `distance_lerp_last` — how far a point on a segment is from its ends
* `length_concat` — a path that goes on
* `Reached`, `reached_stopFrom` — the target lies on the stopping segment
* `last_stopFrom_of_length` — at the whole length this is the last segment
* `length_sample_of_reals` — the length of a sample, and where the whole path is sampled to
-/

noncomputable instance : Numbers ℝ := ⟨Real.sqrt, fun x => |x|, fun _ => true⟩

/-! ### Points on a segment -/

/-- The distance of two points. -/
theorem distance_eq (a b : Vertex ℝ) :
    a.distance b = √((b.x - a.x) * (b.x - a.x) + (b.y - a.y) * (b.y - a.y)) := rfl

/-- A distance is not negative. -/
theorem distance_nonneg (a b : Vertex ℝ) : 0 ≤ a.distance b :=
  Real.sqrt_nonneg _

@[simp] theorem distance_self (a : Vertex ℝ) : a.distance a = 0 := by
  simp [distance_eq]

/-- Both differences of coordinates multiplied by a number that is not negative. -/
theorem sqrt_mul_self_add {s : ℝ} (hs : 0 ≤ s) (u v : ℝ) :
    √(u * s * (u * s) + v * s * (v * s)) = s * √(u * u + v * v) := by
  have hsquare : u * s * (u * s) + v * s * (v * s) = s ^ 2 * (u * u + v * v) := by ring
  rw [hsquare, Real.sqrt_mul (sq_nonneg s), Real.sqrt_sq hs]

/-- A point on a segment is at its share of the length from the start. -/
theorem distance_lerp (a b : Vertex ℝ) {f : ℝ} (hf : 0 ≤ f) :
    a.distance (a.lerp b f) = f * a.distance b := by
  rw [distance_eq, distance_eq, ← sqrt_mul_self_add hf]
  simp [Vertex.lerp]

/-- A point on a segment is at what is left of the length from the end. -/
theorem distance_lerp_last (a b : Vertex ℝ) {f : ℝ} (hf : f ≤ 1) :
    (a.lerp b f).distance b = (1 - f) * a.distance b := by
  rw [distance_eq, distance_eq, ← sqrt_mul_self_add (sub_nonneg.mpr hf)]
  congr 1
  simp only [Vertex.lerp]
  ring

/-! ### Lengths -/

/-- The length is the sum of the lengths of the segments. -/
theorem length_eq_sum (path : List (Vertex ℝ)) : length path = (segmentLengths path).sum := by
  have hzero : (-0.0 : ℝ) = 0 := by norm_num
  rw [length, hzero, List.sum_eq_foldl]

@[simp] theorem length_singleton (a : Vertex ℝ) : length [a] = 0 := by
  simp [length_eq_sum, segmentLengths]

/-- A segment more in front. -/
theorem length_cons_cons (a b : Vertex ℝ) (rest : List (Vertex ℝ)) :
    length (a :: b :: rest) = a.distance b + length (b :: rest) := by
  rw [length_eq_sum, length_eq_sum]
  exact List.sum_cons

/-- A length is not negative. -/
theorem length_nonneg (path : List (Vertex ℝ)) : 0 ≤ length path := by
  rw [length_eq_sum]
  refine List.sum_nonneg fun d hd => ?_
  rw [segmentLengths, List.mem_iff_getElem] at hd
  obtain ⟨i, hi, rfl⟩ := hd
  rw [List.getElem_zipWith]
  exact distance_nonneg _ _

/-- A path that goes on from its last vertex is longer by the segment added. -/
theorem length_concat (path : List (Vertex ℝ)) (p q : Vertex ℝ) :
    length (path ++ [p, q]) = length (path ++ [p]) + p.distance q := by
  induction path with
  | nil => simp [length_cons_cons]
  | cons a path ih =>
    cases path with
    | nil => simp [length_cons_cons]
    | cons b path =>
      simp only [List.cons_append] at ih ⊢
      rw [length_cons_cons, length_cons_cons, ih, add_assoc]

/-! ### The stopping segment -/

/-- The arc length kept account of is that of the vertices passed, and the target lies on the
    stopping segment. -/
structure Reached (target : ℝ) (s : Stop ℝ) : Prop where
  travelled : s.travelled = length (s.first :: s.passed).reverse
  start : s.travelled ≤ target
  stop : target ≤ s.travelled + s.first.distance s.last

/-- Sampling stops in a segment on which the target lies. -/
theorem reached_stopFrom {target travelled : ℝ} {passed : List (Vertex ℝ)} {a b : Vertex ℝ}
    {rest : List (Vertex ℝ)} (htravelled : travelled = length (a :: passed).reverse)
    (hstart : travelled ≤ target) (hstop : target ≤ travelled + length (a :: b :: rest)) :
    Reached target (stopFrom target passed travelled a b rest) := by
  -- what has been travelled and what is left of the path together stay the same
  induction rest generalizing passed travelled a b with
  | nil =>
    rw [length_cons_cons, length_singleton, add_zero] at hstop
    exact ⟨htravelled, hstart, hstop⟩
  | cons c rest ih =>
    rw [stopFrom]
    by_cases hnext : target < travelled + a.distance b
    · rw [if_pos hnext]
      exact ⟨htravelled, hstart, hnext.le⟩
    · rw [if_neg hnext]
      refine ih ?_ (not_lt.mp hnext) ?_
      · rw [htravelled, List.reverse_cons, ← length_concat]
        simp
      · rwa [length_cons_cons, ← add_assoc] at hstop

/-- A target at the end of the path is reached in the last segment. -/
theorem last_stopFrom_of_length (passed : List (Vertex ℝ)) {target travelled : ℝ} {a b : Vertex ℝ}
    {rest : List (Vertex ℝ)} (htarget : target = travelled + length (a :: b :: rest)) :
    let stop := stopFrom target passed travelled a b rest
    stop.last = (b :: rest).getLast (List.cons_ne_nil b rest) ∧
      target = stop.travelled + stop.first.distance stop.last := by
  induction rest generalizing passed travelled a b with
  | nil =>
    rw [length_cons_cons, length_singleton, add_zero] at htarget
    exact ⟨rfl, htarget⟩
  | cons c rest ih =>
    rw [length_cons_cons, ← add_assoc] at htarget
    have hpass : ¬ target < travelled + a.distance b := by
      rw [htarget, not_lt]
      exact le_add_of_nonneg_right (length_nonneg _)
    simp only [stopFrom, if_neg hpass, List.getLast_cons_cons]
    exact ih (a :: passed) htarget

/-! ### The point reached -/

/-- Nothing is taken of a segment that is as good as empty. -/
theorem Stop.fraction_of_le {τ : Tolerances ℝ} {s : Stop ℝ} (target : ℝ)
    (h : s.first.distance s.last ≤ τ.denominator) : s.fraction τ target = 0 := by
  have habs : Numbers.abs (s.first.distance s.last) ≤ τ.denominator :=
    (abs_of_nonneg (distance_nonneg _ _)).trans_le h
  rw [Stop.fraction, quotientOr, if_pos habs]
  norm_num

/-- Of any other segment the share is taken that remains to the target. -/
theorem Stop.fraction_of_lt {τ : Tolerances ℝ} {s : Stop ℝ} (target : ℝ)
    (h : τ.denominator < s.first.distance s.last) :
    s.fraction τ target = (target - s.travelled) / s.first.distance s.last := by
  have habs : ¬ Numbers.abs (s.first.distance s.last) ≤ τ.denominator :=
    not_le.mpr (h.trans_le (abs_of_nonneg (distance_nonneg _ _)).ge)
  rw [Stop.fraction, quotientOr, if_neg habs]

/-- Where the target is the end of the stopping segment, that is where the sample ends, or it is as
    good as there. -/
theorem Stop.distance_point_le {τ : Tolerances ℝ} {s : Stop ℝ} {target : ℝ}
    (hτ : 0 ≤ τ.denominator) (hend : target = s.travelled + s.first.distance s.last) :
    (s.point τ target).distance s.last ≤ τ.denominator := by
  rcases le_or_gt (s.first.distance s.last) τ.denominator with hshort | hlong
  · rw [Stop.point, Stop.fraction_of_le target hshort, distance_lerp_last _ _ zero_le_one, sub_zero,
      one_mul]
    exact hshort
  · have hall : s.fraction τ target = 1 := by
      rw [Stop.fraction_of_lt target hlong, hend, add_sub_cancel_left,
        div_self (hτ.trans_lt hlong).ne']
    rw [Stop.point, hall, distance_lerp_last _ _ le_rfl, sub_self, zero_mul]
    exact hτ

namespace Reached

variable {τ : Tolerances ℝ} {target : ℝ} {s : Stop ℝ}

/-- The share that is taken of the stopping segment is between nothing and all. -/
theorem fraction_mem (h : Reached target s) (hτ : 0 ≤ τ.denominator) :
    0 ≤ s.fraction τ target ∧ s.fraction τ target ≤ 1 := by
  rcases le_or_gt (s.first.distance s.last) τ.denominator with hshort | hlong
  · rw [Stop.fraction_of_le target hshort]
    exact ⟨le_refl 0, zero_le_one⟩
  · have hpos := hτ.trans_lt hlong
    rw [Stop.fraction_of_lt target hlong, div_le_one hpos, sub_le_iff_le_add']
    exact ⟨div_nonneg (sub_nonneg.mpr h.start) hpos.le, h.stop⟩

/-- A sample is as long as what has been passed and the part of the stopping segment together. -/
theorem length_path (h : Reached target s) (hτ : 0 ≤ τ.denominator) :
    length (s.path τ target) = s.travelled + s.fraction τ target * s.first.distance s.last := by
  have hpath : s.path τ target = s.passed.reverse ++ [s.first, s.point τ target] := by
    simp [Stop.path]
  rw [hpath, length_concat, ← List.reverse_cons, ← h.travelled, Stop.point,
    distance_lerp _ _ (h.fraction_mem hτ).1]

/-- A sample that ends in a segment that is not as good as empty is as long as the target says. -/
theorem length_path_of_lt (h : Reached target s) (hτ : 0 ≤ τ.denominator)
    (hlong : τ.denominator < s.first.distance s.last) : length (s.path τ target) = target := by
  rw [h.length_path hτ, Stop.fraction_of_lt target hlong, div_mul_cancel₀ _ (hτ.trans_lt hlong).ne']
  exact add_sub_cancel _ _

/-- A sample is at most a segment that is as good as empty away from the target. -/
theorem abs_length_path_sub_le (h : Reached target s) (hτ : 0 ≤ τ.denominator) :
    |length (s.path τ target) - target| ≤ τ.denominator := by
  rcases le_or_gt (s.first.distance s.last) τ.denominator with hshort | hlong
  · rw [h.length_path hτ, Stop.fraction_of_le target hshort, zero_mul, add_zero, abs_sub_comm,
      abs_of_nonneg (sub_nonneg.mpr h.start), sub_le_iff_le_add']
    exact h.stop.trans (add_le_add_right hshort _)
  · rw [h.length_path_of_lt hτ hlong, sub_self, abs_zero]
    exact hτ

end Reached

/-! ### Samples -/

/-- A path admits the targets up to its end. -/
theorem admits_of_le_length {τ : Tolerances ℝ} (hτ : 0 ≤ τ.length) {length target : ℝ}
    (hlow : 0 ≤ target) (hhigh : target ≤ length) : admits τ length target = true := by
  have hnegative : ¬ target < 0.0 := by
    norm_num
    exact hlow
  have hpast : ¬ reach τ length < target := by
    have hscale : (0 : ℝ) ≤ if 1.0 ≤ length then length else 1.0 := by
      split
      · exact hlow.trans hhigh
      · norm_num
    rw [reach, not_lt]
    exact hhigh.trans (le_add_of_nonneg_right (mul_nonneg hτ hscale))
  have hfinite : Numbers.isFinite target = true := rfl
  simp [admits, hfinite, hnegative, hpast]

/-- A target on the path is admitted: the sample ends at the stop, or is the first vertex alone. -/
theorem sample_of_le_length {τ : Tolerances ℝ} (hτ : 0 ≤ τ.length) {a b : Vertex ℝ}
    {rest : List (Vertex ℝ)} {target : ℝ} (hlow : 0 ≤ target)
    (hhigh : target ≤ length (a :: b :: rest)) :
    sample τ (a :: b :: rest) target =
      .ok (if target = 0 then [a] else (stopFrom target [] 0.0 a b rest).path τ target) := by
  have hzero : (target == 0.0) = true ↔ target = 0 := by
    rw [beq_iff_eq]
    norm_num
  rw [sample, if_pos (admits_of_le_length hτ hlow hhigh)]
  by_cases h : target = 0
  · rw [if_pos h, if_pos (hzero.mpr h)]
  · rw [if_neg h, if_neg (mt hzero.mp h)]

/-- And the stop lies where the target is. -/
theorem reached_of_le_length {a b : Vertex ℝ} {rest : List (Vertex ℝ)} {target : ℝ}
    (hlow : 0 ≤ target) (hhigh : target ≤ length (a :: b :: rest)) :
    Reached target (stopFrom target [] 0.0 a b rest) := by
  have hstart : (0.0 : ℝ) = 0 := by norm_num
  refine reached_stopFrom ?_ (hstart ▸ hlow) ?_
  · rw [hstart, List.reverse_singleton, length_singleton]
  · rwa [hstart, zero_add]

/-- **Samples without rounding.**  Paths of the arena are sampled in the same way as paths with real
    coordinates.  Of these, whatever the tolerances, every path of at least two vertices has a
    sample at every target up to its length.  The sample is as long as the target, but for a segment
    that is as good as empty; it is exactly as long if the target is zero or the stopping segment is
    longer than the tolerance.  The sample at the whole length ends where the path does, or as good
    as there. -/
theorem length_sample_of_reals :
    (∀ (path : Path) (target : Float), sample arenaTolerances (path.map ofVertex) target =
      ((Geometry.sample path target).map (List.map ofVertex)).mapError ofFault) ∧
    ∀ τ : Tolerances ℝ, 0 ≤ τ.length → 0 ≤ τ.denominator →
      ∀ (a b : Vertex ℝ) (rest : List (Vertex ℝ)) (target : ℝ),
        let path := a :: b :: rest
        let stop := stopFrom target [] 0.0 a b rest
        0 ≤ target → target ≤ length path →
          ∃ out, sample τ path target = .ok out ∧ (target ≠ 0 → out = stop.path τ target) ∧
            |length out - target| ≤ τ.denominator ∧
            (target = 0 ∨ τ.denominator < stop.first.distance stop.last → length out = target) ∧
            (target = length path → 0 < target → ∃ p ∈ out.getLast?,
              p.distance (path.getLast (List.cons_ne_nil a _)) ≤ τ.denominator) := by
  refine ⟨sample_binary64, ?_⟩
  intro τ hτ hτ' a b rest target path stop hlow hhigh
  have hreached : Reached target stop := reached_of_le_length hlow hhigh
  refine ⟨_, sample_of_le_length hτ hlow hhigh, fun hne => if_neg hne, ?_, fun h => ?_,
    fun h hpos => ?_⟩
  · by_cases hzero : target = 0
    · rw [if_pos hzero, hzero, length_singleton, sub_self, abs_zero]
      exact hτ'
    · rw [if_neg hzero]
      exact hreached.abs_length_path_sub_le hτ'
  · by_cases hzero : target = 0
    · rw [if_pos hzero, hzero, length_singleton]
    · rw [if_neg hzero]
      exact hreached.length_path_of_lt hτ' (h.resolve_left hzero)
  · have htarget : target = 0.0 + length path := by
      rw [h]
      norm_num
    obtain ⟨hlast, hend⟩ := last_stopFrom_of_length [] htarget
    refine ⟨stop.point τ target, ?_, ?_⟩
    · rw [if_neg hpos.ne']
      simp [Stop.path, stop]
    · rw [List.getLast_cons_cons, ← hlast]
      exact stop.distance_point_le hτ' hend

/-- The whole of a path around a corner. -/
theorem length_sample_of_corner :
    let τ : Tolerances ℝ := ⟨1e-9, 1e-12⟩
    let path : List (Vertex ℝ) := [⟨0, 0⟩, ⟨3, 0⟩, ⟨3, 4⟩]
    0 ≤ τ.length ∧ 0 ≤ τ.denominator ∧ (0 : ℝ) ≤ 7 ∧ 7 = length path ∧
      ∃ out, sample τ path 7 = .ok out ∧ length out = 7 ∧
        ∃ p ∈ out.getLast?, p.distance ⟨3, 4⟩ ≤ 1e-12 := by
  intro τ path
  have hfirst : Vertex.distance (⟨0, 0⟩ : Vertex ℝ) ⟨3, 0⟩ = 3 := by
    rw [distance_eq, Real.sqrt_eq_iff_mul_self_eq] <;> norm_num
  have hsecond : Vertex.distance (⟨3, 0⟩ : Vertex ℝ) ⟨3, 4⟩ = 4 := by
    rw [distance_eq, Real.sqrt_eq_iff_mul_self_eq] <;> norm_num
  have hlength : 7 = length path := by
    rw [length_cons_cons, length_cons_cons, length_singleton, hfirst, hsecond]
    norm_num
  have hτ : 0 ≤ τ.length := by norm_num [τ]
  have hτ' : 0 ≤ τ.denominator := by norm_num [τ]
  have hlow : (0 : ℝ) ≤ 7 := by norm_num
  obtain ⟨out, hout, -, -, hexact, hlast⟩ :=
    length_sample_of_reals.2 τ hτ hτ' ⟨0, 0⟩ ⟨3, 0⟩ [⟨3, 4⟩] 7 hlow hlength.le
  have hpass : ¬ (7 : ℝ) < 0.0 + 3 := by norm_num
  have hlong : τ.denominator < 4 := by norm_num [τ]
  refine ⟨hτ, hτ', hlow, hlength, out, hout, hexact (.inr ?_), hlast hlength (by norm_num)⟩
  simp only [stopFrom, hfirst, if_neg hpass, hsecond]
  exact hlong

end NavScript.Geometry.Generic
