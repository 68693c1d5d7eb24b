import NavScript.Proofs.Binary64.SquareRoot
import NavScript.Proofs.Geometry.ArcLength

namespace NavScript.Geometry

open NavScript.Decimal NavScript.Binary64

/-!
# The runs of a batch along a path

The shares of two runs of a batch differ by more than rounding takes away, and a path length that is
not zero is far above the numbers that lack digits.  So of two runs the later one starts strictly
further along the path, and its sample passes every vertex that the sample of the earlier one does.

* `appreciable_length` — a path length is zero or the root of a positive number
* `offset_lt_offset`, `offset_of_first` — the later run starts further along, the first not at all
* `offset_eq_zero_iff` — the runs that start where the path does
* `Stop.covered`, `exists_covered_stopFrom`, `covered_stopFrom_isPrefix` — the vertices that
  sampling passes
* `sample_offset_eq`, `covered_stop_isPrefix` — the sample of a run, and what it has in common with
  that of a later one
-/

/-! ### Lengths -/

/-- A distance is appreciable, being a root. -/
theorem appreciable_distance (a b : Vertex) : Appreciable (a.distance b) :=
  appreciable_sqrt ((unsigned_mul_self _).add (unsigned_mul_self _))

/-- So is a finite sum of distances. -/
theorem appreciable_foldl_add {ds : List Float} {sum : Float} (hds : ∀ d ∈ ds, Appreciable d)
    (hsum : Appreciable sum) (h : (ds.foldl (· + ·) sum).isFinite) :
    Appreciable (ds.foldl (· + ·) sum) := by
  induction ds generalizing sum with
  | nil => exact hsum
  | cons d ds ih =>
    obtain ⟨hd, hds⟩ := List.forall_mem_cons.mp hds
    exact ih hds (hsum.add hd (isFinite_of_foldl_add h)) h

/-- The length of a path is zero or far above the numbers that have less than 53 digits. -/
theorem appreciable_length {a b : Vertex} {rest : List Vertex}
    (h : (length (a :: b :: rest)).isFinite) : Appreciable (length (a :: b :: rest)) := by
  rw [length_eq_foldl] at h ⊢
  have hsegments : ∀ d ∈ segmentLengths (b :: rest), Appreciable d := by
    intro d hd
    obtain ⟨p, q, rfl⟩ := exists_of_mem_segmentLengths hd
    exact appreciable_distance p q
  have hzero : Appreciable 0.0 := .inl value_zero
  exact appreciable_foldl_add hsegments
    (hzero.add (appreciable_distance a b) (isFinite_of_foldl_add h)) h

/-! ### Offsets -/

/-- The share of a batch that lies before a run. -/
def Trajectory.share (t : Trajectory) : Float :=
  Float.ofNat (t.current - 1) / Float.ofNat t.total

/-- A share of a batch is rounded by less than `2 ^ -52`. -/
theorem abs_share_sub_lt {t : Trajectory} (ht : t.valid) (htotal : t.total < 2 ^ 32) :
    |value t.share - (t.current - 1 : Nat) / t.total| < 2 ^ (-52 : Int) := by
  obtain ⟨hfirst, hlast⟩ := t.valid_iff.mp ht
  obtain ⟨hshare, -, -⟩ := share_bounds ht htotal
  have hpos : (0 : ℚ) < t.total := by exact_mod_cast (by omega : 0 < t.total)
  refine (rounds_share ht htotal).abs_sub_lt hshare (by decide) (by decide) ?_
  have hle : ((t.current - 1 : Nat) : ℚ) ≤ t.total := by
    exact_mod_cast (by omega : t.current - 1 ≤ t.total)
  rw [abs_of_nonneg (by positivity)]
  exact (div_le_one_of_le₀ hle hpos.le).trans (by norm_num)

/-- The share of a later run of the batch is greater by almost `2 ^ -32`. -/
theorem share_add_lt {t u : Trajectory} (ht : t.valid) (hu : u.valid) (hbatch : t.total = u.total)
    (htotal : u.total < 2 ^ 32) (h : t.current < u.current) :
    value t.share + 2 ^ (-33 : Int) < value u.share := by
  obtain ⟨hfirst, -⟩ := t.valid_iff.mp ht
  obtain ⟨-, hlast⟩ := u.valid_iff.mp hu
  obtain ⟨-, hearlier⟩ := abs_lt.mp (abs_share_sub_lt ht (hbatch ▸ htotal))
  obtain ⟨hlater, -⟩ := abs_lt.mp (abs_share_sub_lt hu htotal)
  have hpos : (0 : ℚ) < u.total := by exact_mod_cast (by omega : 0 < u.total)
  -- one run of fewer than `2 ^ 32` lies between the precise shares
  have hone : (2 : ℚ) ^ (-32 : Int) ≤ 1 / u.total := by
    have hlt : (u.total : ℚ) < 2 ^ 32 := by exact_mod_cast htotal
    rw [zpow_neg, inv_eq_one_div]
    exact one_div_le_one_div_of_le hpos (by exact_mod_cast hlt.le)
  have hgap :
      ((t.current - 1 : Nat) : ℚ) / t.total + 1 / u.total ≤ (u.current - 1 : Nat) / u.total := by
    rw [hbatch, ← add_div]
    refine div_le_div_of_nonneg_right ?_ hpos.le
    exact_mod_cast (by omega : t.current - 1 + 1 ≤ u.current - 1)
  have hsmall : 2 ^ (-33 : Int) + 2 ^ (-52 : Int) + 2 ^ (-52 : Int) < (2 : ℚ) ^ (-32 : Int) := by
    norm_num
  calc value t.share + 2 ^ (-33 : Int)
      < (t.current - 1 : Nat) / t.total + 2 ^ (-52 : Int) + 2 ^ (-33 : Int) := by
        exact add_lt_add_left (sub_lt_iff_lt_add'.mp hearlier) _
    _ ≤ (t.current - 1 : Nat) / t.total + 1 / u.total - 2 ^ (-52 : Int) := by linarith
    _ ≤ (u.current - 1 : Nat) / u.total - 2 ^ (-52 : Int) := sub_le_sub_right hgap _
    _ < value u.share := by linarith

/-- The precise product of a length and a share is rounded by less than a unit of the length. -/
theorem abs_offset_sub_lt {t : Trajectory} (ht : t.valid) (htotal : t.total < 2 ^ 32)
    {length : Float} (hlength : length.isFinite) {m : Nat} {e : Int} (hsmall : m < 2 ^ 53)
    (hbottom : -1074 ≤ e) (htop : e ≤ 971) (hvalue : value length = m * 2 ^ e) :
    |value (t.offset length) - value length * value t.share| < 2 ^ e := by
  obtain ⟨hshare, hlow, hhigh⟩ := share_bounds ht htotal
  have hpos : 0 ≤ value length := hvalue ▸ by positivity
  obtain ⟨hfinite, -, -⟩ := offset_bounds ht htotal hlength hpos
  refine (rounds_mul hlength hshare).abs_sub_lt hfinite hbottom htop ?_
  rw [abs_of_nonneg (mul_nonneg hpos hlow)]
  refine (mul_le_of_le_one_right hpos (hhigh.trans (sub_le_self 1 (by positivity)))).trans ?_
  rw [hvalue]
  exact mul_le_mul_of_nonneg_right (by exact_mod_cast (by omega : (m : Int) ≤ 2 ^ 53 - 1))
    (by positivity)

/-- Of two runs of a batch the later one starts further along the path. -/
theorem offset_lt_offset {t u : Trajectory} (ht : t.valid) (hu : u.valid)
    (hbatch : t.total = u.total) (htotal : u.total < 2 ^ 32) (h : t.current < u.current)
    {length : Float} (hlength : length.isFinite) (hlong : 2 ^ (-1022 : Int) ≤ value length) :
    value (t.offset length) < value (u.offset length) := by
  obtain ⟨m, e, hfull, hsmall, hbottom, htop, hvalue⟩ := exists_mantissa hlength hlong
  have hunit : (0 : ℚ) < 2 ^ e := by positivity
  obtain ⟨-, hearlier⟩ :=
    abs_lt.mp (abs_offset_sub_lt ht (hbatch ▸ htotal) hlength hsmall hbottom htop hvalue)
  obtain ⟨hlater, -⟩ :=
    abs_lt.mp (abs_offset_sub_lt hu htotal hlength hsmall hbottom htop hvalue)
  have hpos : 0 < value length := lt_of_lt_of_le (by positivity) hlong
  -- the difference of the shares is worth more units than the two roundings take away
  have hunits : 2 * 2 ^ e ≤ value length * 2 ^ (-33 : Int) := by
    have hm : (2 : ℚ) ^ 52 ≤ m := by exact_mod_cast hfull
    rw [hvalue, mul_right_comm]
    refine mul_le_mul_of_nonneg_right ?_ hunit.le
    calc (2 : ℚ) ≤ 2 ^ 52 * 2 ^ (-33 : Int) := by norm_num
      _ ≤ m * 2 ^ (-33 : Int) := mul_le_mul_of_nonneg_right hm (by positivity)
  have hproducts := mul_lt_mul_of_pos_left (share_add_lt ht hu hbatch htotal h) hpos
  rw [mul_add] at hproducts
  calc value (t.offset length) < value length * value t.share + 2 ^ e :=
        sub_lt_iff_lt_add'.mp hearlier
    _ ≤ value length * value u.share - 2 ^ e := by linarith
    _ < value (u.offset length) := by linarith

/-- The first run of a batch starts where the path does. -/
theorem offset_of_first {t : Trajectory} (htotal : 1 ≤ t.total ∧ t.total < 2 ^ 32)
    (hfirst : t.current = 1) {length : Float} (hlength : length.isFinite) :
    value (t.offset length) = 0 := by
  have hquotient := rounds_share (t.valid_iff.mpr ⟨hfirst.ge, hfirst.trans_le htotal.1⟩) htotal.2
  rw [hfirst, Nat.sub_self, Nat.cast_zero, zero_div] at hquotient
  obtain ⟨hshare, hshare0⟩ := hquotient.value_eq representable_zero
  have hproduct := rounds_mul hlength hshare
  rw [hshare0, mul_zero] at hproduct
  rw [Trajectory.offset, hfirst, Nat.sub_self]
  exact (hproduct.value_eq representable_zero).2

/-- The runs that start where the path does: the first of a batch, and all on a path without
    length. -/
theorem offset_eq_zero_iff {t : Trajectory} (ht : t.valid) (htotal : t.total < 2 ^ 32)
    {length : Float} (hlength : length.isFinite) (hlong : Appreciable length) :
    value (t.offset length) = 0 ↔ t.current = 1 ∨ value length = 0 := by
  obtain ⟨hfirst, hlast⟩ := t.valid_iff.mp ht
  obtain ⟨hshare, -, -⟩ := share_bounds ht htotal
  have hproduct := rounds_mul hlength hshare
  constructor
  · intro hzero
    refine or_iff_not_imp_left.mpr fun hne => by_contra fun hnonzero => ?_
    have hnormal : 2 ^ (-1022 : Int) ≤ value length :=
      (zpow_le_zpow_right₀ (by norm_num) (by decide)).trans (hlong.resolve_left hnonzero)
    -- the first run of the batch starts before this one
    have hone : (⟨1, t.total⟩ : Trajectory).valid :=
      (Trajectory.valid_iff _).mpr ⟨le_refl 1, hfirst.trans hlast⟩
    have hlt := offset_lt_offset hone ht rfl htotal (show 1 < t.current by omega) hlength hnormal
    obtain ⟨-, hlow, -⟩ :=
      offset_bounds hone htotal hlength (le_trans (by positivity) hnormal)
    linarith
  · rintro (hcurrent | hzero)
    · exact offset_of_first ⟨hfirst.trans hlast, htotal⟩ hcurrent hlength
    · rw [hzero, zero_mul] at hproduct
      exact (hproduct.value_eq representable_zero).2

/-- A later run of a batch does not start before an earlier one. -/
theorem offset_le_offset {t u : Trajectory} (ht : t.valid) (hu : u.valid)
    (hbatch : t.total = u.total) (htotal : u.total < 2 ^ 32) (h : t.current ≤ u.current)
    {length : Float} (hlength : length.isFinite) (hlong : Appreciable length) :
    value (t.offset length) ≤ value (u.offset length) := by
  rcases hlong with hzero | hlong
  · have hstart : ∀ r : Trajectory, r.valid → r.total < 2 ^ 32 → value (r.offset length) = 0 :=
      fun r hr hbound => (offset_eq_zero_iff hr hbound hlength (.inl hzero)).mpr (.inr hzero)
    rw [hstart t ht (hbatch ▸ htotal), hstart u hu htotal]
  · rcases h.lt_or_eq with hlt | heq
    · exact (offset_lt_offset ht hu hbatch htotal hlt hlength
        ((zpow_le_zpow_right₀ (by norm_num) (by decide)).trans hlong)).le
    · rw [Trajectory.offset, Trajectory.offset, heq, hbatch]

/-! ### The vertices that sampling passes -/

/-- The vertices up to the start of the stopping segment. -/
def Stop.covered (s : Stop) : List Vertex :=
  (s.first :: s.passed).reverse

/-- The part of a path that ends at a stop: the vertices covered and the point of the stop. -/
theorem Stop.path_eq (s : Stop) (target : Float) :
    s.path target = s.covered ++ [s.point target] := by
  simp [Stop.path, Stop.covered]

/-- What sampling passes is the path up to one of its vertices, and not the last one. -/
theorem exists_covered_stopFrom (target : Float) (passed : List Vertex) (travelled : Float)
    (a b : Vertex) (rest : List Vertex) :
    ∃ k ≤ rest.length, (stopFrom target passed travelled a b rest).covered =
      passed.reverse ++ (a :: b :: rest).take (k + 1) := by
  induction rest generalizing passed travelled a b with
  | nil => exact ⟨0, le_refl 0, by simp [stopFrom, Stop.covered]⟩
  | cons c rest ih =>
    rw [stopFrom]
    split
    · exact ⟨0, Nat.zero_le _, by simp [Stop.covered]⟩
    · obtain ⟨k, hk, hcovered⟩ := ih (a :: passed) (travelled + a.distance b) b c
      exact ⟨k + 1, Nat.succ_le_succ hk, by rw [hcovered]; simp⟩

/-- What is passed on the way to a target is passed on the way to one that is further along. -/
theorem covered_stopFrom_isPrefix {target further : Float} (htarget : target.isFinite)
    (hfurther : further.isFinite) (h : value target ≤ value further) (passed : List Vertex)
    (travelled : Float) (a b : Vertex) (rest : List Vertex) :
    (stopFrom target passed travelled a b rest).covered <+:
      (stopFrom further passed travelled a b rest).covered := by
  induction rest generalizing passed travelled a b with
  | nil => exact List.prefix_refl _
  | cons c rest ih =>
    rw [stopFrom, stopFrom]
    by_cases hstop : target < travelled + a.distance b
    · rw [if_pos hstop]
      split
      · exact List.prefix_refl _
      · obtain ⟨k, -, hcovered⟩ :=
          exists_covered_stopFrom further (a :: passed) (travelled + a.distance b) b c rest
        rw [hcovered]
        exact List.prefix_append _ _
    · -- the end of this segment is not beyond the nearer target, so not beyond the other one
      have hpass : ¬ further < travelled + a.distance b := by
        rw [lt_iff, place_eq_value hfurther]
        rw [lt_iff, place_eq_value htarget] at hstop
        exact fun hlt => hstop
          ⟨ne_nan_of_isFinite htarget, hlt.2.1, (onLine_le.mpr h).trans_lt hlt.2.2⟩
      rw [if_neg hstop, if_neg hpass]
      exact ih (a :: passed) (travelled + a.distance b) b c

/-! ### Samples -/

/-- A path of finite length admits the offset of every run. -/
theorem admits_offset {a b : Vertex} {rest : List Vertex} {t : Trajectory} (ht : t.valid)
    (htotal : t.total < 2 ^ 32) (hlength : (length (a :: b :: rest)).isFinite) :
    admits (length (a :: b :: rest)) (t.offset (length (a :: b :: rest))) := by
  obtain ⟨hfinite, hlow, hhigh⟩ :=
    offset_bounds ht htotal hlength (unsigned_length a b rest).value_nonneg
  exact admits_of_le hlength hfinite hlow hhigh

/-- On a path of finite length every run starts at a finite arc length. -/
theorem isFinite_offset {a b : Vertex} {rest : List Vertex} {t : Trajectory} (ht : t.valid)
    (htotal : t.total < 2 ^ 32) (hlength : (length (a :: b :: rest)).isFinite) :
    (t.offset (length (a :: b :: rest))).isFinite :=
  (offset_bounds ht htotal hlength (unsigned_length a b rest).value_nonneg).1

/-- The segment in which a run starts. -/
def Trajectory.stop (t : Trajectory) (a b : Vertex) (rest : List Vertex) : Stop :=
  stopFrom (t.offset (length (a :: b :: rest))) [] 0.0 a b rest

/-- A run starts where the path does if it is the first of its batch or the path has no length; the
    sample of any other run is that of its stopping segment. -/
theorem sample_offset_eq {a b : Vertex} {rest : List Vertex} {t : Trajectory} (ht : t.valid)
    (htotal : t.total < 2 ^ 32) (hlength : (length (a :: b :: rest)).isFinite) :
    sample (a :: b :: rest) (t.offset (length (a :: b :: rest))) =
      .ok (if t.current = 1 ∨ (length (a :: b :: rest) == 0.0) = true then [a]
        else (t.stop a b rest).path (t.offset (length (a :: b :: rest)))) := by
  have hzero : (t.offset (length (a :: b :: rest)) == 0.0) = true ↔
      t.current = 1 ∨ (length (a :: b :: rest) == 0.0) = true := by
    rw [beq_zero_iff (isFinite_offset ht htotal hlength), beq_zero_iff hlength]
    exact offset_eq_zero_iff ht htotal hlength (appreciable_length hlength)
  rw [sample, if_pos (admits_offset ht htotal hlength)]
  by_cases h : t.current = 1 ∨ (length (a :: b :: rest) == 0.0) = true
  · rw [if_pos h, if_pos (hzero.mpr h)]
  · rw [if_neg h, if_neg (mt hzero.mp h), Trajectory.stop]

/-- Some of the vertices are passed on the way to the start of a run, but not the last. -/
theorem exists_covered_stop (t : Trajectory) (a b : Vertex) (rest : List Vertex) :
    ∃ k ≤ rest.length, (t.stop a b rest).covered = (a :: b :: rest).take (k + 1) := by
  simpa [Trajectory.stop] using
    exists_covered_stopFrom (t.offset (length (a :: b :: rest))) [] 0.0 a b rest

/-- What is passed on the way to the start of a run is passed on the way to that of a later one. -/
theorem covered_stop_isPrefix {a b : Vertex} {rest : List Vertex} {t u : Trajectory} (ht : t.valid)
    (hu : u.valid) (hbatch : t.total = u.total) (htotal : u.total < 2 ^ 32)
    (h : t.current ≤ u.current) (hlength : (length (a :: b :: rest)).isFinite) :
    (t.stop a b rest).covered <+: (u.stop a b rest).covered := by
  have hle := offset_le_offset ht hu hbatch htotal h hlength (appreciable_length hlength)
  exact covered_stopFrom_isPrefix (isFinite_offset ht (hbatch ▸ htotal) hlength)
    (isFinite_offset hu htotal hlength) hle [] 0.0 a b rest

end NavScript.Geometry
