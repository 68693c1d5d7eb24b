import NavScript.Proofs.Binary64.Arithmetic
import NavScript.Geometry.ArcLength
import NavScript.Geometry.Trajectory

namespace NavScript.Geometry

open NavScript.Decimal NavScript.Binary64

/-!
# Sampling a path at the offset of a run

A run of a batch starts at its share of the path length.  The length is a sum of roundings, and so
are the arc lengths that sampling compares the offset with; since they are sums of the same numbers
in the same order, the offset is reached on a segment of the path, and no further along it than its
end.

* `offset_lt` — a run does not start at the end of a path
* `Reached`, `reached_stopFrom` — the segment that sampling stops in
* `Reached.fraction_mem` — the share of it that remains is between nothing and all
* `sample_offset` — a path can be sampled at the offset of every run
-/

/-! ### Lengths -/

/-- A distance has no minus. -/
theorem unsigned_distance (a b : Vertex) : Unsigned (a.distance b) :=
  ((unsigned_mul_self _).add (unsigned_mul_self _)).sqrt

/-- The sum of the segment lengths may be started at zero. -/
theorem length_eq_foldl (a b : Vertex) (rest : List Vertex) :
    length (a :: b :: rest) = (segmentLengths (b :: rest)).foldl (· + ·) (0.0 + a.distance b) := by
  change (segmentLengths (b :: rest)).foldl (· + ·) (-0.0 + a.distance b) = _
  rw [(unsigned_distance a b).neg_zero_add]

/-- A sum that ends finite began so. -/
theorem isFinite_of_foldl_add {ds : List Float} {sum : Float}
    (h : (ds.foldl (· + ·) sum).isFinite) : sum.isFinite := by
  induction ds generalizing sum with
  | nil => exact h
  | cons d ds ih => exact (isFinite_of_add (ih h)).1

/-- A sum of distances has no minus. -/
theorem unsigned_foldl_add {ds : List Float} {sum : Float} (hds : ∀ d ∈ ds, Unsigned d)
    (hsum : Unsigned sum) : Unsigned (ds.foldl (· + ·) sum) := by
  induction ds generalizing sum with
  | nil => exact hsum
  | cons d ds ih =>
    obtain ⟨hd, hds⟩ := List.forall_mem_cons.mp hds
    exact ih hds (hsum.add hd)

/-- A segment length is the distance of two vertices. -/
theorem exists_of_mem_segmentLengths {path : Path} {d : Float} (h : d ∈ segmentLengths path) :
    ∃ a b : Vertex, d = a.distance b := by
  rw [segmentLengths, List.mem_iff_getElem] at h
  obtain ⟨i, hi, rfl⟩ := h
  rw [List.getElem_zipWith]
  exact ⟨_, _, rfl⟩

/-- Nor have the lengths of segments. -/
theorem unsigned_of_mem_segmentLengths {path : Path} {d : Float} (h : d ∈ segmentLengths path) :
    Unsigned d := by
  obtain ⟨a, b, rfl⟩ := exists_of_mem_segmentLengths h
  exact unsigned_distance a b

/-- So the length of a path has none. -/
theorem unsigned_length (a b : Vertex) (rest : List Vertex) :
    Unsigned (length (a :: b :: rest)) := by
  rw [length_eq_foldl]
  exact unsigned_foldl_add (fun _ => unsigned_of_mem_segmentLengths)
    (unsigned_zero.add (unsigned_distance a b))

/-! ### The offset of a run -/

/-- The share of a batch that lies before a run is rounded. -/
theorem rounds_share {t : Trajectory} (ht : t.valid) (htotal : t.total < 2 ^ 32) :
    Rounds ((t.current - 1 : Nat) / t.total)
      (Float.ofNat (t.current - 1) / Float.ofNat t.total) := by
  obtain ⟨hfirst, hlast⟩ := t.valid_iff.mp ht
  obtain ⟨hc, hcurrent⟩ := value_ofNat (n := t.current - 1) (by omega)
  obtain ⟨hn, hvalue⟩ := value_ofNat (n := t.total) (by omega)
  have hne : (t.total : ℚ) ≠ 0 := by exact_mod_cast (by omega : t.total ≠ 0)
  have h := rounds_div hc hn (by rw [hvalue]; exact hne)
  rwa [hcurrent, hvalue] at h

/-- The share of a batch that lies before a run is less than one by at least `2 ^ -32`. -/
theorem share_bounds {t : Trajectory} (ht : t.valid) (htotal : t.total < 2 ^ 32) :
    let share := Float.ofNat (t.current - 1) / Float.ofNat t.total
    share.isFinite ∧ 0 ≤ value share ∧ value share ≤ 1 - 2 ^ (-32 : Int) := by
  intro share
  obtain ⟨hfirst, hlast⟩ := t.valid_iff.mp ht
  have hpos : (0 : ℚ) < t.total := by exact_mod_cast (by omega : 0 < t.total)
  have hrounds : Rounds ((t.current - 1 : Nat) / t.total) share := rounds_share ht htotal
  have hlow : (0 : ℚ) ≤ (t.current - 1 : Nat) / t.total := by positivity
  have hhigh : ((t.current - 1 : Nat) : ℚ) / t.total ≤ 1 - 2 ^ (-32 : Int) := by
    have hle : ((t.current - 1 : Nat) : ℚ) ≤ t.total - 1 := by
      rw [le_sub_iff_add_le]
      exact_mod_cast (by omega : t.current - 1 + 1 ≤ t.total)
    -- one of fewer than `2 ^ 32` runs is a share of more than `2 ^ -32`
    have hshort : (t.total : ℚ) * 2 ^ (-32 : Int) ≤ 1 := by
      have hlt : (t.total : ℚ) < 2 ^ 32 := by exact_mod_cast htotal
      rw [zpow_neg, ← div_eq_mul_inv, div_le_one (by positivity)]
      exact_mod_cast hlt.le
    rw [div_le_iff₀ hpos]
    linarith
  have hbound : Representable (1 - 2 ^ (-32 : Int)) :=
    ⟨2 ^ 32 - 1, -32, by decide, by decide, by decide, by norm_num⟩
  have hfinite := hrounds.isFinite representable_zero hbound hlow hhigh
  exact ⟨hfinite, hrounds.le_value hfinite representable_zero hlow,
    hrounds.value_le hfinite hbound hhigh⟩

/-- A run starts on the path. -/
theorem offset_bounds {t : Trajectory} (ht : t.valid) (htotal : t.total < 2 ^ 32) {length : Float}
    (hlength : length.isFinite) (hpos : 0 ≤ value length) :
    (t.offset length).isFinite ∧ 0 ≤ value (t.offset length) ∧
      value (t.offset length) ≤ value length := by
  obtain ⟨hshare, hlow, hhigh⟩ := share_bounds ht htotal
  have hrounds := rounds_mul hlength hshare
  have hle := mul_le_of_le_one_right hpos (hhigh.trans (sub_le_self 1 (by positivity)))
  have hfinite := hrounds.isFinite representable_zero (representable_value length)
    (mul_nonneg hpos hlow) hle
  exact ⟨hfinite, hrounds.le_value hfinite representable_zero (mul_nonneg hpos hlow),
    hrounds.value_le hfinite (representable_value length) hle⟩

/-- A positive number that is not subnormal has 53 digits. -/
theorem exists_mantissa {x : Float} (hx : x.isFinite) (h : 2 ^ (-1022 : Int) ≤ value x) :
    ∃ (m : Nat) (e : Int), 2 ^ 52 ≤ m ∧ m < 2 ^ 53 ∧ -1074 ≤ e ∧ e ≤ 971 ∧ value x = m * 2 ^ e := by
  have hpos : (0 : ℚ) < 2 ^ (-1022 : Int) := by positivity
  obtain ⟨s, -, hvalue⟩ | ⟨s, m, e, hc, -, htop, hvalue⟩ := unpack_of_isFinite hx
  · exact absurd (hvalue ▸ h) hpos.not_ge
  · have hmagnitude := hc.value_pos
    cases s with
    | negative =>
      rw [hvalue, signed, if_pos (by rfl)] at h
      linarith
    | positive =>
      rw [signed, if_neg (by decide)] at hvalue
      refine ⟨m, e, ?_, hc.small, hc.bottom, htop, hvalue⟩
      rcases hc.full with hfull | rfl
      · exact hfull
      · have hm : ((2 ^ 52 : Nat) : ℚ) * 2 ^ (-1074 : Int) ≤ m * 2 ^ (-1074 : Int) := by
          rw [← hvalue, Nat.cast_pow, Nat.cast_ofNat, ← zpow_natCast, ← zpow_add₀ (by norm_num)]
          exact h
        exact_mod_cast le_of_mul_le_mul_right hm (by positivity)

/-- No run starts at the end of a path. -/
theorem offset_lt {t : Trajectory} (ht : t.valid) (htotal : t.total < 2 ^ 32) {length : Float}
    (hlength : length.isFinite) (hlong : 2 ^ (-1022 : Int) ≤ value length) :
    value (t.offset length) < value length := by
  obtain ⟨hshare, hlow, hhigh⟩ := share_bounds ht htotal
  have hpos : (0 : ℚ) ≤ value length := le_trans (by positivity) hlong
  obtain ⟨hfinite, -, -⟩ := offset_bounds ht htotal hlength hpos
  obtain ⟨m, e, hfull, hsmall, hbottom, htop, hvalue⟩ := exists_mantissa hlength hlong
  have hunit : (0 : ℚ) < 2 ^ e := by positivity
  -- the number before the length is still above the product
  have hbefore : Representable (((m : Int) - 1 : Int) * 2 ^ e) :=
    ⟨m - 1, e, by rw [abs_lt]; omega, hbottom, htop, rfl⟩
  have hproduct : value length * value (Float.ofNat (t.current - 1) / Float.ofNat t.total) ≤
      ((m : Int) - 1 : Int) * 2 ^ e := by
    refine (mul_le_mul_of_nonneg_left hhigh hpos).trans ?_
    have hdigits : (1 : ℚ) ≤ m * 2 ^ (-32 : Int) := by
      have hm : (2 : ℚ) ^ 52 ≤ m := by exact_mod_cast hfull
      calc (1 : ℚ) ≤ 2 ^ 52 * 2 ^ (-32 : Int) := by norm_num
        _ ≤ m * 2 ^ (-32 : Int) := mul_le_mul_of_nonneg_right hm (by positivity)
    rw [hvalue, mul_right_comm, mul_one_sub]
    push_cast
    exact mul_le_mul_of_nonneg_right (by linarith) hunit.le
  refine ((rounds_mul hlength hshare).value_le hfinite hbefore hproduct).trans_lt ?_
  rw [hvalue]
  push_cast
  exact mul_lt_mul_of_pos_right (by linarith) hunit

/-! ### The stopping segment -/

/-- What is known of the segment that sampling stops in: the target is not before its start, and it
    is before its end unless that is the end of the path. -/
structure Reached (target total : Float) (s : Stop) : Prop where
  finite : (s.travelled + s.first.distance s.last).isFinite
  unsigned : Unsigned s.travelled
  start : value s.travelled ≤ value target
  stop : target < s.travelled + s.first.distance s.last ∨
    s.travelled + s.first.distance s.last = total

/-- The search for the stop ends where the target is reached, by induction on the vertices ahead:
    what has been travelled so far is below the target. -/
theorem reached_stopFrom {target travelled : Float} {passed : List Vertex} {a b : Vertex}
    {rest : List Vertex} {total : Float} (htarget : target.isFinite)
    (htotal : (segmentLengths (b :: rest)).foldl (· + ·) (travelled + a.distance b) = total)
    (hfinite : total.isFinite) (hunsigned : Unsigned travelled)
    (hstart : value travelled ≤ value target) :
    Reached target total (stopFrom target passed travelled a b rest) := by
  induction rest generalizing passed travelled a b with
  | nil =>
    subst htotal
    exact ⟨hfinite, hunsigned, hstart, .inr rfl⟩
  | cons c rest ih =>
    have hsum : (travelled + a.distance b).isFinite := isFinite_of_foldl_add (htotal ▸ hfinite)
    rw [stopFrom]
    split
    · rename_i hlt
      exact ⟨hsum, hunsigned, hstart, .inl hlt⟩
    · rename_i hlt
      rw [lt_iff_value htarget hsum, not_lt] at hlt
      -- the target is not before the end of this segment, from where the sum goes on
      exact ih htotal (hunsigned.add (unsigned_distance a b)) hlt

/-- The tolerance is a normal number. -/
theorem value_denominatorTolerance :
    denominatorTolerance.isFinite ∧ 2 ^ (-1022 : Int) ≤ value denominatorTolerance := by
  have hexact : exact denominatorTolerance = .finite false 4951760157141521 (-92) := by
    decide +kernel
  refine ⟨(isFinite_iff _).mpr ⟨_, _, _, hexact⟩, ?_⟩
  have hvalue : value denominatorTolerance = 4951760157141521 * 2 ^ (-92 : Int) := by
    rw [value, hexact]
    rfl
  rw [hvalue]
  calc (2 : ℚ) ^ (-1022 : Int) ≤ 2 ^ (-92 : Int) := zpow_le_zpow_right₀ (by norm_num) (by decide)
    _ ≤ 4951760157141521 * 2 ^ (-92 : Int) := le_mul_of_one_le_left (by positivity) (by norm_num)

/-- The share of the stopping segment that remains to the target. -/
theorem Reached.fraction_mem {target total : Float} {s : Stop} (h : Reached target total s)
    (htarget : target.isFinite)
    (hend : value denominatorTolerance < value total → value target < value total) :
    (s.fraction target).isFinite ∧ 0 ≤ value (s.fraction target) ∧
      value (s.fraction target) ≤ 1 := by
  have hunsigned := unsigned_distance s.first s.last
  obtain ⟨htravelled, hdistance⟩ := isFinite_of_add h.finite
  rw [Stop.fraction, quotientOr]
  split
  · rw [value_zero]
    exact ⟨isFinite_zero, le_refl _, zero_le_one⟩
  · rename_i hlong
    rw [le_iff_value (isFinite_abs.trans hdistance) value_denominatorTolerance.1, value_abs,
      abs_of_nonneg hunsigned.value_nonneg, not_le] at hlong
    have hpos : 0 < value (s.first.distance s.last) :=
      lt_of_lt_of_le (by positivity) (value_denominatorTolerance.2.trans hlong.le)
    -- the rounded sum is above the target, so the precise sum is
    have hbefore : value target < value (s.travelled + s.first.distance s.last) := by
      rcases h.stop with hlt | heq
      · exact (lt_iff_value htarget h.finite).mp hlt
      · rw [heq]
        refine hend (hlong.trans_le ?_)
        rw [← heq]
        exact (rounds_add htravelled hdistance).le_value h.finite (representable_value _)
          (le_add_of_nonneg_left h.unsigned.value_nonneg)
    have hprecise : value target < value s.travelled + value (s.first.distance s.last) := by
      by_contra hle
      exact hbefore.not_ge ((rounds_add htravelled hdistance).value_le h.finite
        (representable_value target) (not_lt.mp hle))
    -- what remains is not negative and at most the divisor, and rounding keeps it so
    have hremains := rounds_sub htarget htravelled
    have hlow : 0 ≤ value target - value s.travelled := sub_nonneg.mpr h.start
    have hhigh : value target - value s.travelled ≤ value (s.first.distance s.last) := by linarith
    have hr := hremains.isFinite representable_zero (representable_value _) hlow hhigh
    have hlow' := hremains.le_value hr representable_zero hlow
    have hhigh' := hremains.value_le hr (representable_value _) hhigh
    have hquotient := rounds_div hr hdistance hpos.ne'
    have hnonneg := div_nonneg hlow' hpos.le
    have hle_one := div_le_one_of_le₀ hhigh' hpos.le
    have hq := hquotient.isFinite representable_zero representable_one hnonneg hle_one
    exact ⟨hq, hquotient.le_value hq representable_zero hnonneg,
      hquotient.value_le hq representable_one hle_one⟩

/-! ### Sampling -/

/-- The tolerance for lengths is a finite number, and at most one. -/
theorem value_lengthTolerance :
    lengthTolerance.isFinite ∧ 0 ≤ value lengthTolerance ∧ value lengthTolerance ≤ 1 := by
  have hexact : exact lengthTolerance = .finite false 4835703278458517 (-82) := by decide +kernel
  have hvalue : value lengthTolerance = 4835703278458517 * 2 ^ (-82 : Int) := by
    rw [value, hexact]
    rfl
  rw [hvalue]
  exact ⟨(isFinite_iff _).mpr ⟨_, _, _, hexact⟩, by positivity, by norm_num⟩

/-- A path admits the targets that are not past its end. -/
theorem admits_of_le {length target : Float} (hlength : length.isFinite) (htarget : target.isFinite)
    (hlow : 0 ≤ value target) (hhigh : value target ≤ value length) : admits length target := by
  have hscale : (if 1.0 ≤ length then length else 1.0).isFinite ∧
      0 ≤ value (if 1.0 ≤ length then length else 1.0) := by
    split
    · exact ⟨hlength, hlow.trans hhigh⟩
    · exact ⟨isFinite_one, value_one ▸ zero_le_one⟩
  obtain ⟨htolerance, hpos, hsmall⟩ := value_lengthTolerance
  have hproduct := rounds_mul htolerance hscale.1
  have hslack := hproduct.isFinite representable_zero (representable_value _)
    (mul_nonneg hpos hscale.2) (mul_le_of_le_one_left hscale.2 hsmall)
  -- the sum may be infinite, so it is its place that is compared
  have hreach := (rounds_add hlength hslack).floor _ (representable_value length)
    (le_add_of_nonneg_right
      (hproduct.le_value hslack representable_zero (mul_nonneg hpos hscale.2)))
  have hnegative : ¬ target < 0.0 := by
    rw [lt_iff_value htarget isFinite_zero, value_zero, not_lt]
    exact hlow
  have hpast : ¬ reach length < target := by
    rw [lt_iff, place_eq_value htarget]
    exact fun h => ((onLine_le.mpr hhigh).trans hreach).not_gt h.2.2
  simp [admits, htarget, hnegative, hpast]

/-- The stopping segment at the offset of a run. -/
theorem reached_offset {a b : Vertex} {rest : List Vertex} {t : Trajectory} (ht : t.valid)
    (htotal : t.total < 2 ^ 32) (hlength : (length (a :: b :: rest)).isFinite) :
    Reached (t.offset (length (a :: b :: rest))) (length (a :: b :: rest))
      (stopFrom (t.offset (length (a :: b :: rest))) [] 0.0 a b rest) := by
  obtain ⟨hfinite, hlow, -⟩ :=
    offset_bounds ht htotal hlength (unsigned_length a b rest).value_nonneg
  exact reached_stopFrom hfinite (length_eq_foldl a b rest).symm hlength unsigned_zero
    (value_zero ▸ hlow)

/-- **Every run has a start.**  A path of at least two vertices and of finite length can be sampled
    at the offset of every run, and what remains of the stopping segment is a share between nothing
    and all of it. -/
theorem sample_offset (a b : Vertex) (rest : List Vertex) (t : Trajectory) (ht : t.valid)
    (htotal : t.total < 2 ^ 32) (hlength : (length (a :: b :: rest)).isFinite) :
    let target := t.offset (length (a :: b :: rest))
    let stop := stopFrom target [] 0.0 a b rest
    sample (a :: b :: rest) target = .ok (if target == 0.0 then [a] else stop.path target) ∧
      0.0 ≤ stop.fraction target ∧ stop.fraction target ≤ 1.0 := by
  intro target stop
  obtain ⟨hfinite, hlow, hhigh⟩ :=
    offset_bounds ht htotal hlength (unsigned_length a b rest).value_nonneg
  have hadmits := admits_of_le hlength hfinite hlow hhigh
  obtain ⟨hf, hf0, hf1⟩ := (reached_offset ht htotal hlength).fraction_mem hfinite fun hlong =>
    offset_lt ht htotal hlength (value_denominatorTolerance.2.trans hlong.le)
  refine ⟨?_, ?_, ?_⟩
  · rw [sample, if_pos hadmits]
    split <;> rfl
  · rwa [le_iff_value isFinite_zero hf, value_zero]
  · rwa [le_iff_value hf isFinite_one, value_one]

/-- The last of four runs starts on the second side of a corner, past a vertex that is given
    twice. -/
theorem sample_offset_of_corner :
    let run : Trajectory := ⟨4, 4⟩
    let path : Path := [⟨0.0, 0.0⟩, ⟨3.0, 0.0⟩, ⟨3.0, 0.0⟩, ⟨3.0, 4.0⟩]
    let target := run.offset (length path)
    let stop := stopFrom target [] 0.0 ⟨0.0, 0.0⟩ ⟨3.0, 0.0⟩ [⟨3.0, 0.0⟩, ⟨3.0, 4.0⟩]
    run.valid ∧ run.total < 2 ^ 32 ∧ (length path).isFinite ∧ target == 5.25 ∧
      sample path target = .ok (stop.path target) ∧ stop.fraction target == 0.5625 ∧
      0.0 ≤ stop.fraction target ∧ stop.fraction target ≤ 1.0 := by
  intro run path target stop
  have hvalid : run.valid := by decide
  have htotal : run.total < 2 ^ 32 := by decide
  have hlength : (length path).isFinite := by decide +kernel
  obtain ⟨hsample, hlow, hhigh⟩ := sample_offset _ _ _ run hvalid htotal hlength
  have htarget : ¬ (target == 0.0) := by decide +kernel
  rw [if_neg htarget] at hsample
  exact ⟨hvalid, htotal, hlength, by decide +kernel, hsample, by decide +kernel, hlow, hhigh⟩

/-! ### The sampled path -/

/-- Both coordinates of a vertex are finite and at most `2 ^ k` away from zero. -/
structure Vertex.Within (k : Int) (v : Vertex) : Prop where
  x : Binary64.Within k v.x
  y : Binary64.Within k v.y

/-- A bound on a vertex can be widened. -/
theorem Vertex.Within.mono {k l : Int} {v : Vertex} (h : v.Within k) (hkl : k ≤ l) : v.Within l :=
  ⟨h.x.mono hkl, h.y.mono hkl⟩

/-- A point between two vertices is not much further away than they are. -/
theorem Vertex.Within.lerp {k : Int} {a b : Vertex} {fraction : Float} (ha : a.Within k)
    (hb : b.Within k) (hlow : -1074 ≤ k) (hhigh : k < 1022) (hf : fraction.isFinite)
    (hf0 : 0 ≤ value fraction) (hf1 : value fraction ≤ 1) :
    (a.lerp b fraction).Within (k + 2) := by
  have coordinate : ∀ {x y : Float}, Binary64.Within k x → Binary64.Within k y →
      Binary64.Within (k + 2) (x + (y - x) * fraction) := by
    intro x y hx hy
    have hstep := (hy.sub hx hlow (by omega)).mul_share hf hf0 hf1 (by omega) (by omega)
    have hsum := (hx.mono (by omega)).add hstep (by omega) (by omega)
    rwa [add_assoc, one_add_one_eq_two] at hsum
  exact ⟨coordinate ha.x hb.x, coordinate ha.y hb.y⟩

/-- A part of a path has a vertex. -/
theorem exists_cons_of_sample {path out : Path} {target : Float}
    (h : sample path target = .ok out) :
    ∃ a rest, out = a :: rest := by
  unfold sample at h
  split at h
  · split at h
    · split at h
      · exact ⟨_, [], (Except.ok.inj h).symm⟩
      · refine List.exists_cons_of_length_pos ?_
        rw [← Except.ok.inj h]
        simp [Stop.path]
    · cases h
  · cases h

/-- The ends of the stopping segment, and the vertices before it, are vertices of the path. -/
theorem mem_of_mem_stopFrom {target travelled : Float} {passed : List Vertex} {a b : Vertex}
    {rest : List Vertex} {v : Vertex}
    (h : v = (stopFrom target passed travelled a b rest).first ∨
      v = (stopFrom target passed travelled a b rest).last ∨
      v ∈ (stopFrom target passed travelled a b rest).passed) :
    v ∈ passed ∨ v ∈ a :: b :: rest := by
  induction rest generalizing passed travelled a b with
  | nil =>
    rcases h with rfl | rfl | h
    · exact .inr (by simp)
    · exact .inr (by simp)
    · exact .inl h
  | cons c rest ih =>
    rw [stopFrom] at h
    split at h
    · rcases h with rfl | rfl | h
      · exact .inr (by simp)
      · exact .inr (by simp)
      · exact .inl h
    · rcases ih h with h | h
      · rcases List.mem_cons.mp h with rfl | h
        · exact .inr (by simp)
        · exact .inl h
      · exact .inr (List.mem_cons_of_mem _ h)

/-- Whatever a path is sampled to at the offset of a run is finite if the path is. -/
theorem within_of_sample_offset {k : Int} {path out : Path} {t : Trajectory} (hlow : -1074 ≤ k)
    (hhigh : k < 1022) (hpath : ∀ v ∈ path, v.Within k) (ht : t.valid) (htotal : t.total < 2 ^ 32)
    (h : sample path (t.offset (length path)) = .ok out) : ∀ v ∈ out, v.Within (k + 2) := by
  match path, hpath, h with
  | a :: b :: rest, hpath, h =>
    rw [sample] at h
    split at h
    · rename_i hadmits
      simp only [admits, Bool.and_eq_true] at hadmits
      -- the offset is a multiple of the length, so the length is finite if it is
      obtain ⟨hlength, -⟩ := isFinite_of_mul hadmits.1.1
      obtain ⟨hf, hf0, hf1⟩ := (reached_offset ht htotal hlength).fraction_mem hadmits.1.1
        fun hlong => offset_lt ht htotal hlength (value_denominatorTolerance.2.trans hlong.le)
      have hvertex : ∀ v,
          v = (stopFrom (t.offset (length (a :: b :: rest))) [] 0.0 a b rest).first ∨
          v = (stopFrom (t.offset (length (a :: b :: rest))) [] 0.0 a b rest).last ∨
          v ∈ (stopFrom (t.offset (length (a :: b :: rest))) [] 0.0 a b rest).passed →
          v.Within k :=
        fun v hv => hpath v ((mem_of_mem_stopFrom hv).resolve_left List.not_mem_nil)
      split at h
      · obtain rfl : [a] = out := Except.ok.inj h
        intro v hv
        rw [List.mem_singleton.mp hv]
        exact (hpath a (by simp)).mono (by omega)
      · obtain rfl := Except.ok.inj h
        intro v hv
        rw [Stop.path, List.mem_reverse, List.mem_cons, List.mem_cons] at hv
        rcases hv with rfl | rfl | hv
        · exact (hvertex _ (.inl rfl)).lerp (hvertex _ (.inr (.inl rfl))) hlow hhigh hf hf0 hf1
        · exact (hvertex _ (.inl rfl)).mono (by omega)
        · exact (hvertex v (.inr (.inr hv))).mono (by omega)
    · cases h
  | [], _, h => cases h
  | [a], _, h => cases h

end NavScript.Geometry
