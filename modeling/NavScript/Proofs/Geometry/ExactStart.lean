import NavScript.Proofs.Geometry.FullLength

namespace NavScript.Geometry

open NavScript.Decimal NavScript.Binary64

/-!
# Runs that start at a representable number

A run starts at the length times its share of the batch, and the share is rounded first.  Where the
precise start is a representable number the offset may miss it, but only by going to the next
representable number, and it does not miss it if the share has a power of two for denominator.  A
path with a vertex at the precise start is cut there unless the offset is too low.

* `Trajectory.preciseStart`, `Trajectory.offsetByProduct` — the precise start, and the offset with
  the product taken first
* `abs_share_sub_le`, `value_share_of_dvd` — how far a share is rounded, and shares that are not
* `value_arcLengthTo_le` — arc lengths do not decrease along a path
* `take_isPrefix_sample_iff` — the vertices that the sample of a run has
* `offset_of_representable_start` — the offset of a run whose precise start is representable
-/

/-! ### Precise starts -/

/-- The start of a run along a path of the given length, without any rounding. -/
def Trajectory.preciseStart (t : Trajectory) (length : Float) : ℚ :=
  value length * (t.current - 1 : Nat) / t.total

/-- The start of a run with the product taken before the quotient. -/
def Trajectory.offsetByProduct (t : Trajectory) (length : Float) : Float :=
  length * Float.ofNat (t.current - 1) / Float.ofNat t.total

theorem preciseStart_eq_mul (t : Trajectory) (length : Float) :
    t.preciseStart length = value length * ((t.current - 1 : Nat) / t.total) :=
  mul_div_assoc _ _ _

section

variable {t : Trajectory} (ht : t.valid) (htotal : t.total < 2 ^ 32)

include ht htotal

/-- A share of a batch is rounded by a share of at most `2 ^ -53`. -/
theorem abs_share_sub_le :
    |value t.share - (t.current - 1 : Nat) / t.total| ≤
      2 ^ (-53 : Int) * ((t.current - 1 : Nat) / t.total) := by
  obtain ⟨hfirst, hlast⟩ := t.valid_iff.mp ht
  obtain ⟨hshare, -, -⟩ := share_bounds ht htotal
  rcases Nat.eq_zero_or_pos (t.current - 1) with hzero | hlater
  · -- the share of the first run is precise
    have hrounds := rounds_share ht htotal
    rw [hzero, Nat.cast_zero, zero_div] at hrounds
    rw [Trajectory.share, hzero, (hrounds.value_eq representable_zero).2]
    simp
  · obtain ⟨hc, hcurrent⟩ := value_ofNat (n := t.current - 1) (by omega)
    obtain ⟨hn, hvalue⟩ := value_ofNat (n := t.total) (by omega)
    have hpos : (0 : ℚ) < t.total := by exact_mod_cast (by omega : 0 < t.total)
    have hnonneg : (0 : ℚ) ≤ (t.current - 1 : Nat) / t.total := by positivity
    have hquotient : value (Float.ofNat (t.current - 1)) / value (Float.ofNat t.total) =
        (t.current - 1 : Nat) / t.total := by rw [hcurrent, hvalue]
    have habs := abs_div_sub_le hc hn (by rw [hvalue]; exact hpos.ne') (by
      rw [hquotient, abs_of_nonneg hnonneg]
      have hlt : (t.total : ℚ) < 2 ^ 32 := by exact_mod_cast htotal
      have hone : (1 : ℚ) ≤ (t.current - 1 : Nat) := by exact_mod_cast hlater
      calc (2 : ℚ) ^ (-1022 : Int) ≤ 2 ^ (-32 : Int) :=
        zpow_le_zpow_right₀ (by norm_num) (by decide)
        _ = 1 / 2 ^ 32 := by norm_num
        _ ≤ (t.current - 1 : Nat) / t.total := div_le_div₀ (by positivity) hone hpos hlt.le) hshare
    rwa [hquotient, abs_of_nonneg hnonneg] at habs

/-- A share with a power of two for denominator is not rounded. -/
theorem value_share_of_dvd (h : ∃ i, t.total ∣ (t.current - 1) * 2 ^ i) :
    value t.share = (t.current - 1 : Nat) / t.total := by
  obtain ⟨hfirst, hlast⟩ := t.valid_iff.mp ht
  obtain ⟨i, hdvd⟩ := h
  -- the odd part of the denominator is cancelled
  obtain ⟨a, odd, hodd, hfactor⟩ := Nat.exists_eq_two_pow_mul_odd (n := t.total) (by omega)
  have hcoprime : Nat.Coprime odd (2 ^ i) := (Nat.coprime_two_right.mpr hodd).pow_right i
  obtain ⟨c, hc⟩ : odd ∣ t.current - 1 :=
    hcoprime.dvd_of_dvd_mul_right ((Dvd.intro_left _ hfactor.symm).trans hdvd)
  have hdigits : 2 ^ a < 2 ^ 32 := by
    refine lt_of_le_of_lt ?_ htotal
    rw [hfactor]
    exact Nat.le_mul_of_pos_right _ hodd.pos
  have hquotient : ((t.current - 1 : Nat) : ℚ) / t.total = c * 2 ^ (-(a : Int)) := by
    have hpos : (odd : ℚ) ≠ 0 := by exact_mod_cast hodd.pos.ne'
    rw [hc, hfactor, zpow_neg, zpow_natCast]
    push_cast
    field_simp
  have hsmall : c < 2 ^ 53 := by
    have hle : c ≤ t.current - 1 := hc ▸ Nat.le_mul_of_pos_left c hodd.pos
    omega
  have ha : a < 32 := (Nat.pow_lt_pow_iff_right (by decide)).mp hdigits
  have hrepresentable : Representable ((t.current - 1 : Nat) / t.total) :=
    ⟨c, -a, by rw [Nat.abs_cast]; exact_mod_cast hsmall, by omega, by omega, hquotient⟩
  exact ((rounds_share ht htotal).value_eq hrepresentable).2

end

/-! ### The vertices of a sample -/

/-- Arc lengths do not decrease along a path. -/
theorem value_arcLengthTo_le {a b : Vertex} {rest : List Vertex}
    (h : (length (a :: b :: rest)).isFinite) {i j : Nat} (hij : i ≤ j) :
    value (arcLengthTo (a :: b :: rest) i) ≤ value (arcLengthTo (a :: b :: rest) j) := by
  set segments := segmentLengths (a :: b :: rest) with hsegments
  have hsplit : arcLengthTo (a :: b :: rest) j =
      ((segments.take j).drop i).foldl (· + ·) (arcLengthTo (a :: b :: rest) i) := by
    have htake : segments.take i = (segments.take j).take i := by
      rw [List.take_take, Nat.min_eq_left hij]
    rw [arcLengthTo, arcLengthTo, ← hsegments, htake, ← List.foldl_append, List.take_append_drop]
  have hfinite : (arcLengthTo (a :: b :: rest) j).isFinite :=
    isFinite_of_foldl_add (length_eq_foldl_drop a b rest j ▸ h)
  have hbetween : ∀ d ∈ (segments.take j).drop i, Unsigned d := fun d hd =>
    unsigned_of_mem_segmentLengths (List.mem_of_mem_take (List.mem_of_mem_drop hd))
  rw [hsplit] at hfinite ⊢
  exact value_le_foldl_add hbetween hfinite

/-- The sample of a target has the vertices of the path that are not further along than the
    target. -/
theorem take_isPrefix_sample_iff {path out : Path} {target : Float}
    (h : sample path target = .ok out)
    (hlength : (length path).isFinite) {j : Nat} (hj : j + 2 ≤ path.length)
    (hlater : 0 < value (arcLengthTo path j)) :
    path.take (j + 1) <+: out.dropLast ↔ value (arcLengthTo path j) ≤ value target := by
  match path, h, hlength, hj, hlater with
  | a :: b :: rest, h, hlength, hj, hlater =>
    obtain ⟨hadmits, rfl⟩ := sample_eq_ok_iff.mp h
    simp only [admits, Bool.and_eq_true] at hadmits
    have htarget := hadmits.1.1
    have hfinite : ∀ i, (arcLengthTo (a :: b :: rest) i).isFinite := fun i =>
      isFinite_of_foldl_add (length_eq_foldl_drop a b rest i ▸ hlength)
    by_cases hzero : (target == 0.0) = true
    · rw [if_pos hzero, (beq_zero_iff htarget).mp hzero]
      exact iff_of_false (by simp) hlater.not_ge
    · obtain ⟨k, hk, hleast, hstop⟩ := exists_stopFrom_eq target a b rest
      have hcovered : (a :: b :: rest).take (j + 1) <+:
          ((stopFrom target [] 0.0 a b rest).path target).dropLast ↔ j ≤ k := by
        have htake := List.take_succ_eq_append_getElem (Nat.lt_of_succ_lt hk)
        rw [Stop.path_eq, List.dropLast_concat, hstop, Stop.covered, List.reverse_cons,
          List.reverse_reverse, ← htake, List.take_isPrefix_take]
        omega
      rw [if_neg hzero, hcovered]
      constructor
      · intro hjk
        -- the segment that ends at the vertex has been passed
        obtain ⟨i, rfl⟩ : ∃ i, j = i + 1 := Nat.exists_eq_succ_of_ne_zero (by
          rintro rfl
          exact absurd hlater (by simp [arcLengthTo, value_zero]))
        have hpassed : ¬ Halts (a :: b :: rest) target i := fun hi =>
          absurd (hleast.2 hi) (by omega)
        have hend : ¬ target < arcLengthTo (a :: b :: rest) (i + 1) := fun hlt =>
          hpassed ⟨by omega, .inr (by rwa [← arcLengthTo_succ _ _ (by omega)])⟩
        rwa [lt_iff_value htarget (hfinite _), not_lt] at hend
      · intro hle
        by_contra hlt
        obtain ⟨hk', hlast | hbeyond⟩ := hleast.1
        · omega
        · rw [← arcLengthTo_succ, lt_iff_value htarget (hfinite _)] at hbeyond
          have hmono := value_arcLengthTo_le hlength (show k + 1 ≤ j by omega)
          linarith

/-! ### Offsets -/

/-- A path of at least two vertices and of finite length has a sample at the offset of every run. -/
theorem exists_sample_offset {t : Trajectory} (ht : t.valid) (htotal : t.total < 2 ^ 32)
    {path : Path} (hcount : 2 ≤ path.length) (hlength : (length path).isFinite) :
    ∃ out, sample path (t.offset (length path)) = .ok out := by
  match path, hcount, hlength with
  | a :: b :: rest, _, hlength => exact ⟨_, (sample_offset a b rest t ht htotal hlength).1⟩

section

variable {t : Trajectory} (ht : t.valid) (htotal : t.total < 2 ^ 32) {length : Float}
  (hlength : length.isFinite) (hpos : 0 ≤ value length)

include ht htotal hlength

/-- Where neither the product nor the quotient needs rounding, taking the product first gives the
    precise start. -/
theorem value_offsetByProduct (hproduct : Representable (value length * (t.current - 1 : Nat)))
    (hstart : Representable (t.preciseStart length)) :
    (t.offsetByProduct length).isFinite ∧
      value (t.offsetByProduct length) = t.preciseStart length := by
  obtain ⟨hfirst, hlast⟩ := t.valid_iff.mp ht
  obtain ⟨hc, hcurrent⟩ := value_ofNat (n := t.current - 1) (by omega)
  obtain ⟨hn, hvalue⟩ := value_ofNat (n := t.total) (by omega)
  have hne : (t.total : ℚ) ≠ 0 := by exact_mod_cast (by omega : t.total ≠ 0)
  have hmul := rounds_mul hlength hc
  rw [hcurrent] at hmul
  obtain ⟨hm, hmvalue⟩ := hmul.value_eq hproduct
  have hdiv := rounds_div hm hn (by rw [hvalue]; exact hne)
  rw [hmvalue, hvalue] at hdiv
  exact hdiv.value_eq hstart

/-- If the share is not rounded, the offset is the precise start. -/
theorem value_offset_of_dvd (hstart : Representable (t.preciseStart length))
    (h : ∃ i, t.total ∣ (t.current - 1) * 2 ^ i) :
    value (t.offset length) = t.preciseStart length := by
  obtain ⟨hshare, -, -⟩ := share_bounds ht htotal
  have hrounds := rounds_mul hlength hshare
  change Rounds (value length * value t.share) _ at hrounds
  rw [value_share_of_dvd ht htotal h, ← preciseStart_eq_mul] at hrounds
  exact (hrounds.value_eq hstart).2

include hpos

/-- No representable number lies strictly between a representable precise start and the offset. -/
theorem offset_next_to_start (hstart : Representable (t.preciseStart length)) {v : ℚ}
    (hv : Representable v) :
    (v < t.preciseStart length → v ≤ value (t.offset length)) ∧
      (t.preciseStart length < v → value (t.offset length) ≤ v) := by
  obtain ⟨hshare, -, -⟩ := share_bounds ht htotal
  obtain ⟨hfinite, -, -⟩ := offset_bounds ht htotal hlength hpos
  have hrounds : Rounds (value length * value t.share) (t.offset length) :=
    rounds_mul hlength hshare
  have hproduct : |value length * value t.share - t.preciseStart length| ≤
      2 ^ (-53 : Int) * t.preciseStart length := by
    rw [preciseStart_eq_mul, ← mul_sub, abs_mul, abs_of_nonneg hpos, mul_left_comm]
    exact mul_le_mul_of_nonneg_left (abs_share_sub_le ht htotal) hpos
  obtain ⟨hlow, hhigh⟩ := abs_le.mp hproduct
  -- the product is no further from the precise start than the next representable number is
  refine ⟨fun hlt => hrounds.le_value hfinite hv ?_, fun hlt => hrounds.value_le hfinite hv ?_⟩
  · linarith [hv.le_sub hstart hlt]
  · have hnext := hstart.le_sub hv hlt
    have hshare := mul_le_mul_of_nonneg_left hlt.le (by positivity : (0 : ℚ) ≤ 2 ^ (-53 : Int))
    linarith

/-- **A run with a representable start.**  Let the product of a length and the number of runs before
    a run be representable, and the quotient of this by the size of the batch.  Taking the product
    first would give this precise start.  The offset of the run is finite, and no representable
    number lies strictly between it and the precise start; it is the precise start if the share of
    the batch has a power of two for denominator.  A path of this length that has a vertex at the
    precise start, neither its first nor its last one, has a sample at the offset, and this passes
    the vertex exactly if the offset is not below the precise start. -/
theorem offset_of_representable_start
    (hproduct : Representable (value length * (t.current - 1 : Nat)))
    (hstart : Representable (t.preciseStart length)) :
    ((t.offsetByProduct length).isFinite ∧
        value (t.offsetByProduct length) = t.preciseStart length) ∧
    (t.offset length).isFinite ∧
    (∀ v, Representable v → (v < t.preciseStart length → v ≤ value (t.offset length)) ∧
      (t.preciseStart length < v → value (t.offset length) ≤ v)) ∧
    ((∃ i, t.total ∣ (t.current - 1) * 2 ^ i) → value (t.offset length) = t.preciseStart length) ∧
    ∀ path j, Geometry.length path = length → j + 2 ≤ path.length →
      value (arcLengthTo path j) = t.preciseStart length → 0 < t.preciseStart length →
      ∃ out, sample path (t.offset length) = .ok out ∧
        (path.take (j + 1) <+: out.dropLast ↔ t.preciseStart length ≤ value (t.offset length)) := by
  refine ⟨value_offsetByProduct ht htotal hlength hproduct hstart,
    (offset_bounds ht htotal hlength hpos).1,
    fun v hv => offset_next_to_start ht htotal hlength hpos hstart hv,
    value_offset_of_dvd ht htotal hlength hstart, ?_⟩
  rintro path j rfl hj hvertex hlater
  obtain ⟨out, hout⟩ := exists_sample_offset ht htotal (by omega : 2 ≤ path.length) hlength
  refine ⟨out, hout, ?_⟩
  rw [← hvertex] at hlater ⊢
  exact take_isPrefix_sample_iff hout hlength hj hlater

end

/-- The third of four runs starts in the middle of a path, at a vertex, and its sample passes it. -/
theorem offset_of_third_of_four :
    let run : Trajectory := ⟨3, 4⟩
    let path : Path := [⟨0.0, 0.0⟩, ⟨2.0, 0.0⟩, ⟨4.0, 0.0⟩]
    run.valid ∧ run.total < 2 ^ 32 ∧ (length path).isFinite ∧ value (length path) = 4 ∧
      run.preciseStart (length path) = 2 ∧ value (run.offset (length path)) = 2 ∧
      ∃ out, sample path (run.offset (length path)) = .ok out ∧ path.take 2 <+: out.dropLast := by
  intro run path
  have hlength : exact (length path) = .finite false 4503599627370496 (-50) := by decide +kernel
  have hvertex : exact (arcLengthTo path 1) = .finite false 4503599627370496 (-51) := by
    decide +kernel
  have hfinite : (length path).isFinite := by decide +kernel
  have hfour : value (length path) = 4 := by
    rw [value, hlength]
    norm_num [valueOf, signed]
  have hstart : run.preciseStart (length path) = 2 := by
    rw [Trajectory.preciseStart, hfour]
    norm_num [run]
  have hmiddle : value (arcLengthTo path 1) = run.preciseStart (length path) := by
    rw [hstart, value, hvertex]
    norm_num [valueOf, signed]
  have htwo : Representable (run.preciseStart (length path)) :=
    ⟨2, 0, by decide, by decide, by decide, by rw [hstart]; norm_num⟩
  have height : Representable (value (length path) * (run.current - 1 : Nat)) :=
    ⟨8, 0, by decide, by decide, by decide, by rw [hfour]; norm_num [run]⟩
  obtain ⟨-, -, -, hexact, hcut⟩ := offset_of_representable_start (t := run) (by decide) (by decide)
    hfinite (by rw [hfour]; norm_num) height htwo
  have hoffset : value (run.offset (length path)) = run.preciseStart (length path) :=
    hexact ⟨1, 1, by decide⟩
  obtain ⟨out, hout, hpassed⟩ := hcut path 1 rfl (by decide) hmiddle (by rw [hstart]; norm_num)
  exact ⟨by decide, by decide, hfinite, hfour, hstart, hoffset.trans hstart, out, hout,
    hpassed.mpr hoffset.ge⟩

/-- The second of 49 runs along a path of length 49 does not start at one, although taking the
    product first would give that.  So the vertex at one is not passed, and the sample ends just
    before it. -/
theorem offset_of_second_of_49 :
    let run : Trajectory := ⟨2, 49⟩
    let path : Path := [⟨0.0, 0.0⟩, ⟨1.0, 0.0⟩, ⟨49.0, 0.0⟩]
    run.valid ∧ (length path).isFinite ∧ value (length path) = 49 ∧
      Representable (value (length path) * (run.current - 1 : Nat)) ∧
      Representable (run.preciseStart (length path)) ∧ run.preciseStart (length path) = 1 ∧
      value (arcLengthTo path 1) = 1 ∧ value (run.offsetByProduct (length path)) = 1 ∧
      value (run.offset (length path)) = 1 - 2 ^ (-53 : Int) ∧
      ∃ p, sample path (run.offset (length path)) = .ok [⟨0.0, 0.0⟩, p] := by
  intro run path
  have hlength : exact (length path) = .finite false 6896136929411072 (-47) := by decide +kernel
  have hvertex : exact (arcLengthTo path 1) = .finite false 4503599627370496 (-52) := by
    decide +kernel
  have hproduct :
      exact (run.offsetByProduct (length path)) = .finite false 4503599627370496 (-52) := by
    decide +kernel
  have hoffset : exact (run.offset (length path)) = .finite false 9007199254740991 (-53) := by
    decide +kernel
  have hvalue : value (length path) = 49 := by
    rw [value, hlength]
    norm_num [valueOf, signed]
  have hstart : run.preciseStart (length path) = 1 := by
    rw [Trajectory.preciseStart, hvalue]
    norm_num [run]
  refine ⟨by decide, by decide +kernel, hvalue,
    ⟨49, 0, by decide, by decide, by decide, by rw [hvalue]; norm_num [run]⟩,
    ⟨1, 0, by decide, by decide, by decide, by rw [hstart]; norm_num⟩, hstart, ?_, ?_, ?_, ?_⟩
  · rw [value, hvertex]
    norm_num [valueOf, signed]
  · rw [value, hproduct]
    norm_num [valueOf, signed]
  · rw [value, hoffset]
    norm_num [valueOf, signed]
  · have hadmits : admits (length path) (run.offset (length path)) = true := by decide +kernel
    have hzero : (run.offset (length path) == 0.0) = false := by decide +kernel
    have hstop : run.offset (length path) < 0.0 + (⟨0.0, 0.0⟩ : Vertex).distance ⟨1.0, 0.0⟩ := by
      decide +kernel
    rw [sample, if_pos hadmits, hzero, stopFrom, if_pos hstop]
    exact ⟨_, rfl⟩

end NavScript.Geometry
