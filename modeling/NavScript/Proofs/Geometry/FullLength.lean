import NavScript.Proofs.Geometry.Sampling

namespace NavScript.Geometry

open NavScript.Binary64

/-!
# The sample at the whole length

The length of a path and the arc lengths that sampling keeps account of are sums of the same numbers
in the same order, one started at negative zero and the other at zero.  None of the numbers has a
sign, so that no sum is less than the one before it, rounded as it is.  A target at the end of the
path is therefore not beyond the end of any segment, and every segment but the last is passed.

* `value_le_add`, `value_le_foldl_add` — sums of numbers without a sign do not go down
* `arcLengthTo_le_length` — no vertex is beyond the length
* `eq_of_halts_length` — at the whole length only the last segment must not be passed
* `sample_at_length` — the sample at the whole length
-/

/-! ### Sums -/

/-- A number without a sign takes nothing away. -/
theorem value_le_add {x y : Float} (h : (x + y).isFinite) (hy : Unsigned y) :
    value x ≤ value (x + y) := by
  obtain ⟨hfx, hfy⟩ := isFinite_of_add h
  exact (rounds_add hfx hfy).le_value h (representable_value x)
    (le_add_of_nonneg_right hy.value_nonneg)

/-- A sum of numbers without a sign is not less than what it is started from. -/
theorem value_le_foldl_add {ds : List Float} {sum : Float} (hds : ∀ d ∈ ds, Unsigned d)
    (h : (ds.foldl (· + ·) sum).isFinite) : value sum ≤ value (ds.foldl (· + ·) sum) := by
  induction ds generalizing sum with
  | nil => exact le_refl _
  | cons d ds ih =>
    obtain ⟨hd, hds⟩ := List.forall_mem_cons.mp hds
    exact (value_le_add (isFinite_of_foldl_add h) hd).trans (ih hds h)

/-! ### Arc lengths -/

/-- The length of a path is the arc length up to any of its vertices with the segments behind it. -/
theorem length_eq_foldl_drop (a b : Vertex) (rest : List Vertex) (j : Nat) :
    length (a :: b :: rest) =
      ((segmentLengths (a :: b :: rest)).drop j).foldl (· + ·)
        (arcLengthTo (a :: b :: rest) j) := by
  rw [arcLengthTo, ← List.foldl_append, List.take_append_drop, length_eq_foldl]
  rfl

/-- No vertex is further along a path than its end. -/
theorem arcLengthTo_le_length {a b : Vertex} {rest : List Vertex}
    (h : (length (a :: b :: rest)).isFinite) (j : Nat) :
    arcLengthTo (a :: b :: rest) j ≤ length (a :: b :: rest) := by
  have hsum := length_eq_foldl_drop a b rest j
  have hbehind : ∀ d ∈ (segmentLengths (a :: b :: rest)).drop j, Unsigned d :=
    fun d hd => unsigned_of_mem_segmentLengths (List.mem_of_mem_drop hd)
  rw [le_iff_value (isFinite_of_foldl_add (hsum ▸ h)) h, hsum]
  exact value_le_foldl_add hbehind (hsum ▸ h)

/-- On the way to the end of a path only the last segment must not be passed. -/
theorem eq_of_halts_length {a b : Vertex} {rest : List Vertex} {j : Nat}
    (h : (length (a :: b :: rest)).isFinite)
    (hhalts : Halts (a :: b :: rest) (length (a :: b :: rest)) j) :
    j + 2 = (a :: b :: rest).length := by
  obtain ⟨hj, hlast | hbeyond⟩ := hhalts
  · exact hlast
  · rw [← arcLengthTo_succ _ _ hj, lt_iff] at hbeyond
    have hle := arcLengthTo_le_length h (j + 1)
    rw [le_iff] at hle
    exact absurd hbeyond.2.2 hle.2.2.not_gt

/-! ### The sample -/

/-- **The sample at the whole length.**  If the length of a path is finite and not zero, the arc
    length up to a vertex never exceeds it, and the path has a sample at its length.  That has as
    many vertices as the path, and all but the last are those of the path. -/
theorem sample_at_length (path : Path) (hcount : 2 ≤ path.length) (hfinite : (length path).isFinite)
    (hpos : 0.0 < length path) :
    (∀ j, arcLengthTo path j ≤ length path) ∧
      ∃ out, sample path (length path) = .ok out ∧ out.length = path.length ∧
        out.dropLast = path.dropLast := by
  match path, hcount with
  | a :: b :: rest, _ =>
    rw [lt_iff_value isFinite_zero hfinite, value_zero] at hpos
    have hzero : ¬ (length (a :: b :: rest) == 0.0) = true := fun h =>
      hpos.ne' ((beq_zero_iff hfinite).mp h)
    obtain ⟨k, hk, hleast, hstop⟩ := exists_stopFrom_eq (length (a :: b :: rest)) a b rest
    have hlast : k + 2 = (a :: b :: rest).length := eq_of_halts_length hfinite hleast.1
    have htake : (a :: b :: rest).take (k + 1) = (a :: b :: rest).dropLast := by
      rw [List.dropLast_eq_take, ← hlast]
      rfl
    refine ⟨arcLengthTo_le_length hfinite, _, sample_eq_ok_iff.mpr
      ⟨admits_of_le hfinite hfinite hpos.le (le_refl _), rfl⟩, ?_⟩
    rw [if_neg hzero, Stop.path_eq, hstop, Stop.covered, List.reverse_cons, List.reverse_reverse,
      ← List.take_succ_eq_append_getElem (Nat.lt_of_succ_lt hk), htake]
    exact ⟨by simp, List.dropLast_concat⟩

/-- A path that goes back and forth, with a vertex twice. -/
theorem sample_at_length_of_repeated_vertex :
    let path : Path := [⟨0.1, 0.0⟩, ⟨0.3, 0.0⟩, ⟨0.3, 0.0⟩, ⟨0.1, 0.7⟩, ⟨0.1, 0.0⟩]
    2 ≤ path.length ∧ (length path).isFinite ∧ 0.0 < length path ∧
      arcLengthTo path 3 ≤ length path ∧
      ∃ out, sample path (length path) = .ok out ∧ out.length = 5 ∧
        out.dropLast = path.dropLast := by
  intro path
  have hcount : 2 ≤ path.length := by decide
  have hfinite : (length path).isFinite := by decide +kernel
  have hpos : 0.0 < length path := by decide +kernel
  obtain ⟨hnever, hsample⟩ := sample_at_length path hcount hfinite hpos
  exact ⟨hcount, hfinite, hpos, hnever 3, hsample⟩

end NavScript.Geometry
