import NavScript.Session
import NavScript.Proofs.Geometry.Offset

namespace NavScript

open NavScript.Geometry NavScript.Decimal NavScript.Binary64

/-!
# Where the runs of a batch start

The start of a run is given by its number, the size of its batch and the length of the path; there
is none for a number outside of the batch.  The quotient and the product are both rounded, but on a
path whose length has 53 digits this never brings two runs together, nor the last of them to the
end.

* `Trajectory.start` — the start of a run, if there is such a run
* `Setting.samplePerimeter_eq` — a session samples paths at the start of its run
* `start_strictMono` — the starts of a batch
-/

/-- The arc length at which a run starts along a path of the given length. -/
def Geometry.Trajectory.start (t : Trajectory) (length : Float) : Except Error Float :=
  if t.valid then .ok (t.offset length) else .error (.outOfRange (.trajectory t))

theorem Geometry.Trajectory.start_of_valid {t : Trajectory} (h : t.valid) (length : Float) :
    t.start length = .ok (t.offset length) :=
  if_pos h

/-- There is a start just for the runs of the batch. -/
theorem Geometry.Trajectory.start_eq_error_iff (t : Trajectory) (length : Float) :
    t.start length = .error (.outOfRange (.trajectory t)) ↔
      t.current = 0 ∨ t.total = 0 ∨ t.total < t.current := by
  have hvalid : t.valid = true ↔ ¬ (t.current = 0 ∨ t.total = 0 ∨ t.total < t.current) := by
    rw [t.valid_iff]
    omega
  by_cases h : t.valid = true
  · simp [start, h, hvalid.mp h]
  · simp [start, h, not_not.mp (mt hvalid.mpr h)]

/-- A session looks for the path of a valid run, and samples it where the run starts. -/
theorem Setting.samplePerimeter_eq (s : Setting) (l : Loaded) (id : String) :
    s.samplePerimeter l id = (do
      if !s.trajectory.valid then throw (.outOfRange (.trajectory s.trajectory))
      let path ← l.drawing.path id l.transform
      let target ← s.trajectory.start (length path)
      (sample path target).mapError (.ofArcLength id)) := by
  rw [samplePerimeter]
  cases h : s.trajectory.valid with
  | false => rfl
  | true =>
    simp only [Trajectory.start_of_valid h]
    rfl

/-- A length of at least `1e-162` has 53 digits. -/
theorem normal_of_le {length : Float} (hlength : length.isFinite) (h : 1e-162 ≤ length) :
    2 ^ (-1022 : Int) ≤ value length := by
  have hexact : exact 1e-162 = .finite false 8104522595470689 (-591) := by decide +kernel
  have hvalue : value 1e-162 = 8104522595470689 * 2 ^ (-591 : Int) := by
    rw [value, hexact]
    rfl
  rw [le_iff_value ((isFinite_iff _).mpr ⟨_, _, _, hexact⟩) hlength, hvalue] at h
  refine le_trans ?_ h
  calc (2 : ℚ) ^ (-1022 : Int) ≤ 2 ^ (-591 : Int) := zpow_le_zpow_right₀ (by norm_num) (by decide)
    _ ≤ 8104522595470689 * 2 ^ (-591 : Int) := le_mul_of_one_le_left (by positivity) (by norm_num)

/-- **The starts of a batch.**  On a path whose length is finite and at least `1e-162`, the first
    run of a batch starts at zero, every later run further along than those before it, and none
    before the path or at its end.  A run that is not one of its batch is refused for being out of
    range. -/
theorem start_strictMono :
    (∀ (total : Nat) (length : Float), 1 ≤ total → total < 2 ^ 32 → length.isFinite →
      1e-162 ≤ length →
      ∃ start : Nat → Float,
        (∀ current, 1 ≤ current → current ≤ total →
          (⟨current, total⟩ : Trajectory).start length = .ok (start current) ∧
            0.0 ≤ start current ∧ start current < length) ∧
        (start 1 == 0.0) = true ∧
        ∀ earlier later, 1 ≤ earlier → earlier < later → later ≤ total →
          start earlier < start later) ∧
    ∀ (t : Trajectory) (length : Float), t.current = 0 ∨ t.total = 0 ∨ t.total < t.current →
      t.start length = .error (.outOfRange (.trajectory t)) := by
  refine ⟨fun total length hsome htotal hlength hlong => ?_,
    fun t length => (t.start_eq_error_iff length).mpr⟩
  have hnormal := normal_of_le hlength hlong
  have hpos : 0 ≤ value length := le_trans (by positivity) hnormal
  have hvalid : ∀ current, 1 ≤ current → current ≤ total → (⟨current, total⟩ : Trajectory).valid :=
    fun current hlow hhigh => (Trajectory.valid_iff _).mpr ⟨hlow, hhigh⟩
  have hfinite : ∀ current, 1 ≤ current → current ≤ total →
      ((⟨current, total⟩ : Trajectory).offset length).isFinite :=
    fun current hlow hhigh => (offset_bounds (hvalid current hlow hhigh) htotal hlength hpos).1
  refine ⟨fun current => (⟨current, total⟩ : Trajectory).offset length,
    fun current hlow hhigh => ⟨?_, ?_, ?_⟩, ?_, fun earlier later hlow hlt hhigh => ?_⟩
  · exact Trajectory.start_of_valid (hvalid current hlow hhigh) length
  · rw [le_iff_value isFinite_zero (hfinite current hlow hhigh), value_zero]
    exact (offset_bounds (hvalid current hlow hhigh) htotal hlength hpos).2.1
  · rw [lt_iff_value (hfinite current hlow hhigh) hlength]
    exact offset_lt (hvalid current hlow hhigh) htotal hlength hnormal
  · rw [beq_zero_iff (hfinite 1 le_rfl hsome)]
    exact offset_of_first ⟨hsome, htotal⟩ rfl hlength
  · have hearlier := hlt.le.trans hhigh
    have hlater := hlow.trans hlt.le
    rw [lt_iff_value (hfinite earlier hlow hearlier) (hfinite later hlater hhigh)]
    exact offset_lt_offset (hvalid earlier hlow hearlier) (hvalid later hlater hhigh) rfl htotal hlt
      hlength hnormal

/-- The greatest batch, along the shortest path. -/
theorem start_strictMono_of_greatest_batch :
    (1e-162 : Float).isFinite ∧ (1e-162 : Float) ≤ 1e-162 ∧ ∃ start : Nat → Float,
      (start 1 == 0.0) = true ∧ start 4294967294 < start 4294967295 ∧ start 4294967295 < 1e-162 ∧
        (⟨4294967295, 4294967295⟩ : Trajectory).start 1e-162 = .ok (start 4294967295) ∧
        (⟨0, 4294967295⟩ : Trajectory).start 1e-162 =
          .error (.outOfRange (.trajectory ⟨0, 4294967295⟩)) := by
  have hfinite : (1e-162 : Float).isFinite := by decide +kernel
  have hlong : (1e-162 : Float) ≤ 1e-162 := by decide +kernel
  obtain ⟨start, hruns, hfirst, hmono⟩ :=
    start_strictMono.1 4294967295 1e-162 (by decide) (by decide) hfinite hlong
  obtain ⟨hlast, -, hend⟩ := hruns 4294967295 (by decide) (by decide)
  exact ⟨hfinite, hlong, start, hfirst, hmono _ _ (by decide) (by decide) (by decide), hend, hlast,
    start_strictMono.2 _ _ (.inl rfl)⟩

end NavScript
