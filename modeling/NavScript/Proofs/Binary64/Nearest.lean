import NavScript.Proofs.Binary64.Rounding

namespace NavScript.Binary64

open NavScript.Decimal
open Float.Model Float.Model.UnpackedFloat

/-!
# Rounding to the nearest number

The accuracy of a mantissa compares what is behind its point with one half.  Where that is right,
rounding goes to the nearer of two neighbours, and so a result of 53 digits differs from the precise
one by at most a share of `2 ^ -53`.  Different representable numbers differ by at least this share.

* `Tells`, `Measures` — what an accuracy says, and a mantissa with such an accuracy
* `Measures.describes`, `Measures.toExponent` — it describes the number, and so it does when shifted
* `abs_value_roundWithAccuracy_sub_le` — how far rounding goes
* `Representable.le_sub` — how far representable numbers are from each other
-/

/-! ### What an accuracy says -/

/-- The accuracy says of the rest behind a point what is true: that there is none, or how it
    compares with one half. -/
def Tells : Accuracy → ℚ → Prop
  | .exact, rest => rest = 0
  | .inexact o, rest => 0 < rest ∧ rest < 1 ∧ o.Compares rest (1 / 2)

/-- What is left of a unit is less than one. -/
theorem Tells.bounds {a : Accuracy} {rest : ℚ} (h : Tells a rest) : 0 ≤ rest ∧ rest < 1 := by
  cases a with
  | exact =>
    rw [show rest = 0 from h]
    exact ⟨le_refl 0, zero_lt_one⟩
  | inexact o => exact ⟨h.1.le, h.2.1⟩

/-- The remainder of a division is told by its fraction of the divisor. -/
theorem tells_accuracyOfFraction {r n : Nat} (h : r < n) :
    Tells (accuracyOfFraction r n) ((r : ℚ) / n) := by
  have hn : (0 : ℚ) < n := by exact_mod_cast Nat.zero_lt_of_lt h
  rw [accuracyOfFraction]
  split
  · rename_i hzero
    rw [hzero, Nat.cast_zero, zero_div]
    rfl
  · rename_i hzero
    have hpos : (0 : ℚ) < r := by exact_mod_cast Nat.pos_of_ne_zero hzero
    refine ⟨div_pos hpos hn, (div_lt_one hn).mpr (by exact_mod_cast h), ?_⟩
    rcases lt_trichotomy (2 * r) n with hlt | heq | hgt
    · rw [compare_lt_iff_lt.mpr hlt]
      have hlt' : (2 * r : ℚ) < n := by exact_mod_cast hlt
      exact (div_lt_iff₀ hn).mpr (by linarith)
    · rw [compare_eq_iff_eq.mpr heq]
      have heq' : (2 * r : ℚ) = n := by exact_mod_cast heq
      exact (div_eq_iff hn.ne').mpr (by linarith)
    · rw [compare_gt_iff_gt.mpr hgt]
      have hgt' : (n : ℚ) < 2 * r := by exact_mod_cast hgt
      exact (lt_div_iff₀ hn).mpr (by linarith)

/-- Rounding moves a mantissa by at most one half. -/
theorem Tells.abs_roundToNearestEven_sub_le {a : Accuracy} {rest : ℚ} (h : Tells a rest) (m : Nat) :
    |(a.roundToNearestEven m : ℚ) - (m + rest)| ≤ 1 / 2 := by
  cases a with
  | exact =>
    change |(m : ℚ) - (m + rest)| ≤ _
    rw [show rest = 0 from h]
    norm_num
  | inexact o =>
    obtain ⟨hpos, hlt, hcompare⟩ := h
    cases o with
    | lt =>
      change |(m : ℚ) - (m + rest)| ≤ _
      change rest < 1 / 2 at hcompare
      rw [abs_le]
      constructor <;> linarith
    | eq =>
      change |((m + m % 2 : Nat) : ℚ) - (m + rest)| ≤ _
      obtain rfl : rest = 1 / 2 := hcompare
      -- a tie goes up or down, and it is one half either way
      rcases Nat.mod_two_eq_zero_or_one m with hm | hm <;> rw [hm] <;> push_cast <;>
        rw [abs_le] <;> constructor <;> linarith
    | gt =>
      change |((m + 1 : Nat) : ℚ) - (m + rest)| ≤ _
      change 1 / 2 < rest at hcompare
      push_cast
      rw [abs_le]
      constructor <;> linarith

/-! ### Shifting a mantissa -/

/-- The two bits behind a mantissa are both zero exactly if there is no rest. -/
theorem Tells.bits {em : ExtendedMantissa} {rest : ℚ} (h : Tells em.accuracy rest) :
    (em.roundBit || em.stickyBit) = false ∧ rest = 0 ∨
      (em.roundBit || em.stickyBit) = true ∧ 0 < rest := by
  obtain ⟨m, r, s⟩ := em
  cases r <;> cases s
  · exact .inl ⟨rfl, h⟩
  · exact .inr ⟨rfl, h.1⟩
  · exact .inr ⟨rfl, h.1⟩
  · exact .inr ⟨rfl, h.1⟩

/-- The digit that is cut off comes before the rest. -/
theorem Tells.shiftRightOne {em : ExtendedMantissa} {rest : ℚ} (h : Tells em.accuracy rest) :
    Tells em.shiftRightOne.accuracy (((em.mantissa % 2 : Nat) + rest) / 2) := by
  obtain ⟨-, hlt⟩ := h.bounds
  rw [ExtendedMantissa.shiftRightOne]
  rcases Nat.mod_two_eq_zero_or_one em.mantissa with hm | hm <;>
    obtain ⟨hbits, hrest⟩ | ⟨hbits, hrest⟩ := h.bits <;> rw [hm, hbits]
  · rw [hrest, Nat.cast_zero, add_zero, zero_div]
    rfl
  · rw [Nat.cast_zero, zero_add]
    exact ⟨by linarith, by linarith, show rest / 2 < 1 / 2 by linarith⟩
  · rw [hrest, Nat.cast_one, add_zero]
    exact ⟨by norm_num, by norm_num, rfl⟩
  · rw [Nat.cast_one]
    exact ⟨by linarith, by linarith, show (1 : ℚ) / 2 < (1 + rest) / 2 by linarith⟩

/-- A mantissa and the rest that its accuracy tells are `q` in units of `2 ^ e`. -/
def Measures (m : Nat) (a : Accuracy) (e : Int) (q : ℚ) : Prop :=
  ∃ rest, Tells a rest ∧ q = (m + rest) * 2 ^ e

/-- What measures a value describes it. -/
theorem Measures.describes {m : Nat} {a : Accuracy} {e : Int} {q : ℚ} (h : Measures m a e q) :
    Describes m a e q := by
  obtain ⟨rest, htells, rfl⟩ := h
  obtain ⟨hlow, hhigh⟩ := htells.bounds
  have hunit : (0 : ℚ) < 2 ^ e := by positivity
  refine ⟨mul_le_mul_of_nonneg_right (by linarith) hunit.le,
    mul_lt_mul_of_pos_right (by linarith) hunit, fun heq => ?_⟩
  have hrest : rest = 0 := by linarith [mul_right_cancel₀ hunit.ne' heq]
  -- an accuracy that is not exact tells of a rest
  cases a with
  | exact => rfl
  | inexact o => exact absurd hrest htells.1.ne'

/-- A shift to the right measures the same value in units twice as large. -/
theorem Measures.shiftRightOne {em : ExtendedMantissa} {e : Int} {q : ℚ}
    (h : Measures em.mantissa em.accuracy e q) :
    Measures em.shiftRightOne.mantissa em.shiftRightOne.accuracy (e + 1) q := by
  obtain ⟨rest, htells, rfl⟩ := h
  refine ⟨_, htells.shiftRightOne, ?_⟩
  have hdigits : (em.mantissa : ℚ) = 2 * (em.mantissa / 2 : Nat) + (em.mantissa % 2 : Nat) := by
    exact_mod_cast (Nat.div_add_mod em.mantissa 2).symm
  have hmantissa : em.shiftRightOne.mantissa = em.mantissa / 2 := rfl
  rw [hmantissa, zpow_add₀ (by norm_num), hdigits]
  ring

/-- A shifted mantissa measures the same number. -/
theorem Measures.toExponent {m : Nat} {a : Accuracy} {e : Int} {q : ℚ} (h : Measures m a e q)
    (t : Int) :
    Measures (shiftToExponent m e a t).1.mantissa (shiftToExponent m e a t).1.accuracy
      (shiftToExponent m e a t).2 q := by
  refine shiftToExponent_of_step (P := fun em e => Measures em.mantissa em.accuracy e q)
    Measures.shiftRightOne ?_ t
  rwa [mantissa_ofMantissaAndAccuracy, accuracy_ofMantissaAndAccuracy]

/-! ### Rounding to 53 digits -/

/-- A measured number is rounded by at most half a unit. -/
theorem Measures.abs_roundedMantissa_sub_le {m : Nat} {a : Accuracy} {e t : Int}
    {em : ExtendedMantissa} {q : ℚ} (h : Measures m a e q)
    (hshift : shiftToTargetExponent Format.binary64 m e a = (em, t)) :
    |(em.roundedMantissa : ℚ) * 2 ^ t - q| ≤ 1 / 2 * 2 ^ t := by
  have hshifted := h.toExponent (Format.binary64.targetExponent (totalExponent m e))
  rw [shiftToTargetExponent] at hshift
  rw [hshift] at hshifted
  obtain ⟨rest, htells, rfl⟩ := hshifted
  have hunit : (0 : ℚ) < 2 ^ t := by positivity
  rw [← sub_mul, abs_mul, abs_of_pos hunit]
  exact mul_le_mul_of_nonneg_right (htells.abs_roundToNearestEven_sub_le _) hunit.le

/-- A number that is not too small is rounded by a share of at most `2 ^ -53`. -/
theorem abs_value_roundWithAccuracy_sub_le {m : Nat} {a : Accuracy} {e : Int} {q : ℚ}
    (h : Measures m a e q) (hfull : 52 ≤ m.log2 ∨ e ≤ -1074) (s : Sign)
    (hnormal : 2 ^ (-1022 : Int) ≤ q)
    (hfinite : (Float.ofModel (.pack (roundWithAccuracy Format.binary64 s m e a))).isFinite) :
    |value (.ofModel (.pack (roundWithAccuracy Format.binary64 s m e a))) - signed (isMinus s) q| ≤
      2 ^ (-53 : Int) * q := by
  obtain ⟨em, t, hshift⟩ : ∃ em t, shiftToTargetExponent Format.binary64 m e a = (em, t) :=
    ⟨_, _, rfl⟩
  have hrounds := h.describes.roundsTo hfull
  rw [hshift] at hrounds
  have hhalf : |(em.roundedMantissa : ℚ) * 2 ^ t - q| ≤ 2 ^ (-53 : Int) * q := by
    refine (h.abs_roundedMantissa_sub_le hshift).trans ?_
    have hlow : 2 ^ 52 * 2 ^ t ≤ q := by
      -- at the lowest exponent it is the number itself that is great enough
      refine hrounds.low.elim id ?_
      rintro rfl
      refine le_trans (le_of_eq ?_) hnormal
      rw [← zpow_natCast, ← zpow_add₀ (by norm_num)]
      rfl
    calc 1 / 2 * 2 ^ t = 2 ^ (-53 : Int) * (2 ^ 52 * 2 ^ t) := by rw [← mul_assoc]; norm_num
      _ ≤ 2 ^ (-53 : Int) * q := mul_le_mul_of_nonneg_left hlow (by positivity)
  obtain ⟨-, hx⟩ | ⟨m', e', hvalue, hx⟩ := exact_pack_of_roundsTo hshift rfl hrounds s
  · obtain ⟨_, _, _, hx'⟩ := (isFinite_iff _).mp hfinite
    cases hx.symm.trans hx'
  · rw [value, hx, valueOf, hvalue]
    cases s with
    | positive => exact hhalf
    | negative =>
      rw [abs_sub_comm] at hhalf
      refine le_of_eq_of_le ?_ hhalf
      congr 1
      change -_ - -_ = _
      ring

/-! ### Neighbours -/

/-- Two representable numbers differ by a share of the greater one that is at least `2 ^ -53`. -/
theorem Representable.le_sub {v w : ℚ} (hv : Representable v) (hw : Representable w) (h : v < w) :
    v ≤ w - 2 ^ (-53 : Int) * w := by
  obtain ⟨n, e, hn, -, -, rfl⟩ := hv
  obtain ⟨k, f, hk, -, -, rfl⟩ := hw
  have hdigits : ∀ {n : Int}, |n| < 2 ^ 53 → (n : ℚ) ≤ 2 ^ 53 - 1 := fun {n} hn => by
    exact_mod_cast Int.le_sub_one_of_lt ((le_abs_self n).trans_lt hn)
  have hshare : (2 : ℚ) ^ (-53 : Int) * 2 ^ 53 = 1 := by norm_num
  rcases le_total f e with hle | hle
  · -- the lesser number is a multiple of the unit of the greater one
    have hunit : (0 : ℚ) < 2 ^ f := by positivity
    rw [zpow_add_toNat hle, ← mul_assoc] at h ⊢
    have hlt : n * 2 ^ (e - f).toNat < k := by
      exact_mod_cast lt_of_mul_lt_mul_right h hunit.le
    have hstep : ((n : ℚ) * 2 ^ (e - f).toNat) ≤ k - 1 := by exact_mod_cast Int.le_sub_one_of_lt hlt
    have hone : (2 : ℚ) ^ (-53 : Int) * k ≤ 1 := by
      rw [← hshare]
      exact mul_le_mul_of_nonneg_left ((hdigits hk).trans (by norm_num)) (by positivity)
    rw [← mul_assoc, ← sub_mul]
    exact mul_le_mul_of_nonneg_right (by linarith) hunit.le
  · -- the greater number is a multiple of the unit of the lesser one, and perhaps beyond its digits
    have hunit : (0 : ℚ) < 2 ^ e := by positivity
    rw [zpow_add_toNat hle, ← mul_assoc] at h ⊢
    have hlt : n < k * 2 ^ (f - e).toNat := by exact_mod_cast lt_of_mul_lt_mul_right h hunit.le
    have hstep : (n : ℚ) ≤ k * 2 ^ (f - e).toNat - 1 := by exact_mod_cast Int.le_sub_one_of_lt hlt
    generalize (k : ℚ) * 2 ^ (f - e).toNat = wide at hstep ⊢
    rw [← mul_assoc, ← sub_mul]
    refine mul_le_mul_of_nonneg_right ?_ hunit.le
    rcases le_total wide (2 ^ 53) with hwide | hwide
    · have hone := mul_le_mul_of_nonneg_left hwide (by positivity : (0 : ℚ) ≤ 2 ^ (-53 : Int))
      linarith
    · have hrest : (0 : ℚ) ≤ 1 - 2 ^ (-53 : Int) := by norm_num
      have hscaled := mul_le_mul_of_nonneg_right hwide hrest
      linarith [hdigits hn]

end NavScript.Binary64
