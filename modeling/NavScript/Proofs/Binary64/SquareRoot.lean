import NavScript.Proofs.Binary64.Arithmetic

namespace NavScript.Binary64

open NavScript.Decimal
open Float.Model Float.Model.UnpackedFloat

/-!
# Square roots

A root is computed as the root of a shifted mantissa, and what is cut off tells the accuracy.  It
has half the exponent of its square, and so a root that is not zero is far above the numbers that
have less than 53 digits.

* `exists_describes_sqrtCore` — the root of a mantissa
* `Appreciable` — zero, or at least the root of the least positive number
* `appreciable_sqrt`, `Appreciable.add` — roots, and their sums
-/

/-! ### Roots of mantissas -/

/-- The root of a mantissa has 53 digits, or an exponent as low as there is, and it does not step
    over a power of two. -/
theorem exists_describes_sqrtCore {m : Nat} (hm : 0 < m) (e : Int) :
    ∃ (r : Nat) (t : Int) (a : Accuracy) (q : ℚ), sqrtCore Format.binary64 m e = (r, t, a) ∧
      Describes r a t q ∧ (52 ≤ r.log2 ∨ t ≤ -1074) ∧
        ∀ k : Int, 2 ^ (2 * k) ≤ (m : ℚ) * 2 ^ e → 2 ^ k ≤ q := by
  set t := min (e / 2) (max (((m.log2 : Int) + 1 + e + 1) / 2 - 53) (-1074)) with ht
  set n := m <<< (e - 2 * t).toNat with hn
  have hunit : (0 : ℚ) < 2 ^ t := by positivity
  have hvalue : (m : ℚ) * 2 ^ e = n * 2 ^ (2 * t) := by
    rw [zpow_add_toNat (e := 2 * t) (t := e) (by omega), hn, Nat.shiftLeft_eq]
    push_cast
    ring
  -- behind the point of an inexact root is something, and one half is as good as what it is
  obtain ⟨a, q, hcore, hdescribes, hlow⟩ : ∃ (a : Accuracy) (q : ℚ),
      sqrtCore Format.binary64 m e = (n.sqrt, t, a) ∧ Describes n.sqrt a t q ∧
        (n.sqrt : ℚ) * 2 ^ t ≤ q := by
    by_cases hrem : n - n.sqrt * n.sqrt = 0
    · refine ⟨.exact, n.sqrt * 2 ^ t, ?_, describes_exact _ _, le_refl _⟩
      exact congrArg (fun a => (n.sqrt, t, a)) (if_pos hrem)
    · have hhalf : (n.sqrt : ℚ) * 2 ^ t < (n.sqrt + 1 / 2) * 2 ^ t :=
        mul_lt_mul_of_pos_right (by norm_num) hunit
      refine ⟨_, (n.sqrt + 1 / 2) * 2 ^ t,
        congrArg (fun a => (n.sqrt, t, a)) (if_neg hrem), ⟨hhalf.le, ?_, ?_⟩, hhalf.le⟩
      · exact mul_lt_mul_of_pos_right (by norm_num) hunit
      · exact fun heq => absurd heq hhalf.ne'
  refine ⟨n.sqrt, t, a, q, hcore, hdescribes, ?_, fun k hk => ?_⟩
  · refine or_iff_not_imp_right.mpr fun hbottom => ?_
    have hfull : 2 ^ 52 ≤ n.sqrt := by
      rw [Nat.le_sqrt, ← pow_add, ← Nat.le_log2 (by rw [hn, Nat.shiftLeft_eq]; positivity)]
      have hlog := log2_add_le_log2_shiftLeft hm.ne' (e - 2 * t).toNat
      rw [← hn] at hlog
      omega
    rwa [Nat.le_log2 (by omega)]
  · refine le_trans ?_ hlow
    have hpos : 1 ≤ n.sqrt := by
      rw [Nat.le_sqrt, hn, Nat.shiftLeft_eq]
      exact Nat.succ_le_of_lt (by positivity)
    rcases le_total k t with hkt | hkt
    · have hone : (1 : ℚ) ≤ n.sqrt := by exact_mod_cast hpos
      exact (zpow_le_zpow_right₀ (by norm_num) hkt).trans (le_mul_of_one_le_left hunit.le hone)
    · rw [hvalue, zpow_add_toNat (e := 2 * t) (t := 2 * k) (by omega)] at hk
      have hsquare : 2 ^ (2 * k - 2 * t).toNat ≤ n := by
        exact_mod_cast le_of_mul_le_mul_right hk (by positivity)
      have hroot : 2 ^ (k - t).toNat ≤ n.sqrt := by
        rw [Nat.le_sqrt, ← pow_add]
        exact (Nat.pow_le_pow_right (by decide) (by omega)).trans hsquare
      rw [zpow_add_toNat hkt]
      exact mul_le_mul_of_nonneg_right (by exact_mod_cast hroot) hunit.le

/-! ### Roots of numbers -/

theorem value_eq_zero_of_not_isFinite {x : Float} (h : ¬ x.isFinite) : value x = 0 := by
  rw [isFinite_iff] at h
  rw [value]
  cases hx : exact x with
  | finite negative m e => exact absurd ⟨negative, m, e, hx⟩ h
  | _ => rfl

/-- Zero, or at least the root of the least positive number. -/
def Appreciable (x : Float) : Prop :=
  value x = 0 ∨ 2 ^ (-537 : Int) ≤ value x

theorem appreciable_sqrt {x : Float} (hx : Unsigned x) : Appreciable x.sqrt := by
  by_cases hfinite : x.sqrt.isFinite
  · have hpack : x.sqrt =
        .ofModel (.pack (UnpackedFloat.sqrt Format.binary64 x.toModel.unpack)) := rfl
    rw [Unsigned] at hx
    cases hu : x.toModel.unpack with
    | notANumber =>
      rw [hpack, hu] at hfinite
      cases hfinite
    | infinity s =>
      rw [hu] at hx
      cases hx
      rw [hpack, hu] at hfinite
      cases hfinite
    | zero s =>
      refine .inl ?_
      rw [hpack, hu, UnpackedFloat.sqrt, value, exact_pack_zero]
      cases s <;> simp [valueOf, signed]
    | finite s m e hm =>
      rw [hu] at hx
      cases hx
      obtain ⟨r, t, a, q, hcore, hdescribes, hfull, hroot⟩ := exists_describes_sqrtCore hm e
      have hrounds : Rounds q x.sqrt := by
        rw [hpack, hu, UnpackedFloat.sqrt, hcore]
        exact rounds_roundWithAccuracy hdescribes hfull .positive
      obtain ⟨hc, -⟩ := canonical_of_unpack hu
      have hsmallest : 2 ^ (2 * (-537) : Int) ≤ (m : ℚ) * 2 ^ e := by
        have hone : (1 : ℚ) ≤ m := by exact_mod_cast hm
        exact (zpow_le_zpow_right₀ (by norm_num) hc.bottom).trans
          (le_mul_of_one_le_left (by positivity) hone)
      exact .inr (hrounds.le_value hfinite (representable_zpow (by decide) (by decide))
        (hroot _ hsmallest))
  · exact .inl (value_eq_zero_of_not_isFinite hfinite)

/-- A sum of such numbers is zero or as great as one of them. -/
theorem Appreciable.add {x y : Float} (hx : Appreciable x) (hy : Appreciable y)
    (h : (x + y).isFinite) : Appreciable (x + y) := by
  obtain ⟨hfx, hfy⟩ := isFinite_of_add h
  have hrounds := rounds_add hfx hfy
  have hpos : (0 : ℚ) < 2 ^ (-537 : Int) := by positivity
  by_cases hzero : value x = 0 ∧ value y = 0
  · rw [hzero.1, hzero.2, add_zero] at hrounds
    exact .inl (hrounds.value_eq representable_zero).2
  · refine .inr (hrounds.le_value h (representable_zpow (by decide) (by decide)) ?_)
    rcases hx with hx | hx <;> rcases hy with hy | hy
    · exact absurd ⟨hx, hy⟩ hzero
    · linarith
    · linarith
    · linarith

end NavScript.Binary64
