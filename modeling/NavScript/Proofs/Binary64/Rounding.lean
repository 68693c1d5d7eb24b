import NavScript.Proofs.Binary64.Order

namespace NavScript.Binary64

open NavScript.Decimal
open Float.Model Float.Model.UnpackedFloat

/-!
# Rounding

A result of arithmetic is computed as a mantissa with an accuracy, which tells how it relates to the
infinitely precise result, and then rounded to 53 digits.  All that the proofs use of rounding is
that it never steps over a number: a representable number below the precise result is not above the
rounded one, and one above it is not below.

* `Representable` — a rational number that is the value of a finite number
* `Rounds` — a number that a rational number is rounded to
* `rounds_roundWithAccuracy` — the rounding of a mantissa with an accuracy is such a number
* `Rounds.isFinite`, `Rounds.value_eq` — what is known of the rounded number
-/

/-! ### Mantissas with an accuracy -/

/-- A mantissa is `q` in units of `2 ^ e` without what is behind the point, and its accuracy tells
    if that is anything. -/
structure Describes (m : Nat) (a : Accuracy) (e : Int) (q : ℚ) : Prop where
  low : (m : ℚ) * 2 ^ e ≤ q
  high : q < (m + 1) * 2 ^ e
  exact_of_eq : q = m * 2 ^ e → a = .exact

/-- An integer in units of `2 ^ e` is next to `q`: no multiple of the unit lies between them. -/
structure NextTo (r : Nat) (e : Int) (q : ℚ) : Prop where
  below : ∀ n : Int, n * 2 ^ e ≤ q → n ≤ r
  above : ∀ n : Int, q ≤ n * 2 ^ e → (r : Int) ≤ n

/-- An exact mantissa describes its own value. -/
theorem describes_exact (m : Nat) (e : Int) : Describes m .exact e (m * 2 ^ e) :=
  ⟨le_refl _, mul_lt_mul_of_pos_right (by linarith) (by positivity), fun _ => rfl⟩

/-- The rounded mantissa is the mantissa or, if that is not exact, may be the one above. -/
theorem roundToNearestEven_cases (m : Nat) (a : Accuracy) :
    a.roundToNearestEven m = m ∨ a ≠ .exact ∧ a.roundToNearestEven m = m + 1 := by
  cases a with
  | exact => exact .inl rfl
  | inexact o =>
    cases o with
    | lt => exact .inl rfl
    | eq =>
      change m + m % 2 = m ∨ _ ∧ m + m % 2 = m + 1
      rcases Nat.mod_two_eq_zero_or_one m with h | h
      · exact .inl (by omega)
      · exact .inr ⟨Accuracy.noConfusion, by omega⟩
    | gt => exact .inr ⟨Accuracy.noConfusion, rfl⟩

/-- Rounding what describes a value gives one of the two whole numbers of units next to it. -/
theorem Describes.nextTo {m : Nat} {a : Accuracy} {e : Int} {q : ℚ} (h : Describes m a e q) :
    NextTo (a.roundToNearestEven m) e q := by
  have hunit : (0 : ℚ) < 2 ^ e := by positivity
  have hbelow : ∀ n : Int, n * 2 ^ e ≤ q → n ≤ m := by
    intro n hn
    have hlt : (n : ℚ) < m + 1 := lt_of_mul_lt_mul_right (hn.trans_lt h.high) hunit.le
    have hlt' : n < m + 1 := by exact_mod_cast hlt
    omega
  have habove : ∀ n : Int, q ≤ n * 2 ^ e → (m : Int) ≤ n := by
    intro n hn
    have hle : (m : ℚ) ≤ n := le_of_mul_le_mul_right (h.low.trans hn) hunit
    exact_mod_cast hle
  rcases roundToNearestEven_cases m a with hr | ⟨hinexact, hr⟩
  · rw [hr]
    exact ⟨hbelow, habove⟩
  · rw [hr]
    refine ⟨fun n hn => (hbelow n hn).trans (by omega), fun n hn => ?_⟩
    have hle := habove n hn
    -- the mantissa itself is not above `q`, or it would be exact
    have hne : (m : Int) ≠ n := by
      rintro rfl
      exact hinexact (h.exact_of_eq (le_antisymm (by exact_mod_cast hn) h.low))
    omega

/-! ### Shifting a mantissa -/

/-- A mantissa with an accuracy put together, and taken apart again. -/
theorem mantissa_ofMantissaAndAccuracy (m : Nat) (a : Accuracy) :
    (ExtendedMantissa.ofMantissaAndAccuracy m a).mantissa = m := by
  cases a with
  | exact => rfl
  | inexact o => cases o <;> rfl

theorem accuracy_ofMantissaAndAccuracy (m : Nat) (a : Accuracy) :
    (ExtendedMantissa.ofMantissaAndAccuracy m a).accuracy = a := by
  cases a with
  | exact => rfl
  | inexact o => cases o <;> rfl

/-- A shift of an even mantissa that is exact loses nothing. -/
theorem shiftRightOne_accuracy_eq_exact {em : ExtendedMantissa} (heven : em.mantissa % 2 = 0)
    (hexact : em.accuracy = .exact) : em.shiftRightOne.accuracy = .exact := by
  obtain ⟨m, r, s⟩ := em
  cases r <;> cases s <;> simp_all [ExtendedMantissa.accuracy, ExtendedMantissa.shiftRightOne]

/-- A shift to the right describes the same value in units twice as large. -/
theorem Describes.shiftRightOne {em : ExtendedMantissa} {e : Int} {q : ℚ}
    (h : Describes em.mantissa em.accuracy e q) :
    Describes em.shiftRightOne.mantissa em.shiftRightOne.accuracy (e + 1) q := by
  have hunit : (0 : ℚ) < 2 ^ e := by positivity
  have hhalf : ∀ v : ℚ, v * 2 ^ (e + 1) = (v * 2) * 2 ^ e := by
    intro v
    rw [zpow_add₀ (by norm_num)]
    ring
  have hmantissa : em.shiftRightOne.mantissa = em.mantissa / 2 := rfl
  have hlow : ((em.mantissa / 2 : Nat) : ℚ) * 2 ≤ em.mantissa := by
    exact_mod_cast (by omega : em.mantissa / 2 * 2 ≤ em.mantissa)
  have hhigh : (em.mantissa : ℚ) + 1 ≤ ((em.mantissa / 2 : Nat) + 1) * 2 := by
    exact_mod_cast (by omega : em.mantissa + 1 ≤ (em.mantissa / 2 + 1) * 2)
  refine ⟨?_, ?_, fun heq => ?_⟩
  · rw [hhalf, hmantissa]
    exact (mul_le_mul_of_nonneg_right hlow hunit.le).trans h.low
  · rw [hhalf, hmantissa]
    exact h.high.trans_le (mul_le_mul_of_nonneg_right hhigh hunit.le)
  · rw [hhalf, hmantissa] at heq
    -- the digit that is cut off is a zero, and there was nothing behind it
    have hle : (em.mantissa : ℚ) ≤ (em.mantissa / 2 : Nat) * 2 :=
      le_of_mul_le_mul_right (h.low.trans heq.le) hunit
    have hle' : em.mantissa ≤ em.mantissa / 2 * 2 := by exact_mod_cast hle
    refine shiftRightOne_accuracy_eq_exact (by omega) (h.exact_of_eq ?_)
    rw [heq, le_antisymm hlow hle]

/-- What a shift by one digit keeps is kept by a shift to another exponent. -/
theorem shiftToExponent_of_step {P : ExtendedMantissa → Int → Prop}
    (hstep : ∀ {em : ExtendedMantissa} {e : Int}, P em e → P em.shiftRightOne (e + 1)) {m : Nat}
    {a : Accuracy} {e : Int} (h : P (.ofMantissaAndAccuracy m a) e) (t : Int) :
    P (shiftToExponent m e a t).1 (shiftToExponent m e a t).2 := by
  have hshift : ∀ k : Nat, P (ExtendedMantissa.ofMantissaAndAccuracy m a >>> k) (e + k) := by
    intro k
    induction k with
    | zero =>
      rw [Nat.cast_zero, add_zero]
      exact h
    | succ k ih =>
      rw [Nat.cast_succ, ← add_assoc]
      exact hstep ih
  exact hshift _

/-- Shifting to another exponent describes the same number. -/
theorem Describes.toExponent {m : Nat} {a : Accuracy} {e : Int} {q : ℚ}
    (h : Describes m a e q) (t : Int) :
    Describes (shiftToExponent m e a t).1.mantissa (shiftToExponent m e a t).1.accuracy
      (shiftToExponent m e a t).2 q := by
  refine shiftToExponent_of_step (P := fun em e => Describes em.mantissa em.accuracy e q)
    Describes.shiftRightOne ?_ t
  rwa [mantissa_ofMantissaAndAccuracy, accuracy_ofMantissaAndAccuracy]

/-! ### Rounding to 53 digits -/

/-- The exponent that a number with its highest bit at some place is rounded to. -/
theorem targetExponent_eq (t : Int) : Format.binary64.targetExponent t = max (t - 53) (-1074) := rfl

/-- The exponent that a mantissa is rounded to: 53 bits are kept, and none below the least unit. -/
theorem targetExponent_totalExponent (m : Nat) (e : Int) :
    Format.binary64.targetExponent (totalExponent m e) = max (m.log2 + e - 52) (-1074) := by
  rw [targetExponent_eq, totalExponent]
  omega

/-- A mantissa and an exponent that a positive number is rounded to, before a mantissa of `2 ^ 53`
    is brought down by one digit. -/
structure RoundsTo (q : ℚ) (r : Nat) (t : Int) : Prop where
  nextTo : NextTo r t q
  bottom : -1074 ≤ t
  low : 2 ^ 52 * 2 ^ t ≤ q ∨ t = -1074
  high : q < 2 ^ 53 * 2 ^ t

/-- A mantissa that has 53 digits, or an exponent as low as there is, can be rounded. -/
theorem Describes.roundsTo {m : Nat} {a : Accuracy} {e : Int} {q : ℚ} (h : Describes m a e q)
    (hfull : 52 ≤ m.log2 ∨ e ≤ -1074) :
    RoundsTo q (shiftToTargetExponent Format.binary64 m e a).1.roundedMantissa
      (shiftToTargetExponent Format.binary64 m e a).2 := by
  set t := max (m.log2 + e - 52) (-1074 : Int) with ht
  have hshift : shiftToTargetExponent Format.binary64 m e a = shiftToExponent m e a t := by
    rw [shiftToTargetExponent, targetExponent_totalExponent]
  have hexp : (shiftToExponent m e a t).2 = t := by
    change e + ((t - e).toNat : Int) = t
    omega
  have hnext := (h.toExponent t).nextTo
  rw [hexp] at hnext
  rw [hshift, hexp]
  refine ⟨hnext, by omega, ?_, ?_⟩
  · refine or_iff_not_imp_right.mpr fun hbottom => ?_
    have hm : m ≠ 0 := by
      rintro rfl
      have hzero : Nat.log2 0 = 0 := rfl
      omega
    have hlog : (2 : ℚ) ^ m.log2 ≤ m := by exact_mod_cast Nat.log2_self_le hm
    have hexp : (2 : ℚ) ^ 52 * 2 ^ t = 2 ^ m.log2 * 2 ^ e := by
      rw [← zpow_natCast, ← zpow_natCast, ← zpow_add₀ (by norm_num), ← zpow_add₀ (by norm_num)]
      congr 1
      push_cast
      omega
    rw [hexp]
    exact (mul_le_mul_of_nonneg_right hlog (by positivity)).trans h.low
  · have hlog : (m : ℚ) + 1 ≤ 2 ^ (m.log2 + 1) := by exact_mod_cast Nat.lt_log2_self
    refine h.high.trans_le ((mul_le_mul_of_nonneg_right hlog (by positivity)).trans ?_)
    rw [← zpow_natCast, ← zpow_natCast, ← zpow_add₀ (by norm_num), ← zpow_add₀ (by norm_num)]
    refine zpow_le_zpow_right₀ (by norm_num) ?_
    push_cast
    omega

/-- Rounding can carry into the next bit and no further. -/
theorem RoundsTo.le {q : ℚ} {r : Nat} {t : Int} (h : RoundsTo q r t) : r ≤ 2 ^ 53 := by
  have hle := h.nextTo.above (2 ^ 53) (by exact_mod_cast h.high.le)
  exact_mod_cast hle

/-- What is rounded has all of its bits, or is in the least units. -/
theorem RoundsTo.full {q : ℚ} {r : Nat} {t : Int} (h : RoundsTo q r t) :
    2 ^ 52 ≤ r ∨ t = -1074 := by
  refine h.low.imp_left fun hlow => ?_
  have hle := h.nextTo.below (2 ^ 52) (by exact_mod_cast hlow)
  exact_mod_cast hle

/-- A mantissa of at most 53 digits is not shifted. -/
theorem shiftToTargetExponent_of_lt {m : Nat} {e : Int} (hm : m < 2 ^ 53) (he : -1074 ≤ e) :
    shiftToTargetExponent Format.binary64 m e .exact = (⟨m, false, false⟩, e) := by
  have hlog : m.log2 ≤ 52 := by
    by_cases h0 : m = 0
    · rw [h0]
      decide
    · exact Nat.lt_succ_iff.mp ((Nat.log2_lt h0).mpr hm)
  have hk : (max ((m.log2 : Int) + e - 52) (-1074) - e).toNat = 0 := by omega
  rw [shiftToTargetExponent, targetExponent_totalExponent, shiftToExponent, hk]
  exact Prod.ext rfl (add_zero e)

/-- A mantissa of `2 ^ 53` is shifted by one digit. -/
theorem shiftToTargetExponent_of_eq {e : Int} (he : -1074 ≤ e) :
    shiftToTargetExponent Format.binary64 (2 ^ 53) e .exact = (⟨2 ^ 52, false, false⟩, e + 1) := by
  have hk : (max (((2 ^ 53 : Nat).log2 : Int) + e - 52) (-1074) - e).toNat = 1 := by
    rw [Nat.log2_two_pow]
    omega
  rw [shiftToTargetExponent, targetExponent_totalExponent, shiftToExponent, hk]
  rfl

/-- The exact value of a rounded mantissa that has been packed: too great for a finite number, or
    that of the mantissa. -/
theorem exact_pack_of_roundsTo {m : Nat} {a : Accuracy} {e t : Int}
    {em : ExtendedMantissa} {r : Nat}
    {q : ℚ} (hshift : shiftToTargetExponent Format.binary64 m e a = (em, t))
    (hmantissa : em.roundedMantissa = r) (hrounds : RoundsTo q r t) (s : Sign) :
    (2 ^ (1024 : Int) ≤ (r : ℚ) * 2 ^ t ∧
        exact (.ofModel (.pack (roundWithAccuracy Format.binary64 s m e a))) =
          .infinite (isMinus s)) ∨
      ∃ (m' : Nat) (e' : Int), (m' : ℚ) * 2 ^ e' = r * 2 ^ t ∧
        exact (.ofModel (.pack (roundWithAccuracy Format.binary64 s m e a))) =
          .finite (isMinus s) m' e' := by
  unfold roundWithAccuracy
  rw [hshift]
  dsimp only
  rw [hmantissa]
  have hbottom := hrounds.bottom
  have htop : ∀ k : Nat, 2 ^ k ≤ r → (1024 : Int) ≤ k + t → (2 : ℚ) ^ (1024 : Int) ≤ r * 2 ^ t := by
    intro k hk ht
    have hk' : (2 : ℚ) ^ k ≤ r := by exact_mod_cast hk
    refine le_trans ?_ (mul_le_mul_of_nonneg_right hk' (by positivity))
    rw [← zpow_natCast, ← zpow_add₀ (by norm_num)]
    exact zpow_le_zpow_right₀ (by norm_num) ht
  rcases hrounds.le.lt_or_eq with hlt | rfl
  · simp only [shiftToTargetExponent_of_lt hlt hbottom]
    by_cases h0 : r = 0
    · refine .inr ⟨0, -1074, by simp [h0], ?_⟩
      simp only [h0, dif_pos, exact_pack_zero]
    · have hc : Canonical r t := ⟨Nat.pos_of_ne_zero h0, hlt, hbottom, hrounds.full⟩
      rw [dif_neg h0, exact_pack_finite hc]
      by_cases ht : 971 < t
      · have hr : 2 ^ 52 ≤ r := hrounds.full.resolve_right (by omega)
        exact .inl ⟨htop 52 hr (by push_cast; omega), if_pos ht⟩
      · exact .inr ⟨r, t, rfl, if_neg ht⟩
  · simp only [shiftToTargetExponent_of_eq hbottom]
    have hc : Canonical (2 ^ 52) (t + 1) :=
      ⟨by decide, by decide, by omega, .inl (le_refl _)⟩
    rw [dif_neg (by decide), exact_pack_finite hc]
    by_cases ht : 971 < t + 1
    · exact .inl ⟨htop 53 (le_refl _) (by push_cast; omega), if_pos ht⟩
    · refine .inr ⟨2 ^ 52, t + 1, ?_, if_neg ht⟩
      rw [zpow_add₀ (by norm_num)]
      push_cast
      ring

/-- A mantissa that has been described is rounded, and then packed. -/
theorem exact_pack_roundWithAccuracy {m : Nat} {a : Accuracy} {e : Int} {q : ℚ}
    (h : Describes m a e q) (hfull : 52 ≤ m.log2 ∨ e ≤ -1074) (s : Sign) :
    ∃ (r : Nat) (t : Int), RoundsTo q r t ∧
      ((2 ^ (1024 : Int) ≤ (r : ℚ) * 2 ^ t ∧
          exact (.ofModel (.pack (roundWithAccuracy Format.binary64 s m e a))) =
            .infinite (isMinus s)) ∨
        ∃ (m' : Nat) (e' : Int), (m' : ℚ) * 2 ^ e' = r * 2 ^ t ∧
          exact (.ofModel (.pack (roundWithAccuracy Format.binary64 s m e a))) =
            .finite (isMinus s) m' e') :=
  ⟨_, _, h.roundsTo hfull, exact_pack_of_roundsTo rfl rfl (h.roundsTo hfull) s⟩

/-! ### Representable numbers -/

/-- A rational number of at most 53 binary digits in the range of finite numbers. -/
def Representable (v : ℚ) : Prop :=
  ∃ (n e : Int), |n| < 2 ^ 53 ∧ -1074 ≤ e ∧ e ≤ 971 ∧ v = n * 2 ^ e

/-- The negated number is a binary64 number, too. -/
theorem Representable.neg {v : ℚ} (h : Representable v) : Representable (-v) := by
  obtain ⟨n, e, hn, he, he', rfl⟩ := h
  exact ⟨-n, e, by rwa [abs_neg], he, he', by push_cast; ring⟩

/-- So it is with any sign. -/
theorem Representable.signed {v : ℚ} (h : Representable v) (negative : Bool) :
    Representable (signed negative v) := by
  cases negative
  · exact h
  · exact h.neg

/-- Binary64 numbers lie below `2 ^ 1024`. -/
theorem Representable.lt {v : ℚ} (h : Representable v) : v < 2 ^ (1024 : Int) := by
  obtain ⟨n, e, hn, he, he', rfl⟩ := h
  have hn' : (n : ℚ) < 2 ^ 53 := by exact_mod_cast (le_abs_self n).trans_lt hn
  calc (n : ℚ) * 2 ^ e < 2 ^ 53 * 2 ^ e := mul_lt_mul_of_pos_right hn' (by positivity)
    _ ≤ 2 ^ 53 * 2 ^ (971 : Int) :=
        mul_le_mul_of_nonneg_left (zpow_le_zpow_right₀ (by norm_num) he') (by positivity)
    _ = 2 ^ (1024 : Int) := by
        rw [← zpow_natCast, ← zpow_add₀ (by norm_num)]
        rfl

/-- The value of a binary64 number is one. -/
theorem representable_value (x : Float) : Representable (value x) := by
  rw [value]
  cases hx : exact x with
  | finite negative m e =>
    obtain ⟨hm, hbottom, htop⟩ := bounds_of_exact hx
    have habs : |(m : Int)| < 2 ^ 53 := by rw [Nat.abs_cast]; exact_mod_cast hm
    have hr : Representable (m * 2 ^ e) := ⟨m, e, habs, hbottom, htop, by push_cast; ring⟩
    exact hr.signed negative
  | _ => exact ⟨0, 0, by decide, by decide, by decide, by simp [valueOf]⟩

/-- A power of two in smaller units. -/
theorem zpow_add_toNat {e t : Int} (h : e ≤ t) :
    (2 : ℚ) ^ t = 2 ^ (t - e).toNat * 2 ^ e := by
  rw [← zpow_natCast, ← zpow_add₀ (by norm_num)]
  congr 1
  omega

/-- Rounding a positive number does not step over a representable one. -/
theorem RoundsTo.mono {q v : ℚ} {r : Nat} {t : Int} (h : RoundsTo q r t) (hv : Representable v) :
    (v ≤ q → v ≤ r * 2 ^ t) ∧ (q ≤ v → (r : ℚ) * 2 ^ t ≤ v) := by
  obtain ⟨n, e, hn, he, he', rfl⟩ := hv
  have hunit : (0 : ℚ) < 2 ^ t := by positivity
  by_cases hte : t ≤ e
  · -- `v` is a multiple of the unit of `q`
    have hmultiple : (n : ℚ) * 2 ^ e = (n * 2 ^ (e - t).toNat : Int) * 2 ^ t := by
      rw [zpow_add_toNat hte]
      push_cast
      ring
    rw [hmultiple]
    refine ⟨fun hle => ?_, fun hle => ?_⟩
    · exact mul_le_mul_of_nonneg_right (by exact_mod_cast h.nextTo.below _ hle) hunit.le
    · exact mul_le_mul_of_nonneg_right (by exact_mod_cast h.nextTo.above _ hle) hunit.le
  · -- `v` is below the least number with the exponent of `q`
    have hne : t ≠ -1074 := by omega
    have hn' : (n : ℚ) < 2 ^ 53 := by exact_mod_cast (le_abs_self n).trans_lt hn
    have hlt : (n : ℚ) * 2 ^ e < 2 ^ 52 * 2 ^ t := by
      calc (n : ℚ) * 2 ^ e < 2 ^ 53 * 2 ^ e := mul_lt_mul_of_pos_right hn' (by positivity)
        _ = 2 ^ 52 * 2 ^ (e + 1) := by
            rw [zpow_add₀ (by norm_num)]
            ring
        _ ≤ 2 ^ 52 * 2 ^ t :=
            mul_le_mul_of_nonneg_left (zpow_le_zpow_right₀ (by norm_num) (by omega)) (by positivity)
    refine ⟨fun _ => hlt.le.trans ?_, fun hle => ?_⟩
    · exact mul_le_mul_of_nonneg_right (by exact_mod_cast h.full.resolve_right hne) hunit.le
    · exact absurd hle ((hlt.trans_le (h.low.resolve_right hne)).not_ge)

/-! ### Rounding a rational number -/

/-- A number that a rational number is rounded to: no representable number lies strictly between
    them, and it is at an end of the line only if no representable number is beyond. -/
structure Rounds (q : ℚ) (x : Float) : Prop where
  number : exact x ≠ .nan
  floor : ∀ v, Representable v → v ≤ q → onLine v ≤ place x
  ceil : ∀ v, Representable v → q ≤ v → place x ≤ onLine v

/-- A value between two binary64 numbers is rounded to a finite number. -/
theorem Rounds.isFinite {q v w : ℚ} {x : Float} (h : Rounds q x) (hv : Representable v)
    (hw : Representable w) (hvq : v ≤ q) (hqw : q ≤ w) : x.isFinite :=
  isFinite_of_between h.number (h.floor v hv hvq) (h.ceil w hw hqw)

/-- Rounding does not go below a binary64 number that is not above the value. -/
theorem Rounds.le_value {q v : ℚ} {x : Float} (h : Rounds q x) (hx : x.isFinite)
    (hv : Representable v) (hvq : v ≤ q) : v ≤ value x := by
  have hle := h.floor v hv hvq
  rwa [place_eq_value hx, onLine_le] at hle

/-- Nor above one that is not below it. -/
theorem Rounds.value_le {q v : ℚ} {x : Float} (h : Rounds q x) (hx : x.isFinite)
    (hv : Representable v) (hqv : q ≤ v) : value x ≤ v := by
  have hle := h.ceil v hv hqv
  rwa [place_eq_value hx, onLine_le] at hle

/-- A representable number is rounded to itself. -/
theorem Rounds.value_eq {q : ℚ} {x : Float} (h : Rounds q x) (hq : Representable q) :
    x.isFinite ∧ value x = q := by
  have hx := h.isFinite hq hq (le_refl q) (le_refl q)
  exact ⟨hx, le_antisymm (h.value_le hx hq (le_refl q)) (h.le_value hx hq (le_refl q))⟩

/-- Rounding moves a number by less than a unit of 53 digits that are enough for it. -/
theorem Rounds.abs_sub_lt {q : ℚ} {x : Float} {e : Int} (h : Rounds q x) (hx : x.isFinite)
    (hlow : -1074 ≤ e) (hhigh : e ≤ 971) (hq : |q| ≤ (2 ^ 53 - 1 : Int) * 2 ^ e) :
    |value x - q| < 2 ^ e := by
  have hunit : (0 : ℚ) < 2 ^ e := by positivity
  obtain ⟨r, rfl⟩ : ∃ r, q = r * 2 ^ e := ⟨q / 2 ^ e, (div_mul_cancel₀ q hunit.ne').symm⟩
  rw [abs_mul, abs_of_pos hunit, mul_le_mul_iff_left₀ hunit, abs_le] at hq
  -- the multiples of the unit on either side of the number are representable
  have hrepresentable : ∀ n : Int, -(2 ^ 53 - 1) ≤ n → n ≤ 2 ^ 53 - 1 → Representable (n * 2 ^ e) :=
    fun n hmin hmax => ⟨n, e, by rw [abs_lt]; omega, hlow, hhigh, rfl⟩
  have hmin : -(2 ^ 53 - 1) ≤ ⌊r⌋ := Int.le_floor.mpr (by exact_mod_cast hq.1)
  have hmax : ⌈r⌉ ≤ 2 ^ 53 - 1 := Int.ceil_le.mpr hq.2
  have hbelow : (⌊r⌋ : ℚ) * 2 ^ e ≤ value x :=
    h.le_value hx (hrepresentable _ hmin ((Int.floor_le_ceil r).trans hmax))
      (mul_le_mul_of_nonneg_right (Int.floor_le r) hunit.le)
  have habove : value x ≤ (⌈r⌉ : ℚ) * 2 ^ e :=
    h.value_le hx (hrepresentable _ (hmin.trans (Int.floor_le_ceil r)) hmax)
      (mul_le_mul_of_nonneg_right (Int.le_ceil r) hunit.le)
  rw [abs_sub_lt_iff]
  constructor
  · calc value x - r * 2 ^ e ≤ (⌈r⌉ - r) * 2 ^ e := by rw [sub_mul]; exact sub_le_sub_right habove _
      _ < 1 * 2 ^ e := mul_lt_mul_of_pos_right (by linarith [Int.ceil_lt_add_one r]) hunit
      _ = 2 ^ e := one_mul _
  · calc r * 2 ^ e - value x ≤ (r - ⌊r⌋) * 2 ^ e := by rw [sub_mul]; exact sub_le_sub_left hbelow _
      _ < 1 * 2 ^ e := mul_lt_mul_of_pos_right (by linarith [Int.lt_floor_add_one r]) hunit
      _ = 2 ^ e := one_mul _

/-- The rounding of a mantissa with an accuracy and a sign. -/
theorem rounds_roundWithAccuracy {m : Nat} {a : Accuracy} {e : Int} {q : ℚ}
    (h : Describes m a e q) (hfull : 52 ≤ m.log2 ∨ e ≤ -1074) (s : Sign) :
    Rounds (signed (isMinus s) q)
      (.ofModel (.pack (roundWithAccuracy Format.binary64 s m e a))) := by
  obtain ⟨r, t, hrounds, ⟨htop, hx⟩ | ⟨m', e', hvalue, hx⟩⟩ :=
    exact_pack_roundWithAccuracy h hfull s
  all_goals
    generalize Float.ofModel (.pack (roundWithAccuracy Format.binary64 s m e a)) = x at hx ⊢
    have hnumber : exact x ≠ .nan := by
      rw [hx]
      exact Exact.noConfusion
  · -- a magnitude beyond the finite numbers
    have hbeyond : ∀ v, Representable v → ¬ q ≤ v := fun v hv hle =>
      (hv.lt.trans_le htop).not_ge ((hrounds.mono hv).2 hle)
    cases s with
    | positive =>
      have hplace : place x = ⊤ := by rw [place, hx]; rfl
      exact ⟨hnumber, fun v _ _ => hplace ▸ le_top, fun v hv hle => absurd hle (hbeyond v hv)⟩
    | negative =>
      have hplace : place x = ⊥ := by rw [place, hx]; rfl
      exact ⟨hnumber, fun v hv hle => absurd (le_neg_of_le_neg hle) (hbeyond (-v) hv.neg),
        fun v _ _ => hplace ▸ bot_le⟩
  · have hplace : place x = onLine (signed (isMinus s) (r * 2 ^ t)) := by
      rw [place, hx, placeOf, hvalue]
    cases s with
    | positive =>
      refine ⟨hnumber, fun v hv hle => ?_, fun v hv hle => ?_⟩ <;> rw [hplace, onLine_le]
      · exact (hrounds.mono hv).1 hle
      · exact (hrounds.mono hv).2 hle
    | negative =>
      refine ⟨hnumber, fun v hv hle => ?_, fun v hv hle => ?_⟩ <;> rw [hplace, onLine_le]
      · exact le_neg_of_le_neg ((hrounds.mono hv.neg).2 (le_neg_of_le_neg hle))
      · exact neg_le_of_neg_le ((hrounds.mono hv.neg).1 (neg_le_of_neg_le hle))

end NavScript.Binary64
