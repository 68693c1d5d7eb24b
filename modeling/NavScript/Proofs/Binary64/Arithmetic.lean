import NavScript.Proofs.Binary64.Nearest

namespace NavScript.Binary64

open NavScript.Decimal
open Float.Model Float.Model.UnpackedFloat

/-!
# Arithmetic

The result of an operation on finite numbers is the rounding of the precise result, and a result is
finite only if the operands are.

* `rounds_add`, `rounds_sub`, `rounds_mul`, `rounds_div` — results are rounded
* `abs_div_sub_le` — how far a quotient is rounded
* `value_neg`, `value_abs` — sign changes are precise
* `isFinite_of_add`, `isFinite_of_mul` — operands of a finite result
* `Unsigned`, `Within` — what stays without a sign, and what stays small
-/

/-! ### Unpacking what has been packed -/

/-- A sign is known by whether it is a minus. -/
theorem isMinus_inj {s s' : Sign} : isMinus s = isMinus s' ↔ s = s' := by
  cases s <;> cases s' <;> simp [isMinus]

/-- An unpacked number is known by its exact reading. -/
theorem exactOf_injective : Function.Injective exactOf := by
  intro u v h
  cases u <;> cases v <;> simp_all [exactOf, isMinus_inj] <;> omega

/-- A word is unpacked into what has its exact value. -/
theorem unpack_eq_of_exact {x : Float} {u : UnpackedFloat} (h : exact x = exactOf u) :
    x.toModel.unpack = u := by
  rw [exact_eq_exactOf] at h
  exact exactOf_injective h

/-- Negation turns the unpacked number round. -/
theorem unpack_neg (x : Float) : (-x).toModel.unpack = x.toModel.unpack.neg := by
  refine unpack_eq_of_exact ?_
  change exact (.ofModel (.pack x.toModel.unpack.neg)) = _
  cases hx : x.toModel.unpack with
  | notANumber => rfl
  | infinity s => exact exact_pack_infinity _
  | zero s => exact exact_pack_zero _
  | finite s m e hm =>
    obtain ⟨hc, htop⟩ := canonical_of_unpack hx
    exact (exact_pack_finite hc (-s)).trans (if_neg (by omega))

/-- The absolute value drops the sign of the unpacked number. -/
theorem unpack_abs (x : Float) : x.abs.toModel.unpack = x.toModel.unpack.abs := by
  refine unpack_eq_of_exact ?_
  change exact (.ofModel (.pack x.toModel.unpack.abs)) = _
  cases hx : x.toModel.unpack with
  | notANumber => rfl
  | infinity s => exact exact_pack_infinity _
  | zero s => exact exact_pack_zero _
  | finite s m e hm =>
    obtain ⟨hc, htop⟩ := canonical_of_unpack hx
    exact (exact_pack_finite hc .positive).trans (if_neg (by omega))

/-! ### Signs -/

/-- Read exactly, a negated number differs in its sign alone. -/
theorem exact_neg (x : Float) :
    exact (-x) = match exact x with
      | .finite negative m e => .finite (!negative) m e
      | .infinite negative => .infinite (!negative)
      | .nan => .nan := by
  rw [exact_eq_exactOf, unpack_neg, exact_eq_exactOf x]
  cases x.toModel.unpack with
  | notANumber => rfl
  | infinity s | zero s | finite s => cases s <;> rfl

/-- Read exactly, an absolute value has no sign. -/
theorem exact_abs (x : Float) :
    exact x.abs = match exact x with
      | .finite _ m e => .finite false m e
      | .infinite _ => .infinite false
      | .nan => .nan := by
  rw [exact_eq_exactOf, unpack_abs, exact_eq_exactOf x]
  cases x.toModel.unpack <;> rfl

/-- Negation keeps a number finite. -/
theorem isFinite_neg {x : Float} : (-x).isFinite = x.isFinite := by
  rw [Bool.eq_iff_iff, isFinite_iff, isFinite_iff, exact_neg]
  cases exact x <;> simp

/-- So does the absolute value. -/
theorem isFinite_abs {x : Float} : x.abs.isFinite = x.isFinite := by
  rw [Bool.eq_iff_iff, isFinite_iff, isFinite_iff, exact_abs]
  cases exact x <;> simp

/-- Negation is exact. -/
theorem value_neg (x : Float) : value (-x) = -value x := by
  rw [value, value, exact_neg]
  cases exact x with
  | finite negative m e => cases negative <;> simp [valueOf, signed]
  | _ => simp [valueOf]

/-- So is the absolute value. -/
theorem value_abs (x : Float) : value x.abs = |value x| := by
  rw [value, value, exact_abs]
  cases exact x with
  | finite negative m e =>
    have hpos : (0 : ℚ) ≤ m * 2 ^ e := by positivity
    cases negative <;> simp [valueOf, signed, abs_of_nonneg hpos]
  | _ => simp [valueOf]

/-- A difference is a sum with the negated number. -/
theorem sub_eq (x y : Float) : x - y = x + -y := by
  have hsub : UnpackedFloat.sub Format.binary64 x.toModel.unpack y.toModel.unpack =
      UnpackedFloat.add Format.binary64 x.toModel.unpack y.toModel.unpack.neg := by
    cases x.toModel.unpack <;> cases y.toModel.unpack <;> try rfl
    rename_i s m e hm s' m' e' hm'
    have happly : ∀ n : Int, (-s').apply n = -s'.apply n := by
      intro n
      cases s'
      · exact (neg_neg n).symm
      · rfl
    simp only [UnpackedFloat.sub, UnpackedFloat.add, UnpackedFloat.neg, happly]
    rfl
  change Float.ofModel (.pack _) = Float.ofModel (.pack _)
  rw [hsub, unpack_neg]

/-! ### Results -/

/-- A number with a finite exact value is what that value is rounded to. -/
theorem rounds_of_exact {x : Float} {negative : Bool} {m : Nat} {e : Int}
    (h : exact x = .finite negative m e) : Rounds (signed negative (m * 2 ^ e)) x := by
  have hplace : place x = onLine (signed negative (m * 2 ^ e)) := by
    rw [place, h]
    rfl
  refine ⟨by rw [h]; exact Exact.noConfusion, fun v _ hle => ?_, fun v _ hle => ?_⟩ <;>
    rwa [hplace, onLine_le]

/-- Packing a zero rounds zero. -/
theorem rounds_pack_zero (s : Sign) : Rounds 0 (.ofModel (.pack (.zero s))) := by
  have h := rounds_of_exact (exact_pack_zero s)
  rwa [Nat.cast_zero, zero_mul, signed, neg_zero, ite_self] at h

/-- Packing a number in canonical form rounds its value. -/
theorem rounds_pack_finite {m : Nat} {e : Int} (h : Canonical m e) (htop : e ≤ 971) (s : Sign) :
    Rounds (signed (isMinus s) (m * 2 ^ e)) (.ofModel (.pack (.finite s m e h.pos))) :=
  rounds_of_exact ((exact_pack_finite h s).trans (if_neg (by omega)))

/-- A shift to the left adds its bits. -/
theorem log2_add_le_log2_shiftLeft {m : Nat} (hm : m ≠ 0) (k : Nat) :
    m.log2 + k ≤ (m <<< k).log2 := by
  rw [Nat.shiftLeft_eq, Nat.le_log2 (Nat.mul_ne_zero hm (by positivity)), pow_add]
  exact Nat.mul_le_mul_right _ (Nat.log2_self_le hm)

/-- A positive mantissa is shifted up to 53 digits and rounded. -/
theorem rounds_round (s : Sign) {m : Nat} (hm : m ≠ 0) (e : Int) :
    Rounds (signed (isMinus s) (m * 2 ^ e))
      (.ofModel (.pack (UnpackedFloat.round Format.binary64 s m e))) := by
  have hround : UnpackedFloat.round Format.binary64 s m e =
      roundWithAccuracy Format.binary64 s (m <<< (e - max (m.log2 + e - 52) (-1074)).toNat)
        (e - (e - max (m.log2 + e - 52) (-1074)).toNat) .exact := by
    rw [UnpackedFloat.round, targetExponent_totalExponent]
    rfl
  rw [hround]
  -- so many digits are missing, or so far is the exponent from the lowest
  set k := (e - max (m.log2 + e - 52) (-1074)).toNat with hk
  have hshift : ((m <<< k : Nat) : ℚ) * 2 ^ (e - k) = m * 2 ^ e := by
    rw [Nat.shiftLeft_eq, zpow_sub₀ (by norm_num), zpow_natCast]
    push_cast
    field_simp
  have hdescribes := describes_exact (m <<< k) (e - k)
  rw [hshift] at hdescribes
  refine rounds_roundWithAccuracy hdescribes ?_ s
  have hlog := log2_add_le_log2_shiftLeft hm k
  omega

/-- Bringing a whole number of units into canonical form rounds it, zero and both signs among the
    cases. -/
theorem rounds_normalize (n : Int) (e : Int) :
    Rounds (n * 2 ^ e) (.ofModel (.pack (normalize Format.binary64 n e .positive))) := by
  rw [UnpackedFloat.normalize]
  rcases lt_trichotomy n 0 with hn | rfl | hn
  · rw [compare_lt_iff_lt.mpr hn]
    have h := rounds_round .negative (m := (-n).toNat) (by omega) e
    have hcast : (((-n).toNat : Nat) : ℚ) = -n := by
      exact_mod_cast (by omega : (((-n).toNat : Nat) : Int) = -n)
    rwa [hcast, signed, if_pos (by rfl), neg_mul, neg_neg] at h
  · rw [Int.cast_zero, zero_mul]
    exact rounds_pack_zero .positive
  · rw [compare_gt_iff_gt.mpr hn]
    have h := rounds_round .positive (m := n.toNat) (by omega) e
    have hcast : ((n.toNat : Nat) : ℚ) = n := by
      exact_mod_cast (by omega : ((n.toNat : Nat) : Int) = n)
    rwa [hcast, signed, if_neg (by decide)] at h

/-! ### Operations on finite numbers -/

/-- A finite number is a zero, or has a mantissa and an exponent. -/
theorem unpack_of_isFinite {x : Float} (h : x.isFinite) :
    (∃ s, x.toModel.unpack = .zero s ∧ value x = 0) ∨
      ∃ s m e, ∃ hc : Canonical m e, x.toModel.unpack = .finite s m e hc.pos ∧ e ≤ 971 ∧
        value x = signed (isMinus s) (m * 2 ^ e) := by
  have hvalue : value x = valueOf (exactOf x.toModel.unpack) := by rw [value, exact_eq_exactOf]
  obtain ⟨negative, n, f, hx⟩ := (isFinite_iff x).mp h
  rw [exact_eq_exactOf] at hx
  cases hu : x.toModel.unpack with
  | notANumber | infinity s =>
    rw [hu] at hx
    exact Exact.noConfusion hx
  | zero s =>
    refine .inl ⟨s, rfl, ?_⟩
    rw [hvalue, hu]
    cases s <;> simp [exactOf, valueOf, signed]
  | finite s m e hm =>
    obtain ⟨hc, htop⟩ := canonical_of_unpack hu
    refine .inr ⟨s, m, e, hc, rfl, htop, ?_⟩
    rw [hvalue, hu]
    rfl

/-- A mantissa brought down to a lesser exponent. -/
theorem apply_shiftLeft (s : Sign) (m : Nat) {e d : Int} (h : d ≤ e) :
    ((s.apply ((m <<< (e - d).toNat : Nat) : Int) : Int) : ℚ) * 2 ^ d =
      signed (isMinus s) (m * 2 ^ e) := by
  have hshift : ((m <<< (e - d).toNat : Nat) : ℚ) * 2 ^ d = m * 2 ^ e := by
    rw [Nat.shiftLeft_eq, zpow_add_toNat h]
    push_cast
    ring
  cases s with
  | negative =>
    change ((-((m <<< (e - d).toNat : Nat) : Int) : Int) : ℚ) * 2 ^ d = -(m * 2 ^ e)
    rw [Int.cast_neg, Int.cast_natCast, neg_mul, hshift]
  | positive => exact_mod_cast hshift

/-- A sum is rounded once. -/
theorem rounds_add {x y : Float} (hx : x.isFinite) (hy : y.isFinite) :
    Rounds (value x + value y) (x + y) := by
  change Rounds _ (.ofModel (.pack
    (UnpackedFloat.add Format.binary64 x.toModel.unpack y.toModel.unpack)))
  obtain ⟨s, hu, hvalue⟩ | ⟨s, m, e, hc, hu, htop, hvalue⟩ := unpack_of_isFinite hx <;>
  obtain ⟨s', hu', hvalue'⟩ | ⟨s', m', e', hc', hu', htop', hvalue'⟩ := unpack_of_isFinite hy <;>
  rw [hu, hu', hvalue, hvalue']
  · rw [add_zero, UnpackedFloat.add]
    split <;> exact rounds_pack_zero _
  · rw [zero_add]
    exact rounds_pack_finite hc' htop' s'
  · rw [add_zero]
    exact rounds_pack_finite hc htop s
  · have h := rounds_normalize (s.apply ((m <<< (e - min e e').toNat : Nat) : Int) +
      s'.apply ((m' <<< (e' - min e e').toNat : Nat) : Int)) (min e e')
    rw [Int.cast_add, add_mul, apply_shiftLeft s m (min_le_left e e'),
      apply_shiftLeft s' m' (min_le_right e e')] at h
    exact h

/-- So is a difference. -/
theorem rounds_sub {x y : Float} (hx : x.isFinite) (hy : y.isFinite) :
    Rounds (value x - value y) (x - y) := by
  have h := rounds_add hx (isFinite_neg.trans hy)
  rwa [value_neg, ← sub_eq_add_neg, ← sub_eq] at h

/-- A sign does not count for the absolute value. -/
theorem abs_signed (negative : Bool) (v : ℚ) : |signed negative v| = |v| := by
  cases negative
  · rfl
  · exact abs_neg v

/-- The sign of a product is the product of the signs. -/
theorem signed_mul (s s' : Sign) (v w : ℚ) :
    signed (isMinus s) v * signed (isMinus s') w = signed (isMinus (s * s')) (v * w) := by
  cases s <;> cases s'
  · exact neg_mul_neg v w
  · exact neg_mul v w
  · exact mul_neg v w
  · rfl

/-- A product is rounded once. -/
theorem rounds_mul {x y : Float} (hx : x.isFinite) (hy : y.isFinite) :
    Rounds (value x * value y) (x * y) := by
  change Rounds _ (.ofModel (.pack
    (UnpackedFloat.mul Format.binary64 x.toModel.unpack y.toModel.unpack)))
  obtain ⟨s, hu, hvalue⟩ | ⟨s, m, e, hc, hu, htop, hvalue⟩ := unpack_of_isFinite hx <;>
  obtain ⟨s', hu', hvalue'⟩ | ⟨s', m', e', hc', hu', htop', hvalue'⟩ := unpack_of_isFinite hy <;>
  rw [hu, hu', hvalue, hvalue']
  · rw [mul_zero]
    exact rounds_pack_zero _
  · rw [zero_mul]
    exact rounds_pack_zero _
  · rw [mul_zero]
    exact rounds_pack_zero _
  · have hproduct : ((m * m' : Nat) : ℚ) * 2 ^ (e + e') = m * 2 ^ e * (m' * 2 ^ e') := by
      rw [zpow_add₀ (by norm_num)]
      push_cast
      ring
    have hdescribes := describes_exact (m * m') (e + e')
    rw [hproduct] at hdescribes
    rw [signed_mul]
    refine rounds_roundWithAccuracy hdescribes ?_ _
    -- a product with less than 53 digits has no factor that has them
    rw [Nat.le_log2 (Nat.mul_ne_zero hc.pos.ne' hc'.pos.ne'), or_iff_not_imp_left, not_le]
    intro hlt
    have hm : m ≤ m * m' := Nat.le_mul_of_pos_right m hc'.pos
    have hm' : m' ≤ m * m' := Nat.le_mul_of_pos_left m' hc.pos
    have he : e = -1074 := hc.full.resolve_left (hm.trans_lt hlt).not_ge
    have he' : e' = -1074 := hc'.full.resolve_left (hm'.trans_lt hlt).not_ge
    omega

/-! ### Division -/

/-- The sign of a quotient is the quotient of the signs. -/
theorem signed_div (s s' : Sign) (v w : ℚ) :
    signed (isMinus s) v / signed (isMinus s') w = signed (isMinus (s / s')) (v / w) := by
  cases s <;> cases s'
  · exact neg_div_neg_eq v w
  · exact neg_div w v
  · exact div_neg v
  · rfl

/-- A quotient in units of `2 ^ t`, of which the remainder is the rest. -/
theorem measures_div (m n : Nat) (hn : 0 < n) (t : Int) :
    Measures (m / n) (accuracyOfFraction (m % n) n) t (m / n * 2 ^ t) := by
  have hn' : (n : ℚ) ≠ 0 := by exact_mod_cast hn.ne'
  have hremainder : (m : ℚ) = n * (m / n : Nat) + (m % n : Nat) := by
    exact_mod_cast (Nat.div_add_mod m n).symm
  refine ⟨_, tells_accuracyOfFraction (Nat.mod_lt m hn), ?_⟩
  rw [hremainder, add_div, mul_div_cancel_left₀ _ hn']

/-- The quotient of two positive numbers has 53 digits, or an exponent as low as there is. -/
theorem divCore_measures {m n : Nat} (hm : 0 < m) (hn : 0 < n) (e f : Int) :
    ∃ q t a, divCore Format.binary64 m e n f = (q, t, a) ∧
      Measures q a t (m * 2 ^ e / (n * 2 ^ f)) ∧ (52 ≤ q.log2 ∨ t ≤ -1074) := by
  set t := min (e - f) (max ((m.log2 : Int) + 1 + e - (n.log2 + 1 + f) - 53) (-1074)) with ht
  -- the numerator is shifted so far that the quotient has 53 digits, unless `t` is the lowest
  -- exponent
  set k := (e - f - t).toNat with hk
  refine ⟨m <<< k / n, t, accuracyOfFraction (m <<< k % n) n, ?_, ?_, ?_⟩
  · rw [divCore, targetExponent_eq]
    rfl
  · have hmeasures := measures_div (m <<< k) n hn t
    have hquotient : ((m <<< k : Nat) : ℚ) / n * 2 ^ t = m * 2 ^ e / (n * 2 ^ f) := by
      have hpow : (2 : ℚ) ^ k * 2 ^ t * 2 ^ f = 2 ^ e := by
        rw [← zpow_natCast, ← zpow_add₀ (by norm_num), ← zpow_add₀ (by norm_num)]
        congr 1
        omega
      rw [Nat.shiftLeft_eq, ← hpow]
      push_cast
      field_simp
    rwa [hquotient] at hmeasures
  · refine or_iff_not_imp_right.mpr fun hbottom => ?_
    have hfull : 2 ^ (52 + (n.log2 + 1)) ≤ m <<< k := by
      refine le_trans (Nat.pow_le_pow_right (by decide) ?_)
        (Nat.log2_self_le (by rw [Nat.shiftLeft_eq]; positivity))
      have hlog := log2_add_le_log2_shiftLeft hm.ne' k
      omega
    have hquotient : 2 ^ 52 ≤ m <<< k / n := by
      rw [Nat.le_div_iff_mul_le hn]
      refine le_trans (Nat.mul_le_mul_left _ Nat.lt_log2_self.le) ?_
      rwa [← pow_add]
    rwa [Nat.le_log2 (by omega)]

/-- A quotient by what is not zero is rounded once. -/
theorem rounds_div {x y : Float} (hx : x.isFinite) (hy : y.isFinite) (h0 : value y ≠ 0) :
    Rounds (value x / value y) (x / y) := by
  change Rounds _ (.ofModel (.pack
    (UnpackedFloat.div Format.binary64 x.toModel.unpack y.toModel.unpack)))
  obtain ⟨s', hu', hvalue'⟩ | ⟨s', m', e', hc', hu', htop', hvalue'⟩ := unpack_of_isFinite hy
  · exact absurd hvalue' h0
  obtain ⟨s, hu, hvalue⟩ | ⟨s, m, e, hc, hu, htop, hvalue⟩ := unpack_of_isFinite hx <;>
  rw [hu, hu', hvalue, hvalue']
  · rw [zero_div]
    exact rounds_pack_zero _
  · obtain ⟨q, t, a, hcore, hmeasures, hfull⟩ := divCore_measures hc.pos hc'.pos e e'
    rw [signed_div, UnpackedFloat.div, hcore]
    exact rounds_roundWithAccuracy hmeasures.describes hfull (s / s')

/-- A quotient that is not too small is rounded by a share of at most `2 ^ -53`. -/
theorem abs_div_sub_le {x y : Float} (hx : x.isFinite) (hy : y.isFinite) (h0 : value y ≠ 0)
    (hnormal : 2 ^ (-1022 : Int) ≤ |value x / value y|) (hfinite : (x / y).isFinite) :
    |value (x / y) - value x / value y| ≤ 2 ^ (-53 : Int) * |value x / value y| := by
  have hpack : x / y = .ofModel (.pack
    (UnpackedFloat.div Format.binary64 x.toModel.unpack y.toModel.unpack)) := rfl
  rw [hpack] at hfinite ⊢
  obtain ⟨s', hu', hvalue'⟩ | ⟨s', m', e', hc', hu', htop', hvalue'⟩ := unpack_of_isFinite hy
  · exact absurd hvalue' h0
  obtain ⟨s, hu, hvalue⟩ | ⟨s, m, e, hc, hu, htop, hvalue⟩ := unpack_of_isFinite hx
  · rw [hvalue, zero_div, abs_zero] at hnormal
    exact absurd hnormal (by norm_num)
  · obtain ⟨q, t, a, hcore, hmeasures, hfull⟩ := divCore_measures hc.pos hc'.pos e e'
    have hpos : (0 : ℚ) < m * 2 ^ e / (m' * 2 ^ e') := div_pos hc.value_pos hc'.value_pos
    rw [hvalue, hvalue', signed_div, abs_signed, abs_of_pos hpos] at hnormal ⊢
    rw [hu, hu', UnpackedFloat.div, hcore] at hfinite ⊢
    exact abs_value_roundWithAccuracy_sub_le hmeasures hfull (s / s') hnormal hfinite

/-! ### Operands of a finite result -/

/-- Only a finite number is packed to one. -/
theorem isFinite_of_pack {u : UnpackedFloat} (h : (Float.ofModel (.pack u)).isFinite) :
    u.isFinite := by
  obtain ⟨negative, m, e, hx⟩ := (isFinite_iff _).mp h
  cases u with
  | notANumber =>
    rw [exact_pack_notANumber] at hx
    exact Exact.noConfusion hx
  | infinity s =>
    rw [exact_pack_infinity] at hx
    exact Exact.noConfusion hx
  | zero s => rfl
  | finite s m e hm => rfl

/-- The terms of a finite sum are finite. -/
theorem isFinite_of_add {x y : Float} (h : (x + y).isFinite) : x.isFinite ∧ y.isFinite := by
  have hu := isFinite_of_pack (u := UnpackedFloat.add Format.binary64 x.toModel.unpack
    y.toModel.unpack) h
  change x.toModel.unpack.isFinite = true ∧ y.toModel.unpack.isFinite = true
  revert hu
  cases x.toModel.unpack <;> cases y.toModel.unpack <;>
    simp [UnpackedFloat.add, UnpackedFloat.isFinite]
  -- infinities of opposite signs come to no number, others stay
  rename_i s s'
  cases s <;> cases s' <;> decide

/-- The factors of a finite product are finite. -/
theorem isFinite_of_mul {x y : Float} (h : (x * y).isFinite) : x.isFinite ∧ y.isFinite := by
  have hu := isFinite_of_pack (u := UnpackedFloat.mul Format.binary64 x.toModel.unpack
    y.toModel.unpack) h
  change x.toModel.unpack.isFinite = true ∧ y.toModel.unpack.isFinite = true
  revert hu
  cases x.toModel.unpack <;> cases y.toModel.unpack <;>
    simp [UnpackedFloat.mul, UnpackedFloat.isFinite]

/-! ### Numbers without a sign -/

/-- A word has no minus sign. -/
def Plus : UnpackedFloat → Prop
  | .notANumber => True
  | .infinity s => s = .positive
  | .zero s => s = .positive
  | .finite s _ _ _ => s = .positive

/-- A number has no minus sign, not even that of negative zero. -/
def Unsigned (x : Float) : Prop := Plus x.toModel.unpack

/-- A word without the bit of the sign unpacks to a number without a minus. -/
theorem plus_unpack {b : BitVec Format.binary64.numBits}
    (h : Sign.ofBitVec (unpackSign b) = .positive) : Plus (.unpack Format.binary64 b) := by
  unfold UnpackedFloat.unpack
  simp only [h]
  split
  · split <;> trivial
  · split
    · split <;> trivial
    · trivial

/-- A number without a minus is packed to a word without the bit of the sign. -/
theorem unpackSign_pack {u : UnpackedFloat} (hu : Plus u) (hn : u ≠ .notANumber) :
    Sign.ofBitVec (unpackSign (UnpackedFloat.pack Format.binary64 u)) = .positive := by
  cases u with
  | notANumber => exact absurd rfl hn
  | infinity s | zero s =>
    cases hu
    rfl
  | finite s m e hm =>
    cases hu
    unfold UnpackedFloat.pack
    dsimp only
    split
    · rfl
    · split <;> rw [unpackSign_packComponents, Sign.ofBitVec_toBitVec]

/-- So what it is packed to has no minus, even if it is not a number. -/
theorem unsigned_pack {u : UnpackedFloat} (h : Plus u) : Unsigned (.ofModel (.pack u)) := by
  by_cases hn : u = .notANumber
  · rw [hn]
    trivial
  · exact plus_unpack (unpackSign_pack h hn)

/-- Rounding keeps the sign. -/
theorem plus_roundWithAccuracy (m : Nat) (e : Int) (a : Accuracy) :
    Plus (roundWithAccuracy Format.binary64 .positive m e a) := by
  unfold roundWithAccuracy
  dsimp only
  split <;> rfl

/-- Whole numbers that are not negative come to numbers without a minus. -/
theorem plus_normalize {n : Int} (hn : 0 ≤ n) (e : Int) :
    Plus (normalize Format.binary64 n e .positive) := by
  rw [UnpackedFloat.normalize]
  rcases hn.eq_or_lt with rfl | hpos
  · rfl
  · rw [compare_gt_iff_gt.mpr hpos]
    exact plus_roundWithAccuracy _ _ _

/-- A square has no minus. -/
theorem unsigned_mul_self (x : Float) : Unsigned (x * x) := by
  refine unsigned_pack (u := UnpackedFloat.mul Format.binary64 x.toModel.unpack x.toModel.unpack) ?_
  cases x.toModel.unpack with
  | notANumber => trivial
  | infinity s | zero s => cases s <;> rfl
  | finite s m e hm => cases s <;> exact plus_roundWithAccuracy _ _ _

/-- A sum of two numbers without a minus has none. -/
theorem Unsigned.add {x y : Float} (hx : Unsigned x) (hy : Unsigned y) : Unsigned (x + y) := by
  refine unsigned_pack (u := UnpackedFloat.add Format.binary64 x.toModel.unpack y.toModel.unpack) ?_
  revert hx hy
  rw [Unsigned, Unsigned]
  have hsum : ∀ m n : Nat, (0 : Int) ≤ m + n := fun m n => by omega
  cases x.toModel.unpack <;> cases y.toModel.unpack <;> intro hx hy <;> cases hx <;> cases hy <;>
    first | trivial | exact plus_normalize (hsum _ _) _

/-- The root of a number without a minus has none. -/
theorem Unsigned.sqrt {x : Float} (hx : Unsigned x) : Unsigned x.sqrt := by
  refine unsigned_pack (u := UnpackedFloat.sqrt Format.binary64 x.toModel.unpack) ?_
  revert hx
  rw [Unsigned]
  cases x.toModel.unpack with
  | notANumber => exact fun _ => trivial
  | infinity s => rintro ⟨⟩; rfl
  | zero s => exact fun hx => hx
  | finite s m e hm => rintro ⟨⟩; exact plus_roundWithAccuracy _ _ _

/-- A number without a minus is not negative. -/
theorem Unsigned.value_nonneg {x : Float} (h : Unsigned x) : 0 ≤ value x := by
  rw [value, exact_eq_exactOf]
  revert h
  rw [Unsigned]
  cases x.toModel.unpack with
  | notANumber | infinity s => exact fun _ => le_refl _
  | zero s | finite s m e hm =>
    rintro ⟨⟩
    simp only [exactOf, valueOf, signed, isMinus, Bool.false_eq_true, if_false]
    positivity

/-- Zero, as it is written, is the zero without a minus. -/
theorem unpack_zero : (0.0 : Float).toModel.unpack = .zero .positive :=
  unpack_eq_of_exact (by decide +kernel)

/-- Zero has no minus. -/
theorem unsigned_zero : Unsigned 0.0 := by
  rw [Unsigned, unpack_zero]
  rfl

/-- Negative zero is as good a start for a sum as zero, unless a negative zero is added. -/
theorem Unsigned.neg_zero_add {x : Float} (h : Unsigned x) : -0.0 + x = 0.0 + x := by
  have hminus : (-0.0 : Float).toModel.unpack = .zero .negative :=
    unpack_eq_of_exact (by decide +kernel)
  change Float.ofModel (.pack (UnpackedFloat.add Format.binary64 _ _)) =
    Float.ofModel (.pack (UnpackedFloat.add Format.binary64 _ _))
  rw [hminus, unpack_zero]
  revert h
  rw [Unsigned]
  cases x.toModel.unpack with
  | zero s => rintro ⟨⟩; rfl
  | _ => exact fun _ => rfl

/-! ### Natural numbers -/

/-- Whole numbers below `2 ^ 53` are binary64 numbers. -/
theorem representable_natCast {n : Nat} (h : n < 2 ^ 53) : Representable n :=
  ⟨n, 0, by rw [Nat.abs_cast]; exact_mod_cast h, by decide, by decide, by simp⟩

theorem representable_zero : Representable 0 := by
  exact_mod_cast representable_natCast (n := 0) (by decide)

theorem representable_one : Representable 1 := by
  exact_mod_cast representable_natCast (n := 1) (by decide)

theorem isFinite_zero : (0.0 : Float).isFinite := by decide +kernel

theorem value_zero : value 0.0 = 0 := by
  rw [value, exact_eq_exactOf, unpack_zero]
  simp [exactOf, valueOf, isMinus, signed]

/-- A finite number is compared with zero by its value, whatever the sign of a zero. -/
theorem beq_zero_iff {x : Float} (hx : x.isFinite) : (x == 0.0) = true ↔ value x = 0 := by
  change (x.toModel.unpack.compare (0.0 : Float).toModel.unpack == some .eq) = true ↔ _
  obtain ⟨-, hnan | hnan⟩ | ⟨o, hc, -, -, ho⟩ := compare_cases_float x 0.0
  · exact absurd hnan (ne_nan_of_isFinite hx)
  · exact absurd hnan (ne_nan_of_isFinite isFinite_zero)
  · rw [hc]
    rw [place_eq_value hx, place_eq_value isFinite_zero, value_zero] at ho
    cases o <;> simp only [Ordering.Compares, onLine_lt, onLine_inj] at ho
    · simp [ho.ne]
    · simp [ho]
    · simp [ho.ne']

theorem isFinite_one : (1.0 : Float).isFinite := by decide +kernel

theorem value_one : value 1.0 = 1 := by
  have hexact : exact 1.0 = .finite false (2 ^ 52) (-52) := by decide +kernel
  rw [value, hexact]
  norm_num [valueOf, signed]

/-- A natural number of at most 53 digits is kept. -/
theorem value_ofNat {n : Nat} (h : n < 2 ^ 53) :
    (Float.ofNat n).isFinite ∧ value (Float.ofNat n) = n := by
  have hn := representable_natCast h
  -- the number is converted first and then multiplied by `10 ^ 0`
  have heq : Float.ofNat n = n.toUInt64.toFloat * Float.ofBits 0x3FF0000000000000 :=
    dif_pos ⟨h, Nat.zero_le 22⟩
  have hword : Rounds n n.toUInt64.toFloat := by
    have hrounds := rounds_normalize (n.toUInt64.toNat : Int) 0
    have hmod : n.toUInt64.toNat = n := Nat.mod_eq_of_lt (h.trans (by decide))
    rwa [Int.cast_natCast, zpow_zero, mul_one, ← UnpackedFloat.ofInt, ← UnpackedFloat.ofNat,
      ← UnpackedFloat.ofUInt64, ← Float.Model.ofUInt64, ← UInt64.toFloat, hmod] at hrounds
  have hone : Float.ofBits 0x3FF0000000000000 = 1.0 := by decide +kernel
  have hword' := hword.value_eq hn
  have hproduct := rounds_mul hword'.1 isFinite_one
  rw [hword'.2, value_one, mul_one] at hproduct
  rw [heq, hone]
  exact hproduct.value_eq hn

/-! ### Bounds -/

/-- So are the powers of two in the range of the format. -/
theorem representable_zpow {k : Int} (hlow : -1074 ≤ k) (hhigh : k ≤ 1023) :
    Representable (2 ^ k) := by
  by_cases hk : k ≤ 971
  · exact ⟨1, k, by decide, hlow, hk, by rw [Int.cast_one, one_mul]⟩
  · obtain ⟨n, hn⟩ : ∃ n : Nat, k = n + 971 := ⟨(k - 971).toNat, by omega⟩
    refine ⟨2 ^ n, 971, ?_, by decide, by decide, ?_⟩
    · rw [abs_of_nonneg (by positivity)]
      exact pow_lt_pow_right₀ (by decide) (by omega)
    · rw [hn, zpow_add₀ (by norm_num), zpow_natCast, Int.cast_pow, Int.cast_ofNat]

/-- A finite number that is at most `2 ^ k` away from zero. -/
structure Within (k : Int) (x : Float) : Prop where
  finite : x.isFinite
  bound : |value x| ≤ 2 ^ k

/-- What is at most a power of two away from zero is rounded to a number that is so too. -/
theorem Rounds.within {q : ℚ} {x : Float} {k : Int} (h : Rounds q x) (hlow : -1074 ≤ k)
    (hhigh : k ≤ 1023) (hq : |q| ≤ 2 ^ k) : Within k x := by
  have hv := representable_zpow hlow hhigh
  obtain ⟨hq, hq'⟩ := abs_le.mp hq
  have hx := h.isFinite hv.neg hv hq hq'
  exact ⟨hx, abs_le.mpr ⟨h.le_value hx hv.neg hq, h.value_le hx hv hq'⟩⟩

/-- What is not above a finite bound is finite. -/
theorem isFinite_of_abs_le {x bound : Float} (hbound : bound.isFinite) (h : x.abs ≤ bound) :
    x.isFinite := by
  obtain ⟨hx, -, hle⟩ := le_iff.mp h
  rw [place_eq_value hbound] at hle
  rw [← isFinite_abs]
  -- a magnitude is not below zero, and here it is not above a finite number
  refine isFinite_of_between (v := 0) hx ?_ hle
  rw [place, exact_abs]
  cases hexact : exact x with
  | nan => exact le_refl _
  | infinite negative => exact le_top
  | finite negative m e =>
    refine onLine_le.mpr ?_
    rw [signed, if_neg (by decide)]
    positivity

namespace Within

variable {k : Int} {x y : Float}

/-- What is not above a number within a bound is within it. -/
theorem of_abs_le {bound : Float} (hbound : Within k bound) (h : x.abs ≤ bound) : Within k x := by
  have hx := isFinite_of_abs_le hbound.finite h
  rw [le_iff_value (isFinite_abs.trans hx) hbound.finite, value_abs] at h
  exact ⟨hx, h.trans ((le_abs_self _).trans hbound.bound)⟩

/-- The mantissa of a number has at most 53 digits. -/
theorem of_exact {negative : Bool} {m : Nat} {e : Int} (h : exact x = .finite negative m e) :
    Within (53 + e) x := by
  refine ⟨(isFinite_iff x).mpr ⟨_, _, _, h⟩, ?_⟩
  have hm : (m : ℚ) ≤ 2 ^ 53 := by exact_mod_cast (bounds_of_exact h).1.le
  have hpos : (0 : ℚ) ≤ m * 2 ^ e := by positivity
  have hvalue : |value x| = m * 2 ^ e := by
    rw [value, h]
    cases negative <;> simp [valueOf, signed, abs_of_nonneg hpos]
  rw [hvalue, zpow_add₀ (by norm_num)]
  exact mul_le_mul_of_nonneg_right (by exact_mod_cast hm) (by positivity)

/-- A bound can be widened. -/
theorem mono {l : Int} (h : Within k x) (hkl : k ≤ l) : Within l x :=
  ⟨h.finite, h.bound.trans (zpow_le_zpow_right₀ (by norm_num) hkl)⟩

/-- Negation keeps the bound. -/
theorem neg (h : Within k x) : Within k (-x) :=
  ⟨isFinite_neg.trans h.finite, by rw [value_neg, abs_neg]; exact h.bound⟩

/-- A sum is within twice the bound: rounding does not leave it, since the bound is a binary64
    number. -/
theorem add (hx : Within k x) (hy : Within k y) (hlow : -1074 ≤ k) (hhigh : k < 1023) :
    Within (k + 1) (x + y) := by
  refine (rounds_add hx.finite hy.finite).within (by omega) (by omega) ?_
  calc |value x + value y| ≤ |value x| + |value y| := abs_add_le _ _
    _ ≤ 2 ^ k + 2 ^ k := add_le_add hx.bound hy.bound
    _ = 2 ^ (k + 1) := by
        rw [zpow_add₀ (by norm_num)]
        ring

/-- So is a difference. -/
theorem sub (hx : Within k x) (hy : Within k y) (hlow : -1074 ≤ k) (hhigh : k < 1023) :
    Within (k + 1) (x - y) := by
  rw [sub_eq]
  exact hx.add hy.neg hlow hhigh

/-- A product is within the product of the bounds. -/
theorem mul {l : Int} (hx : Within k x) (hy : Within l y) (hlow : -1074 ≤ k + l)
    (hhigh : k + l ≤ 1023) : Within (k + l) (x * y) := by
  refine (rounds_mul hx.finite hy.finite).within hlow hhigh ?_
  rw [abs_mul, zpow_add₀ (by norm_num)]
  exact mul_le_mul hx.bound hy.bound (abs_nonneg _) (by positivity)

/-- A share of a number is no greater than the number. -/
theorem mul_share (hx : Within k x) (hy : y.isFinite) (hy0 : 0 ≤ value y) (hy1 : value y ≤ 1)
    (hlow : -1074 ≤ k) (hhigh : k ≤ 1023) : Within k (x * y) := by
  refine (rounds_mul hx.finite hy).within hlow hhigh ?_
  rw [abs_mul, abs_of_nonneg hy0]
  exact (mul_le_of_le_one_right (abs_nonneg _) hy1).trans hx.bound

end Within

end NavScript.Binary64
