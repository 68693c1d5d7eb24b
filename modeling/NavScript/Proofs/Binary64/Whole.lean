import NavScript.Proofs.Binary64.Arithmetic

namespace NavScript.Binary64

open NavScript.Decimal
open Float.Model Float.Model.UnpackedFloat

/-!
# Whole numbers

A number of at most 53 binary digits has one word, and a sum of such numbers that has no more digits
is that word, not only a number of the same value: a sum of opposite numbers is zero without a sign.

* `eq_of_exact`, `eq_of_value` — the word of a number
* `value_ofInt`, `ofInt_le_ofInt` — whole numbers are kept, and their order
* `ofInt_add` — their sums are exact
-/

/-! ### Words of one value -/

/-- The fields of a word with a finite exact value. -/
theorem fields_of_exactOfBits {bits m : Nat} {negative : Bool} {q : Int}
    (h : exactOfBits bits = .finite negative m q) :
    negative = (bits / signBit == 1) ∧
      ((bits / leadingOne % 2048 = 0 ∧ m = bits % leadingOne ∧ q = -1074) ∨
        (bits / leadingOne % 2048 ≠ 0 ∧ m = leadingOne + bits % leadingOne ∧
          q = (bits / leadingOne % 2048 : Nat) - 1075)) := by
  unfold exactOfBits at h
  dsimp only at h
  split at h
  · split at h <;> cases h
  · split at h
    · rename_i hzero
      cases h
      exact ⟨rfl, .inl ⟨hzero, rfl, rfl⟩⟩
    · rename_i hzero
      cases h
      exact ⟨rfl, .inr ⟨hzero, rfl, rfl⟩⟩

theorem eq_of_exactOfBits {a b m : Nat} {negative : Bool} {q : Int} (ha : a < 2 ^ 64)
    (hb : b < 2 ^ 64) (h : exactOfBits a = .finite negative m q)
    (h' : exactOfBits b = .finite negative m q) : a = b := by
  obtain ⟨hsign, hfields⟩ := fields_of_exactOfBits h
  obtain ⟨hsign', hfields'⟩ := fields_of_exactOfBits h'
  have hsame : a / signBit = 1 ↔ b / signBit = 1 := by
    rw [← beq_iff_eq, ← hsign, hsign', beq_iff_eq]
  simp only [signBit, leadingOne] at hsame hfields hfields'
  omega

/-- A finite number is given by its exact value. -/
theorem eq_of_exact {x y : Float} (hx : x.isFinite) (h : exact x = exact y) : x = y := by
  obtain ⟨negative, m, q, hexact⟩ := (isFinite_iff x).mp hx
  have hbits : x.toBits.toNat = y.toBits.toNat :=
    eq_of_exactOfBits x.toBits.toNat_lt y.toBits.toNat_lt hexact (h.symm.trans hexact)
  have hword : x.toModel.toBits = y.toModel.toBits := UInt64.toNat_inj.mp hbits
  obtain ⟨⟨bits, hvalid⟩⟩ := x
  obtain ⟨⟨bits', hvalid'⟩⟩ := y
  cases hword
  rfl

/-- A mantissa and an exponent are given by their value. -/
theorem Canonical.eq_of_value {m n : Nat} {e f : Int} (h : Canonical m e) (h' : Canonical n f)
    (heq : (m : ℚ) * 2 ^ e = n * 2 ^ f) : m = n ∧ e = f := by
  have hcompares := h.compares h'
  rw [heq] at hcompares
  have hcompare : (compare e f).then (compare m n) = .eq := by
    cases ho : (compare e f).then (compare m n) with
    | eq => rfl
    | lt | gt =>
      rw [ho] at hcompares
      exact absurd hcompares (lt_irrefl _)
  obtain ⟨he, hm⟩ := Ordering.then_eq_eq.mp hcompare
  exact ⟨compare_eq_iff_eq.mp hm, compare_eq_iff_eq.mp he⟩

/-- A finite number other than a zero is given by its value. -/
theorem eq_of_value {x y : Float} (hx : x.isFinite) (hy : y.isFinite) (h : value x = value y)
    (h0 : value x ≠ 0) : x = y := by
  obtain ⟨s, hu, hvalue⟩ | ⟨s, m, e, hc, hu, -, hvalue⟩ := unpack_of_isFinite hx
  · exact absurd hvalue h0
  obtain ⟨s', hu', hvalue'⟩ | ⟨s', n, f, hc', hu', -, hvalue'⟩ := unpack_of_isFinite hy
  · exact absurd (h.trans hvalue') h0
  refine eq_of_exact hx ?_
  rw [exact_eq_exactOf, exact_eq_exactOf, hu, hu']
  rw [hvalue, hvalue'] at h
  have hpos := hc.value_pos
  have hpos' := hc'.value_pos
  cases s <;> cases s' <;> simp only [isMinus, signed, if_true, Bool.false_eq_true, if_false] at h
  · obtain ⟨rfl, rfl⟩ := hc.eq_of_value hc' (neg_inj.mp h)
    rfl
  · linarith
  · linarith
  · obtain ⟨rfl, rfl⟩ := hc.eq_of_value hc' h
    rfl

/-- The sum of a number and its opposite is zero without a sign. -/
theorem add_eq_zero_of_value {x y : Float} (hx : x.isFinite) (hy : y.isFinite) (h0 : value x ≠ 0)
    (h : value x + value y = 0) : x + y = 0.0 := by
  obtain ⟨s, hu, hvalue⟩ | ⟨s, m, e, hc, hu, -, hvalue⟩ := unpack_of_isFinite hx
  · exact absurd hvalue h0
  obtain ⟨s', hu', hvalue'⟩ | ⟨s', m', e', hc', hu', -, hvalue'⟩ := unpack_of_isFinite hy
  · rw [hvalue', add_zero] at h
    exact absurd h h0
  have hsum : s.apply ((m <<< (e - min e e').toNat : Nat) : Int) +
      s'.apply ((m' <<< (e' - min e e').toNat : Nat) : Int) = 0 := by
    rw [hvalue, hvalue', ← apply_shiftLeft s m (min_le_left e e'),
      ← apply_shiftLeft s' m' (min_le_right e e'), ← add_mul] at h
    have hunit : (2 : ℚ) ^ min e e' ≠ 0 := by positivity
    exact_mod_cast (mul_eq_zero.mp h).resolve_right hunit
  have hzero : UnpackedFloat.add Format.binary64 x.toModel.unpack y.toModel.unpack =
      .zero .positive := by
    rw [hu, hu']
    change normalize Format.binary64 (s.apply ((m <<< (e - min e e').toNat : Nat) : Int) +
      s'.apply ((m' <<< (e' - min e e').toNat : Nat) : Int)) (min e e') .positive = _
    rw [hsum]
    rfl
  change Float.ofModel (.pack (UnpackedFloat.add Format.binary64 _ _)) = _
  rw [hzero]
  decide +kernel

/-! ### Whole numbers -/

/-- A whole number of at most 53 digits is kept. -/
theorem value_ofInt {n : Int} (h : n.natAbs < 2 ^ 53) :
    (Float.ofInt n).isFinite ∧ value (Float.ofInt n) = n := by
  cases n with
  | ofNat k =>
    obtain ⟨hfinite, hvalue⟩ := value_ofNat (n := k) h
    exact ⟨hfinite, by rw [Float.ofInt, hvalue]; rfl⟩
  | negSucc k =>
    obtain ⟨hfinite, hvalue⟩ := value_ofNat (n := k + 1) h
    refine ⟨isFinite_neg.trans hfinite, ?_⟩
    change value (-Float.ofNat (k + 1)) = _
    rw [value_neg, hvalue]
    push_cast [Int.negSucc_eq]
    rfl

theorem ofInt_le_ofInt {a b : Int} (ha : a.natAbs < 2 ^ 53) (hb : b.natAbs < 2 ^ 53) (h : a ≤ b) :
    Float.ofInt a ≤ Float.ofInt b := by
  obtain ⟨hfa, hva⟩ := value_ofInt ha
  obtain ⟨hfb, hvb⟩ := value_ofInt hb
  rw [le_iff_value hfa hfb, hva, hvb]
  exact_mod_cast h

/-- A sum of whole numbers is exact as long as it has no more than 53 digits. -/
theorem ofInt_add {a b : Int} (ha : a.natAbs < 2 ^ 53) (hb : b.natAbs < 2 ^ 53)
    (hab : (a + b).natAbs < 2 ^ 53) : Float.ofInt a + Float.ofInt b = Float.ofInt (a + b) := by
  obtain ⟨hfa, hva⟩ := value_ofInt ha
  obtain ⟨hfb, hvb⟩ := value_ofInt hb
  obtain ⟨hfab, hvab⟩ := value_ofInt hab
  by_cases h0 : a + b = 0
  · -- two words have the value zero, so the sum is looked at itself
    obtain rfl : b = -a := by omega
    rw [h0]
    by_cases ha0 : a = 0
    · rw [ha0]
      decide +kernel
    · refine (add_eq_zero_of_value hfa hfb ?_ ?_).trans (by decide +kernel)
      · rw [hva]
        exact_mod_cast ha0
      · rw [hva, hvb]
        push_cast
        ring
  · have hsum := rounds_add hfa hfb
    have hcast : value (Float.ofInt a) + value (Float.ofInt b) = value (Float.ofInt (a + b)) := by
      rw [hva, hvb, hvab]
      push_cast
      rfl
    rw [hcast] at hsum
    obtain ⟨hfinite, hvalue⟩ := hsum.value_eq (representable_value _)
    refine eq_of_value hfinite hfab hvalue ?_
    rw [hvalue, hvab]
    exact_mod_cast h0

end NavScript.Binary64
