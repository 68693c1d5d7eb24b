import Mathlib
import NavScript.Decimal.Binary64

namespace NavScript.Binary64

open NavScript.Decimal
open Float.Model Float.Model.UnpackedFloat

/-!
# Binary64 words and their exact values

Arithmetic takes a word apart into sign, mantissa and exponent, computes with these, and packs what
it gets into a word again.  The exact value of a number can be read off the unpacked word, and it is
the same before and after packing.

* `exactOf` — the exact value of an unpacked word
* `exact_eq_exactOf` — it is the exact value of the word
* `Canonical` — the mantissas and exponents of words
* `exact_pack_finite` — the exact value of a word that has been packed
-/

/-! ### Taking a word apart -/

/-- The sign is a minus. -/
def isMinus : Sign → Bool
  | .negative => true
  | .positive => false

/-- The exact value of an unpacked word. -/
def exactOf : UnpackedFloat → Exact
  | .notANumber => .nan
  | .infinity s => .infinite (isMinus s)
  | .zero s => .finite (isMinus s) 0 (-1074)
  | .finite s m e _ => .finite (isMinus s) m e

/-- The low 52 bits of a word. -/
theorem toNat_unpackMantissa (b : BitVec Format.binary64.numBits) :
    (unpackMantissa b).toNat = b.toNat % leadingOne := by
  rw [unpackMantissa_def, BitVec.extractLsb'_toNat]
  simp [leadingOne]

/-- The eleven bits above them. -/
theorem toNat_unpackExponent (b : BitVec Format.binary64.numBits) :
    (unpackExponent b).toNat = b.toNat / leadingOne % 2048 := by
  rw [unpackExponent_def, BitVec.extractLsb'_toNat, Nat.shiftRight_eq_div_pow]
  rfl

/-- The highest bit. -/
theorem isMinus_unpackSign (b : BitVec Format.binary64.numBits) :
    isMinus (Sign.ofBitVec (unpackSign b)) = (b.toNat / signBit == 1) := by
  have hlt : b.toNat < 2 ^ 64 := b.isLt
  have hs : (unpackSign b).toNat = b.toNat / signBit := by
    rw [unpackSign_def, BitVec.extractLsb'_toNat, Nat.shiftRight_eq_div_pow]
    change b.toNat / 2 ^ 63 % 2 = b.toNat / 2 ^ 63
    omega
  rw [← hs]
  generalize unpackSign b = s
  revert s
  decide

/-- The bit that a word does not hold, in front of those that it does. -/
theorem toNat_leadingOne_append (fraction : BitVec 52) :
    (1#1 ++ fraction).toNat = leadingOne + fraction.toNat := by
  rw [BitVec.toNat_append, ← Nat.shiftLeft_add_eq_or_of_lt fraction.isLt]
  rfl

/-- The exact value by the three fields of a word. -/
theorem exactOf_unpack (b : BitVec Format.binary64.numBits) :
    exactOf (UnpackedFloat.unpack Format.binary64 b) =
      if (unpackExponent b).toNat = 2047 then
        if (unpackMantissa b).toNat = 0 then
          .infinite (isMinus (Sign.ofBitVec (unpackSign b))) else .nan
      else if (unpackExponent b).toNat = 0 then
        .finite (isMinus (Sign.ofBitVec (unpackSign b))) (unpackMantissa b).toNat (-1074)
      else
        .finite (isMinus (Sign.ofBitVec (unpackSign b)))
          (leadingOne + (unpackMantissa b).toNat) ((unpackExponent b).toNat - 1075) := by
  have hmax : unpackExponent b = -1#_ ↔ (unpackExponent b).toNat = 2047 := by
    rw [← BitVec.toNat_inj]
    rfl
  have hzero : unpackExponent b = 0#_ ↔ (unpackExponent b).toNat = 0 := by
    rw [← BitVec.toNat_inj]
    rfl
  have hfraction : unpackMantissa b = 0#_ ↔ (unpackMantissa b).toNat = 0 := by
    rw [← BitVec.toNat_inj]
    rfl
  unfold UnpackedFloat.unpack
  simp only [hmax, hzero, hfraction]
  split
  · split <;> rfl
  · split
    · rename_i he
      split
      · rename_i hm
        rw [hm]
        rfl
      · rw [he]
        rfl
    · rw [← toNat_leadingOne_append]
      rfl

/-- A number's exact value is that of its unpacked word. -/
theorem exact_eq_exactOf (x : Float) : exact x = exactOf x.toModel.unpack := by
  rw [Float.Model.unpack.eq_def, exactOf_unpack, toNat_unpackMantissa, toNat_unpackExponent,
    isMinus_unpackSign]
  rfl

/-- A number is finite if its exact value is. -/
theorem isFinite_iff (x : Float) :
    x.isFinite = true ↔ ∃ negative m e, exact x = .finite negative m e := by
  rw [exact_eq_exactOf]
  change x.toModel.unpack.isFinite = true ↔ _
  cases x.toModel.unpack <;> simp [UnpackedFloat.isFinite, exactOf]

/-! ### Mantissas and exponents -/

/-- The mantissas and exponents of words: a mantissa has 53 digits, unless the exponent is the least
    one. -/
structure Canonical (m : Nat) (e : Int) : Prop where
  pos : 0 < m
  small : m < 2 * leadingOne
  bottom : -1074 ≤ e
  full : leadingOne ≤ m ∨ e = -1074

/-- Words unpack to numbers in canonical form, with an exponent in the range of the format. -/
theorem canonical_of_unpack {x : Float} {s : Sign} {m : Nat} {e : Int} {hm : 0 < m}
    (h : x.toModel.unpack = .finite s m e hm) : Canonical m e ∧ e ≤ 971 := by
  have hx := exact_eq_exactOf x
  rw [h, exact, exactOfBits] at hx
  dsimp only [exactOf] at hx
  have hlt := Nat.mod_lt x.toBits.toNat (show 0 < leadingOne by decide)
  split at hx
  · split at hx <;> cases hx
  · split at hx
    · simp only [Exact.finite.injEq] at hx
      obtain ⟨-, rfl, rfl⟩ := hx
      exact ⟨⟨hm, by omega, by omega, .inr rfl⟩, by omega⟩
    · simp only [Exact.finite.injEq] at hx
      obtain ⟨-, rfl, rfl⟩ := hx
      exact ⟨⟨hm, by omega, by omega, .inl (by omega)⟩, by omega⟩

/-- A mantissa of a finite number has at most 53 digits. -/
theorem bounds_of_exact {x : Float} {negative : Bool} {m : Nat} {e : Int}
    (h : exact x = .finite negative m e) : m < 2 ^ 53 ∧ -1074 ≤ e ∧ e ≤ 971 := by
  rw [exact_eq_exactOf] at h
  cases hu : x.toModel.unpack with
  | notANumber => simp [hu, exactOf] at h
  | infinity s => simp [hu, exactOf] at h
  | zero s =>
    simp only [hu, exactOf, Exact.finite.injEq] at h
    obtain ⟨-, rfl, rfl⟩ := h
    exact ⟨by decide, by decide, by decide⟩
  | finite s n f hn =>
    obtain ⟨hc, htop⟩ := canonical_of_unpack hu
    simp only [hu, exactOf, Exact.finite.injEq] at h
    obtain ⟨-, rfl, rfl⟩ := h
    exact ⟨hc.small, hc.bottom, htop⟩

/-! ### Packing a word -/

/-- A zero is packed to a zero. -/
theorem exact_pack_zero (s : Sign) :
    exact (.ofModel (.pack (.zero s))) = .finite (isMinus s) 0 (-1074) := by
  cases s <;> rfl

/-- An infinity is packed to an infinity. -/
theorem exact_pack_infinity (s : Sign) :
    exact (.ofModel (.pack (.infinity s))) = .infinite (isMinus s) := by
  cases s <;> rfl

theorem exact_pack_notANumber : exact (.ofModel (.pack .notANumber)) = .nan := rfl

/-- The exact value of a word given by its fields. -/
theorem exactOf_packComponents (s : Sign) (field fraction : Nat) (hfield : field < 2048) :
    exactOf (UnpackedFloat.unpack Format.binary64
        (packComponents Format.binary64 s (BitVec.ofNat 11 field) (BitVec.ofNat 52 fraction))) =
      if field = 2047 then
        if fraction % leadingOne = 0 then .infinite (isMinus s) else .nan
      else if field = 0 then .finite (isMinus s) (fraction % leadingOne) (-1074)
      else .finite (isMinus s) (leadingOne + fraction % leadingOne) (field - 1075) := by
  have hmod : field % 2 ^ 11 = field := Nat.mod_eq_of_lt hfield
  rw [exactOf_unpack, unpackExponent_packComponents, unpackMantissa_packComponents,
    unpackSign_packComponents, Sign.ofBitVec_toBitVec, BitVec.toNat_ofNat, BitVec.toNat_ofNat, hmod]
  rfl

/-- The fields that a mantissa and an exponent are packed into. -/
theorem pack_finite_eq {m : Nat} {e : Int} (h : Canonical m e) (s : Sign) :
    UnpackedFloat.pack Format.binary64 (.finite s m e h.pos) =
      if 971 < e then packComponents Format.binary64 s (BitVec.ofNat 11 2047) (BitVec.ofNat 52 0)
      else if leadingOne ≤ m then
        packComponents Format.binary64 s (BitVec.ofNat 11 (e + 1075).toNat) (BitVec.ofNat 52 m)
      else packComponents Format.binary64 s (BitVec.ofNat 11 0) (BitVec.ofNat 52 m) := by
  have hbottom := h.bottom
  have hlog : m.log2 + 1 = Format.binary64.mantissaBits ↔ leadingOne ≤ m := by
    have hlow : 52 ≤ m.log2 ↔ 2 ^ 52 ≤ m := Nat.le_log2 h.pos.ne'
    have hhigh : m.log2 < 53 ↔ m < 2 ^ 53 := Nat.log2_lt h.pos.ne'
    have hsmall := h.small
    simp only [leadingOne] at hsmall ⊢
    change m.log2 + 1 = 53 ↔ _
    omega
  have hbias :
    (e + Format.binary64.exponentBias + Format.binary64.mantissaBitsWithoutImplicit).toNat
      = (e + 1075).toNat := by
    change (e + 1023 + 52).toNat = _
    omega
  have hover : 2 ^ Format.binary64.exponentBits ≤ (e + 1075).toNat + 1 ↔ 971 < e := by
    change 2048 ≤ _ ↔ _
    omega
  unfold UnpackedFloat.pack
  simp only [hlog, hbias, hover]
  rfl

/-- A mantissa and an exponent are the exact value of the word that they are packed into, unless the
    exponent is too great for one. -/
theorem exact_pack_finite {m : Nat} {e : Int} (h : Canonical m e) (s : Sign) :
    exact (.ofModel (.pack (.finite s m e h.pos))) =
      if 971 < e then .infinite (isMinus s) else .finite (isMinus s) m e := by
  rw [exact_eq_exactOf]
  change exactOf (UnpackedFloat.unpack Format.binary64 (UnpackedFloat.pack Format.binary64 _)) = _
  have hbottom := h.bottom
  rw [pack_finite_eq h]
  by_cases htop : 971 < e
  · rw [if_pos htop, if_pos htop, exactOf_packComponents s _ _ (by decide)]
    rfl
  · rw [if_neg htop, if_neg htop]
    by_cases hnormal : leadingOne ≤ m
    · have hmod : leadingOne + m % leadingOne = m := by
        have hsmall := h.small
        unfold leadingOne at *
        omega
      have hfield : (((e + 1075).toNat : Nat) : Int) - 1075 = e := by omega
      rw [if_pos hnormal, exactOf_packComponents s _ _ (by omega), if_neg (by omega),
        if_neg (by omega), hmod, hfield]
    · have hmod : m % leadingOne = m := Nat.mod_eq_of_lt (by omega)
      rw [if_neg hnormal, exactOf_packComponents s _ _ (by decide), if_neg (by decide),
        if_pos rfl, hmod, h.full.resolve_left hnormal]

end NavScript.Binary64
