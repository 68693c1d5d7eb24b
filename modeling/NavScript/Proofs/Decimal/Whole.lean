import Mathlib.Data.List.TakeWhile
import NavScript.Decimal.Numeral

namespace NavScript.Decimal

/-!
# Whole numbers in decimal

A whole number is written with a sign, which it must have if it is negative, and its digits, in
front of which there may be zeros.  Whichever way it is written, it is read as the same number.

* `IsWhole` — the decimals of a whole number
* `readChars?_of_isWhole` — they are read as that number
-/

/-- The signs of a whole number: a minus if it is negative, else none or a plus. -/
def signsOf (n : Int) : List (List Char) :=
  if n < 0 then [['-']] else [[], ['+']]

/-- The decimals of a whole number: one of its signs, any number of zeros, and its digits. -/
def IsWhole (n : Int) (w : List Char) : Prop :=
  ∃ s ∈ signsOf n, ∃ zeros, w = s ++ (List.replicate zeros '0' ++ digits n.natAbs)

theorem signsOf_of_neg {n : Int} (h : n < 0) : signsOf n = [['-']] := if_pos h

theorem signsOf_of_nonneg {n : Int} (h : 0 ≤ n) : signsOf n = [[], ['+']] := if_neg (by omega)

/-- A whole number as a string is one of its decimals. -/
theorem isWhole_toString (n : Int) : IsWhole n (toString n).toList := by
  cases n with
  | ofNat k =>
    have hk : (0 : Int) ≤ Int.ofNat k := Int.natCast_nonneg k
    refine ⟨[], ?_, 0, Nat.toList_repr⟩
    rw [signsOf_of_nonneg hk]
    exact List.mem_cons_self
  | negSucc k =>
    refine ⟨['-'], ?_, 0, ?_⟩
    · rw [signsOf_of_neg (Int.negSucc_lt_zero k)]
      exact List.mem_cons_self
    · change ("-" ++ (k + 1).repr).toList = _
      rw [String.toList_append, Nat.toList_repr]
      rfl

/-! ### Digits -/

/-- Digits are read back to the number that they write. -/
theorem natOfDigits_digits (n : Nat) : natOfDigits (digits n) = n :=
  Nat.ofDigitChars_toDigits (by decide) (by decide)

/-- Zeros in front do not count. -/
theorem natOfDigits_dropWhile (ds : List Char) :
    natOfDigits (ds.dropWhile (· == '0')) = natOfDigits ds := by
  induction ds with
  | nil => rfl
  | cons d ds ih =>
    rw [List.dropWhile_cons]
    split
    · rename_i hd
      rw [ih, beq_iff_eq.mp hd]
      rfl
    · rfl

/-- The digits of a whole number, behind any number of zeros. -/
structure DigitsOf (n : Nat) (ds : List Char) : Prop where
  nonempty : ds ≠ []
  isDigit : ∀ c ∈ ds, c.isDigit = true
  value : natOfDigits ds = n
  length : (ds.dropWhile (· == '0')).length ≤ (digits n).length

/-- Zeros in front of the digits of a number do not count. -/
theorem digitsOf_replicate_append (n zeros : Nat) :
    DigitsOf n (List.replicate zeros '0' ++ digits n) := by
  have hdrop : (List.replicate zeros '0' ++ digits n).dropWhile (· == '0') =
      (digits n).dropWhile (· == '0') :=
    List.dropWhile_append_of_pos fun c hc => by rw [List.eq_of_mem_replicate hc]; rfl
  refine ⟨?_, fun c hc => ?_, ?_, ?_⟩
  · exact List.append_ne_nil_of_right_ne_nil _ Nat.toDigits_ne_nil
  · rcases List.mem_append.mp hc with hc | hc
    · rw [List.eq_of_mem_replicate hc]
      decide
    · exact Nat.isDigit_of_mem_toDigits (by decide) (by decide) hc
  · rw [← natOfDigits_dropWhile, hdrop, natOfDigits_dropWhile, natOfDigits_digits]
  · rw [hdrop]
    exact List.length_dropWhile_le _ _

/-! ### Reading -/

namespace DigitsOf

variable {n : Nat} {ds : List Char}

/-- A number has a digit. -/
theorem exists_cons (h : DigitsOf n ds) : ∃ d rest, ds = d :: rest ∧ d.isDigit = true := by
  obtain ⟨d, rest, rfl⟩ := List.exists_cons_of_ne_nil h.nonempty
  exact ⟨d, rest, rfl, h.isDigit d List.mem_cons_self⟩

/-- There is no sign among digits. -/
theorem splitSign_eq (h : DigitsOf n ds) : splitSign ds = (false, ds) := by
  obtain ⟨d, rest, rfl, hd⟩ := h.exists_cons
  unfold splitSign
  split
  · rename_i heq
    rw [(List.cons.inj heq).1] at hd
    exact absurd hd (by decide)
  · rename_i heq
    rw [(List.cons.inj heq).1] at hd
    exact absurd hd (by decide)
  · rfl

/-- Digits have no capital letters. -/
theorem toLower_of_isDigit {c : Char} (h : c.isDigit = true) : c.toLower = c := by
  have hle : c.toNat ≤ '9'.toNat := (Char.isDigit_iff_toNat.mp h).2
  refine dif_neg fun hupper => ?_
  have hge : 'A'.toNat ≤ c.toNat := UInt32.le_iff_toNat_le.mp hupper.1
  exact absurd (hge.trans hle) (by decide)

/-- There are no letters among digits. -/
theorem named?_eq_none (h : DigitsOf n ds) : named? ds = none := by
  obtain ⟨d, rest, rfl, hd⟩ := h.exists_cons
  have hname : ∀ name ∈ ["inf", "infinity", "nan"],
      String.ofList ((d :: rest).map Char.toLower) ≠ name := by
    intro name hname heq
    have hfirst : ∀ name ∈ ["inf", "infinity", "nan"],
        name.toList.head?.any (!Char.isDigit ·) = true := by decide
    have hletter := hfirst name hname
    rw [← heq, String.toList_ofList, List.map_cons, toLower_of_isDigit hd] at hletter
    simp [hd] at hletter
  simp only [List.forall_mem_cons, List.not_mem_nil, false_implies, implies_true, and_true] at hname
  obtain ⟨hinf, hinfinity, hnan⟩ := hname
  simp only [named?, beq_eq_false_iff_ne.mpr hinf, beq_eq_false_iff_ne.mpr hinfinity,
    beq_eq_false_iff_ne.mpr hnan, Bool.or_false, Bool.false_eq_true, if_false]

/-- Digits alone are a numeral without an exponent. -/
theorem ofChars?_eq (h : DigitsOf n ds) : Numeral.ofChars? ds = some ⟨ds, 0⟩ := by
  have htake : ds.takeWhile Char.isDigit = ds := List.takeWhile_eq_self_iff.mpr h.isDigit
  have hdrop : ds.dropWhile Char.isDigit = [] := List.dropWhile_eq_nil_iff.mpr h.isDigit
  simp [Numeral.ofChars?, htake, hdrop, h.nonempty, exponent?]

/-- The significant digits are those behind the zeros: numbers of up to 330 digits are read in
    full. -/
theorem significant_eq (h : DigitsOf n ds) (hn : (digits n).length ≤ 330) :
    Numeral.significant ⟨ds, 0⟩ = ⟨ds.dropWhile (· == '0'), 0⟩ := by
  have hkept : (ds.dropWhile (· == '0')).length ≤ significantDigits :=
    (h.length.trans hn).trans (by decide)
  simp [Numeral.significant, List.take_of_length_le hkept, List.drop_of_length_le hkept]

/-- So the numeral has the value of the number. -/
theorem value_eq (h : DigitsOf n ds) (hn : (digits n).length ≤ 330) :
    Numeral.value ⟨ds, 0⟩ = Float.ofNat n := by
  have hlength := h.length.trans hn
  have hvalue : natOfDigits (ds.dropWhile (· == '0')) = n :=
    (natOfDigits_dropWhile ds).trans h.value
  unfold Numeral.value
  simp only [h.significant_eq hn, hvalue]
  split
  · -- nothing is left of the digits of zero
    rename_i hempty
    have hn0 : n = 0 := by
      rw [← hvalue, List.isEmpty_iff.mp hempty]
      rfl
    rw [hn0]
    decide +kernel
  · rw [if_neg (by omega), if_neg (by omega)]
    rfl

/-- And it is read, since no digits are the name of a number. -/
theorem read?_eq (h : DigitsOf n ds) (hn : (digits n).length ≤ 330) :
    (named? ds).or ((Numeral.ofChars? ds).map Numeral.value) = some (Float.ofNat n) := by
  rw [h.named?_eq_none, h.ofChars?_eq, Option.none_or, Option.map_some, h.value_eq hn]

end DigitsOf

/-- **A whole number is read** off each of its decimals, as long as it has few enough digits not to
    be taken for an infinity. -/
theorem readChars?_of_isWhole {n : Int} {w : List Char} (h : IsWhole n w)
    (hn : (digits n.natAbs).length ≤ 330) : readChars? w = some (Float.ofInt n) := by
  obtain ⟨s, hs, zeros, rfl⟩ := h
  have hds := digitsOf_replicate_append n.natAbs zeros
  generalize List.replicate zeros '0' ++ digits n.natAbs = ds at hds
  have hread := hds.read?_eq hn
  cases n with
  | ofNat k =>
    have hk : (0 : Int) ≤ Int.ofNat k := Int.natCast_nonneg k
    rw [signsOf_of_nonneg hk] at hs
    simp only [List.mem_cons, List.not_mem_nil, or_false] at hs
    rcases hs with rfl | rfl
    · simp only [List.nil_append, readChars?, hds.splitSign_eq, hread]
      rfl
    · have hsplit : splitSign (['+'] ++ ds) = (false, ds) := rfl
      simp only [readChars?, hsplit, hread]
      rfl
  | negSucc k =>
    rw [signsOf_of_neg (Int.negSucc_lt_zero k), List.mem_singleton] at hs
    subst hs
    have hsplit : splitSign (['-'] ++ ds) = (true, ds) := rfl
    simp only [readChars?, hsplit, hread]
    rfl

/-- The characters of a decimal. -/
theorem mem_of_isWhole {n : Int} {w : List Char} (h : IsWhole n w) {c : Char} (hc : c ∈ w) :
    c.isDigit = true ∨ c = '-' ∨ c = '+' := by
  obtain ⟨s, hs, zeros, rfl⟩ := h
  rcases List.mem_append.mp hc with hc | hc
  · unfold signsOf at hs
    split at hs
    · rw [List.mem_singleton.mp hs, List.mem_singleton] at hc
      exact .inr (.inl hc)
    · simp only [List.mem_cons, List.not_mem_nil, or_false] at hs
      rcases hs with rfl | rfl
      · cases hc
      · exact .inr (.inr (List.mem_singleton.mp hc))
  · exact .inl ((digitsOf_replicate_append n.natAbs zeros).isDigit c hc)

/-- A whole number is written by some characters. -/
theorem ne_nil_of_isWhole {n : Int} {w : List Char} (h : IsWhole n w) : w ≠ [] := by
  obtain ⟨s, -, zeros, rfl⟩ := h
  exact List.append_ne_nil_of_right_ne_nil _ (digitsOf_replicate_append n.natAbs zeros).nonempty

end NavScript.Decimal
