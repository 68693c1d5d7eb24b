import Mathlib.Tactic.IntervalCases
import NavScript.Proofs.Text.Lines

namespace NavScript.Text.Utf8

/-!
# UTF-8 read back

The bytes of a text are read as that text again.  A reader between two characters that is given the
bytes of one character has read this character and nothing else, so the characters come out one by
one.

* `begin?_of_two`, `begin?_of_three`, `begin?_of_four` — the characters that a byte begins
* `foldl_step_utf8EncodeChar` — the bytes of one character
* `decode_encode` — the bytes of a text
-/

/-! ### First bytes -/

/-- The first of two bytes. -/
theorem begin?_of_two {n : Nat} (hlow : 2 ≤ n) (hhigh : n < 32) :
    begin? (UInt8.ofNat (n + 192)) = some ⟨1, 1, 0x80, 0xBF, n⟩ := by
  interval_cases n <;> rfl

/-- The first of three bytes: the second leaves out what two bytes would do for, and surrogates. -/
theorem begin?_of_three {n : Nat} (h : n < 16) :
    begin? (UInt8.ofNat (n + 224)) =
      some ⟨1, 2, if n = 0 then 0xA0 else 0x80, if n = 13 then 0x9F else 0xBF, n⟩ := by
  interval_cases n <;> rfl

/-- The first of four bytes: the second leaves out what three bytes would do for, and what is no
    character. -/
theorem begin?_of_four {n : Nat} (h : n < 5) :
    begin? (UInt8.ofNat (n + 240)) =
      some ⟨1, 3, if n = 0 then 0x90 else 0x80, if n = 4 then 0x8F else 0xBF, n⟩ := by
  interval_cases n <;> rfl

/-! ### Characters -/

theorem toNat_ofNat_of_lt {n : Nat} (h : n < 256) : (UInt8.ofNat n).toNat = n := by
  rw [UInt8.toNat_ofNat']
  exact Nat.mod_eq_of_lt h

/-- A byte that begins a character of several bytes. -/
theorem step_of_begin? {n : Nat} {g : Begun} (hlow : 128 ≤ n) (hhigh : n < 256)
    (h : begin? (UInt8.ofNat n) = some g) (done : List Piece) :
    Reader.step ⟨none, done⟩ (UInt8.ofNat n) = ⟨some g, done⟩ := by
  have hmany : ¬ UInt8.ofNat n < 0x80 := by
    rw [UInt8.lt_iff_toNat_lt, toNat_ofNat_of_lt hhigh]
    exact Nat.not_lt.mpr hlow
  simp only [Reader.step, Reader.start, if_neg hmany, h]

section Continued

variable {read code n : Nat} {low high : UInt8} (hlow : low.toNat ≤ n + 128)
  (hhigh : n + 128 ≤ high.toNat) (done : List Piece)

include hlow hhigh

/-- A byte within the bounds continues the character. -/
theorem step_of_begun (owed : Nat) :
    Reader.step ⟨some ⟨read, owed, low, high, code⟩, done⟩ (UInt8.ofNat (n + 128)) =
      if owed = 1 then ⟨none, .char (Char.ofNat (code * 64 + n)) :: done⟩
      else ⟨some ⟨read + 1, owed - 1, 0x80, 0xBF, code * 64 + n⟩, done⟩ := by
  have hbyte := toNat_ofNat_of_lt (n := n + 128) (Nat.lt_of_le_of_lt hhigh (UInt8.toNat_lt high))
  have hwithin : (decide (low ≤ UInt8.ofNat (n + 128)) &&
      decide (UInt8.ofNat (n + 128) ≤ high)) = true := by
    rw [Bool.and_eq_true, decide_eq_true_iff, decide_eq_true_iff, UInt8.le_iff_toNat_le,
      UInt8.le_iff_toNat_le, hbyte]
    exact ⟨hlow, hhigh⟩
  simp only [Reader.step, hwithin, if_true, hbyte, Nat.add_sub_cancel]

/-- With the last byte owed the character is there. -/
theorem step_of_last :
    Reader.step ⟨some ⟨read, 1, low, high, code⟩, done⟩ (UInt8.ofNat (n + 128)) =
      ⟨none, .char (Char.ofNat (code * 64 + n)) :: done⟩ :=
  step_of_begun hlow hhigh done 1

/-- Before it there are bytes that may be any that continue a character. -/
theorem step_of_more (owed : Nat) :
    Reader.step ⟨some ⟨read, owed + 2, low, high, code⟩, done⟩ (UInt8.ofNat (n + 128)) =
      ⟨some ⟨read + 1, owed + 1, 0x80, 0xBF, code * 64 + n⟩, done⟩ :=
  (step_of_begun hlow hhigh done (owed + 2)).trans (if_neg (by omega))

end Continued

/-- The bytes of a character are read as this character. -/
theorem foldl_step_utf8EncodeChar (c : Char) (done : List Piece) :
    (String.utf8EncodeChar c).foldl Reader.step ⟨none, done⟩ = ⟨none, .char c :: done⟩ := by
  have hvalid : c.val.toNat < 0xD800 ∨ 0xDFFF < c.val.toNat ∧ c.val.toNat < 0x110000 := c.valid
  have hchar : ∀ n, n = c.val.toNat → Char.ofNat n = c := by
    rintro _ rfl
    exact Char.ofNat_toNat c
  have hplain : ∀ n < 64, n + 128 ≤ (0xBF : UInt8).toNat := fun n hn => by
    show n + 128 ≤ 191
    omega
  fun_cases String.utf8EncodeChar c with
  | case1 v h =>
    have hbyte := toNat_ofNat_of_lt (n := v) (Nat.lt_of_le_of_lt h (by decide))
    have hone : UInt8.ofNat v < 0x80 := by
      rw [UInt8.lt_iff_toNat_lt, hbyte]
      exact Nat.lt_succ_of_le h
    simp only [List.foldl_cons, List.foldl_nil, Reader.step, Reader.start, if_pos hone, hbyte]
    rw [hchar v rfl]
  | case2 v h1 h2 =>
    have hfirst := begin?_of_two (n := v / 64 % 32) (by omega) (by omega)
    rw [List.foldl_cons, step_of_begin? (by omega) (by omega) hfirst, List.foldl_cons,
      step_of_last (Nat.le_add_left 128 _) (hplain _ (by omega)), hchar _ (by omega),
      List.foldl_nil]
  | case3 v h1 h2 h3 =>
    have hfirst := begin?_of_three (n := v / 4096 % 16) (by omega)
    have hlow : (if v / 4096 % 16 = 0 then 0xA0 else 0x80 : UInt8).toNat ≤ v / 64 % 64 + 128 := by
      split
      · show 160 ≤ _
        omega
      · exact Nat.le_add_left 128 _
    have hhigh : v / 64 % 64 + 128 ≤ (if v / 4096 % 16 = 13 then 0x9F else 0xBF : UInt8).toNat := by
      split
      · show _ ≤ 159
        omega
      · exact hplain _ (by omega)
    rw [List.foldl_cons, step_of_begin? (by omega) (by omega) hfirst, List.foldl_cons,
      step_of_more hlow hhigh done 0, List.foldl_cons,
      step_of_last (Nat.le_add_left 128 _) (hplain _ (by omega)), hchar _ (by omega),
      List.foldl_nil]
  | case4 v h1 h2 h3 =>
    have hfirst := begin?_of_four (n := v / 262144 % 8) (by omega)
    have hlow :
        (if v / 262144 % 8 = 0 then 0x90 else 0x80 : UInt8).toNat ≤ v / 4096 % 64 + 128 := by
      split
      · show 144 ≤ _
        omega
      · exact Nat.le_add_left 128 _
    have hhigh :
        v / 4096 % 64 + 128 ≤ (if v / 262144 % 8 = 4 then 0x8F else 0xBF : UInt8).toNat := by
      split
      · show _ ≤ 143
        omega
      · exact hplain _ (by omega)
    rw [List.foldl_cons, step_of_begin? (by omega) (by omega) hfirst, List.foldl_cons,
      step_of_more hlow hhigh done 1, List.foldl_cons,
      step_of_more (Nat.le_add_left 128 _) (hplain _ (by omega)) done 0, List.foldl_cons,
      step_of_last (Nat.le_add_left 128 _) (hplain _ (by omega)), hchar _ (by omega),
      List.foldl_nil]

/-! ### Texts -/

/-- The bytes of a text are cut into its characters. -/
theorem pieces_encode (s : String) : pieces (encode s) = s.toList.map .char := by
  have hread : ∀ (cs : List Char) (done : List Piece),
      cs.foldl (fun r c => (String.utf8EncodeChar c).foldl Reader.step r) ⟨none, done⟩ =
        ⟨none, (cs.map Piece.char).reverse ++ done⟩ := by
    intro cs
    induction cs with
    | nil => exact fun _ => rfl
    | cons c cs ih =>
      intro done
      rw [List.foldl_cons, foldl_step_utf8EncodeChar, ih]
      simp
  rw [pieces, encode_eq_flatMap, List.foldl_flatMap, hread]
  simp [Reader.finish]

theorem collect_map_char (index : Nat) (done cs : List Char) :
    collect index done (cs.map .char) = .ok (String.ofList (done.reverse ++ cs)) := by
  induction cs generalizing index done with
  | nil => simp [collect]
  | cons c cs ih => simp [collect, ih]

/-- **The bytes of a text are read as the text.** -/
theorem decode_encode (s : String) : decode (encode s) = .ok s := by
  rw [decode, pieces_encode, collect_map_char]
  simp

end NavScript.Text.Utf8
