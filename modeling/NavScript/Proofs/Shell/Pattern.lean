import NavScript.Shell.Pattern

namespace NavScript.Shell

/-!
# Texts that patterns stand for

A part of a pattern stands for one character, or for any number of them, and a pattern for the texts
of its parts one after the other.

* `Part.Stands`, `Pattern.Stands` — the texts of a part, and of a pattern
* `Pattern.accepts_iff_stands` — the texts that a pattern is found to stand for
* `Pattern.stands_append_iff`, `Pattern.exists_of_closed` — patterns put together, and patterns for
  one text alone
* `Pattern.cutFront_cases`, `Pattern.cutBack_cases` — what is cut off a text
-/

/-- What a part stands for: any characters for a star, and one character for every other part. -/
def Part.Stands : Part → List Char → Prop
  | .several, _ => True
  | .any, cs => ∃ c, cs = [c]
  | .char c, cs => cs = [c]
  | .set negated members, cs =>
    ∃ c, cs = [c] ∧ ((∃ m ∈ members, m.holds c = true) ↔ negated = false)

/-- A part that is no star stands for one character alone. -/
theorem Part.Stands.exists_eq_singleton {part : Part} {cs : List Char} (h : part.Stands cs)
    (hpart : part ≠ .several) : ∃ c, cs = [c] := by
  cases part with
  | several => exact absurd rfl hpart
  | any => exact h
  | char c => exact ⟨c, h⟩
  | set negated members =>
    obtain ⟨c, hc, -⟩ := h
    exact ⟨c, hc⟩

namespace Pattern

/-- What a pattern stands for: the texts of its parts, one after the other. -/
inductive Stands : Pattern → List Char → Prop
  | nil : Stands [] []
  | cons {part : Part} {p : Pattern} {a b : List Char} (hpart : part.Stands a)
    (hrest : Stands p b) :
      Stands (part :: p) (a ++ b)

/-! ### Texts of patterns -/

/-- A pattern without parts stands for nothing. -/
theorem stands_nil_iff {cs : List Char} : Stands [] cs ↔ cs = [] := by
  constructor
  · rintro ⟨⟩
    rfl
  · rintro rfl
    exact .nil

/-- A part, and the pattern behind it. -/
theorem stands_cons_iff {part : Part} {p : Pattern} {cs : List Char} :
    Stands (part :: p) cs ↔ ∃ a b, cs = a ++ b ∧ part.Stands a ∧ Stands p b := by
  constructor
  · intro h
    cases h with
    | cons hpart hrest => exact ⟨_, _, rfl, hpart, hrest⟩
  · rintro ⟨a, b, rfl, hpart, hrest⟩
    exact .cons hpart hrest

/-- A star stands for nothing, or for a character and what it stands for otherwise. -/
theorem stands_several_nil_iff {p : Pattern} : Stands (.several :: p) [] ↔ Stands p [] := by
  rw [stands_cons_iff]
  constructor
  · rintro ⟨a, b, h, -, hb⟩
    obtain ⟨rfl, rfl⟩ := List.append_eq_nil_iff.mp h.symm
    exact hb
  · exact fun h => ⟨[], [], rfl, trivial, h⟩

/-- In front of a character, a star stands for nothing, or for that character and more. -/
theorem stands_several_cons_iff {p : Pattern} {d : Char} {rest : List Char} :
    Stands (.several :: p) (d :: rest) ↔ Stands p (d :: rest) ∨ Stands (.several :: p) rest := by
  constructor
  · intro h
    obtain ⟨a, b, hab, -, hb⟩ := stands_cons_iff.mp h
    cases a with
    | nil => exact .inl (hab ▸ hb)
    | cons c a =>
      obtain ⟨-, rfl⟩ := List.cons.inj hab
      exact .inr (.cons trivial hb)
  · rintro (h | h)
    · exact .cons (a := []) trivial h
    · obtain ⟨a, b, rfl, -, hb⟩ := stands_cons_iff.mp h
      exact .cons (a := d :: a) trivial hb

section Single

variable {part : Part} {p : Pattern} (hpart : part ≠ .several)

include hpart

/-- Any other part needs a character, -/
theorem not_stands_nil : ¬ Stands (part :: p) [] := by
  rw [stands_cons_iff]
  rintro ⟨a, b, h, ha, -⟩
  obtain ⟨c, rfl⟩ := ha.exists_eq_singleton hpart
  cases h

/-- and takes that one alone. -/
theorem stands_cons_cons_iff {d : Char} {rest : List Char} :
    Stands (part :: p) (d :: rest) ↔ part.Stands [d] ∧ Stands p rest := by
  constructor
  · intro h
    obtain ⟨a, b, hab, ha, hb⟩ := stands_cons_iff.mp h
    obtain ⟨c, rfl⟩ := ha.exists_eq_singleton hpart
    obtain ⟨rfl, rfl⟩ := List.cons.inj hab
    exact ⟨ha, hb⟩
  · rintro ⟨ha, hb⟩
    exact .cons ha hb

end Single

/-- **What a pattern accepts.**  The texts that a pattern accepts are those that it stands for. -/
theorem accepts_iff_stands (p : Pattern) (cs : List Char) : p.accepts cs = true ↔ p.Stands cs := by
  -- in front of a star the function tries both ways in which the star can stand for a text
  fun_induction accepts p cs with
  | case1 cs => rw [stands_nil_iff, List.isEmpty_iff]
  | case2 p cs ih ihrest =>
    cases cs with
    | nil => simp [stands_several_nil_iff, ih]
    | cons d rest => simp [stands_several_cons_iff, ih, ihrest]
  | case3 c p d rest ih =>
    rw [stands_cons_cons_iff (by simp), ← ih, Bool.and_eq_true, beq_iff_eq]
    exact and_congr_left fun _ => ⟨fun h => h ▸ rfl, fun h => (List.cons.inj h).1.symm⟩
  | case4 p d rest ih =>
    rw [stands_cons_cons_iff (by simp), ← ih]
    simp [Part.Stands]
  | case5 negated members p d rest ih =>
    rw [stands_cons_cons_iff (by simp), ← ih]
    cases negated <;> simp [Part.Stands]
  | case6 part p hne => exact iff_of_false (by simp) (not_stands_nil hne)

/-- Two patterns, one after the other. -/
theorem stands_append_iff {p q : Pattern} {cs : List Char} :
    Stands (p ++ q) cs ↔ ∃ a b, cs = a ++ b ∧ Stands p a ∧ Stands q b := by
  induction p generalizing cs with
  | nil =>
    rw [List.nil_append]
    constructor
    · exact fun h => ⟨[], cs, rfl, .nil, h⟩
    · rintro ⟨a, b, rfl, ha, hb⟩
      rw [stands_nil_iff.mp ha]
      exact hb
  | cons part p ih =>
    rw [List.cons_append, stands_cons_iff]
    constructor
    · rintro ⟨a, b, rfl, hpart, hb⟩
      obtain ⟨b, c, rfl, hb, hc⟩ := ih.mp hb
      exact ⟨a ++ b, c, (List.append_assoc a b c).symm, .cons hpart hb, hc⟩
    · rintro ⟨a, b, rfl, ha, hb⟩
      obtain ⟨a, c, rfl, hpart, hc⟩ := stands_cons_iff.mp ha
      exact ⟨a, c ++ b, List.append_assoc a c b, hpart, ih.mpr ⟨c, b, rfl, hc, hb⟩⟩

/-- A pattern that is not open stands for one text alone. -/
theorem exists_of_closed {p : Pattern} (h : p.isOpen = false) :
    ∃ text, ∀ cs, p.Stands cs ↔ cs = text := by
  induction p with
  | nil => exact ⟨[], fun _ => stands_nil_iff⟩
  | cons part p ih =>
    simp only [isOpen, List.any_cons, Bool.or_eq_false_iff] at h
    obtain ⟨hpart, hp⟩ := h
    obtain ⟨text, htext⟩ := ih hp
    cases part with
    | char c =>
      refine ⟨c :: text, fun cs => ?_⟩
      cases cs with
      | nil => simp [not_stands_nil]
      | cons d rest => simp [stands_cons_cons_iff, Part.Stands, htext]
    | _ => cases hpart

/-! ### Cutting -/

/-- A number up to a limit with a property, and the first or the last such. -/
structure IsLimit (P : Nat → Prop) (last : Bool) (limit n : Nat) : Prop where
  le : n ≤ limit
  property : P n
  extreme : ∀ m ≤ limit, P m → if last then m ≤ n else n ≤ m

/-- The numbers up to a limit with a property, in order. -/
def numbers (f : Nat → Bool) (limit : Nat) : List Nat :=
  (List.range (limit + 1)).filter f

/-- Each of them is there, -/
theorem mem_numbers_iff {f : Nat → Bool} {limit m : Nat} :
    m ∈ numbers f limit ↔ m ≤ limit ∧ f m = true := by
  rw [numbers, List.mem_filter, List.mem_range, Nat.lt_succ_iff]

/-- and none twice. -/
theorem pairwise_numbers (f : Nat → Bool) (limit : Nat) : (numbers f limit).Pairwise (· < ·) :=
  List.pairwise_lt_range.filter f

/-- The first or the last of them. -/
def chosen? (last : Bool) (numbers : List Nat) : Option Nat :=
  if last then numbers.getLast? else numbers.head?

/-- What is chosen is the first or the last that there is. -/
theorem isLimit_of_chosen? {f : Nat → Bool} {last : Bool} {limit n : Nat}
    (h : chosen? last (numbers f limit) = some n) :
    IsLimit (fun m => f m = true) last limit n := by
  have hpairwise := pairwise_numbers f limit
  cases last with
  | true =>
    obtain ⟨before, hlist⟩ := List.getLast?_eq_some_iff.mp h
    have hn := mem_numbers_iff.mp (hlist ▸ List.mem_concat_self)
    refine ⟨hn.1, hn.2, fun m hm hf => ?_⟩
    have hmem := mem_numbers_iff.mpr ⟨hm, hf⟩
    rw [hlist] at hpairwise hmem
    rcases List.mem_append.mp hmem with hbefore | hsame
    · have hlt := (List.pairwise_append.mp hpairwise).2.2 m hbefore n (List.mem_singleton_self n)
      exact Nat.le_of_lt hlt
    · exact Nat.le_of_eq (List.mem_singleton.mp hsame)
  | false =>
    obtain ⟨behind, hlist⟩ := List.head?_eq_some_iff.mp h
    have hn := mem_numbers_iff.mp (hlist ▸ List.mem_cons_self)
    refine ⟨hn.1, hn.2, fun m hm hf => ?_⟩
    have hmem := mem_numbers_iff.mpr ⟨hm, hf⟩
    rw [hlist] at hpairwise hmem
    rcases List.mem_cons.mp hmem with rfl | hbehind
    · exact Nat.le_refl _
    · exact Nat.le_of_lt (List.rel_of_pairwise_cons hpairwise hbehind)

/-- Where nothing is chosen, there is none. -/
theorem forall_of_chosen?_eq_none {f : Nat → Bool} {last : Bool} {limit : Nat}
    (h : chosen? last (numbers f limit) = none) : ∀ m ≤ limit, ¬ f m = true := by
  have hnil : numbers f limit = [] := by
    cases last with
    | true => exact List.getLast?_eq_none_iff.mp h
    | false => exact List.head?_eq_none_iff.mp h
  intro m hm hf
  have hmem := mem_numbers_iff.mpr ⟨hm, hf⟩
  rw [hnil] at hmem
  cases hmem

/-- **Cutting off a front.**  What is cut off is the shortest or the longest front that the pattern
    stands for, if it stands for one. -/
theorem cutFront_cases (p : Pattern) (longest : Bool) (cs : List Char) :
    (∃ n, IsLimit (fun n => p.Stands (cs.take n)) longest cs.length n ∧
      p.cutFront longest cs = cs.drop n) ∨
    (∀ n ≤ cs.length, ¬ p.Stands (cs.take n)) ∧ p.cutFront longest cs = cs := by
  have hcut : p.cutFront longest cs =
      (chosen? longest (numbers (fun n => p.accepts (cs.take n)) cs.length)).elim cs
        fun n => cs.drop n := by
    unfold cutFront
    dsimp only
    rw [← numbers, ← chosen?]
    cases chosen? longest (numbers (fun n => p.accepts (cs.take n)) cs.length) <;> rfl
  simp only [← accepts_iff_stands]
  cases h : chosen? longest (numbers (fun n => p.accepts (cs.take n)) cs.length) with
  | some n => exact .inl ⟨n, isLimit_of_chosen? h, by rw [hcut, h]; rfl⟩
  | none => exact .inr ⟨forall_of_chosen?_eq_none h, by rw [hcut, h]; rfl⟩

/-- **Cutting off a back.**  So it is with backs, of which the longest begins first. -/
theorem cutBack_cases (p : Pattern) (longest : Bool) (cs : List Char) :
    (∃ n, IsLimit (fun n => p.Stands (cs.drop n)) (!longest) cs.length n ∧
      p.cutBack longest cs = cs.take n) ∨
    (∀ n ≤ cs.length, ¬ p.Stands (cs.drop n)) ∧ p.cutBack longest cs = cs := by
  have hcut : p.cutBack longest cs =
      (chosen? (!longest) (numbers (fun n => p.accepts (cs.drop n)) cs.length)).elim cs
        fun n => cs.take n := by
    have hflip : ∀ cuts : List Nat,
        (if longest then cuts.head? else cuts.getLast?) = chosen? (!longest) cuts := by
      cases longest <;> exact fun _ => rfl
    unfold cutBack
    dsimp only
    rw [← numbers, hflip]
    cases chosen? (!longest) (numbers (fun n => p.accepts (cs.drop n)) cs.length) <;> rfl
  simp only [← accepts_iff_stands]
  cases h : chosen? (!longest) (numbers (fun n => p.accepts (cs.drop n)) cs.length) with
  | some n => exact .inl ⟨n, isLimit_of_chosen? h, by rw [hcut, h]; rfl⟩
  | none => exact .inr ⟨forall_of_chosen?_eq_none h, by rw [hcut, h]; rfl⟩

end Pattern

end NavScript.Shell
