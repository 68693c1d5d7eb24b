import NavScript.Proofs.Regex
import NavScript.Tool.Search

namespace NavScript.Tool.Search

open NavScript.Regex

/-!
# Lines that are looked for

A line is chosen if one of the patterns matches a part of it of the kind that is looked for, or,
where that is asked for, if none does.

* `IsFound` — a match of the kind looked for
* `isSome_endAt?_iff`, `isSome_find?_iff` — a match at one place, and anywhere
* `chooses_iff` — the lines that are looked for
* `chooses_literally_iff` — lines in which texts are looked for
-/

/-- A match of the kind that is looked for begins at a place. -/
def IsFound (w : Search) (s : Regex.Subject) (i : Nat) : Prop :=
  ∃ r ∈ w.patterns, ∃ f, Matches s r (i, []) f ∧ w.accepts s i f.1 = true

variable {w : Search}

/-- A match that has to be alone in its line begins where the line does. -/
theorem IsFound.eq_zero {s : Regex.Subject} {i : Nat} (h : w.IsFound s i)
    (hlines : w.wholeLines = true) : i = 0 := by
  obtain ⟨r, -, f, -, haccepts⟩ := h
  simp only [accepts, hlines, Bool.not_true, Bool.false_or, Bool.and_eq_true,
    beq_iff_eq] at haccepts
  exact haccepts.1.1

section Plain

variable (hplain : ∀ r ∈ w.patterns, r.Plain)

include hplain

/-- Something is found at a place exactly if a match of the kind that is looked for begins there. -/
theorem isSome_endAt?_iff (s : Regex.Subject) (i : Nat) :
    (w.endAt? s i).isSome ↔ w.IsFound s i := by
  rw [endAt?, List.isSome_max?_iff]
  constructor
  · intro hne
    obtain ⟨j, hj⟩ := List.exists_mem_of_ne_nil _ hne
    obtain ⟨hends, haccepts⟩ := List.mem_filter.mp hj
    obtain ⟨r, hr, hends⟩ := List.mem_flatMap.mp hends
    obtain ⟨f, hf, rfl⟩ := List.mem_map.mp hends
    exact ⟨r, hr, f, matches_of_mem_ends r hf, haccepts⟩
  · rintro ⟨r, hr, f, hmatches, haccepts⟩
    obtain ⟨d, hd⟩ := exists_mem_ends (hplain r hr) hmatches []
    exact List.ne_nil_of_mem <| List.mem_filter.mpr
      ⟨List.mem_flatMap.mpr ⟨r, hr, List.mem_map.mpr ⟨(f.1, d), hd, rfl⟩⟩, haccepts⟩

/-- The search goes from place to place, unless a match has to be alone in its line. -/
theorem isSome_findFrom_iff (s : Regex.Subject) (places i : Nat) :
    (w.find? s places i).isSome ↔
      ∃ k, i ≤ k ∧ k < i + places ∧ (w.wholeLines = true → k = i) ∧ w.IsFound s k := by
  induction places generalizing i with
  | zero =>
    refine iff_of_false (by simp [find?]) ?_
    rintro ⟨k, hk, hlt, -⟩
    omega
  | succ places ih =>
    rw [find?]
    cases hend : w.endAt? s i with
    | some j =>
      have hfound : w.IsFound s i := (isSome_endAt?_iff hplain s i).mp (by simp [hend])
      exact iff_of_true rfl ⟨i, Nat.le_refl i, by omega, fun _ => rfl, hfound⟩
    | none =>
      have hnot : ¬ w.IsFound s i := fun h => by
        simpa [hend] using (isSome_endAt?_iff hplain s i).mpr h
      cases hlines : w.wholeLines with
      | true =>
        -- the search ends here, and so does what is claimed to be searched
        refine iff_of_false (by simp) ?_
        rintro ⟨k, -, -, hki, hk⟩
        exact hnot (hki rfl ▸ hk)
      | false =>
        simp only [Bool.false_eq_true, if_false]
        rw [ih]
        constructor
        · rintro ⟨k, hk, hlt, -, hfound⟩
          exact ⟨k, by omega, by omega, by simp, hfound⟩
        · rintro ⟨k, hk, hlt, -, hfound⟩
          have hne : k ≠ i := fun h => hnot (h ▸ hfound)
          exact ⟨k, by omega, by omega, by simp [hlines], hfound⟩

/-- **A line is chosen** exactly if a match of the kind that is looked for begins anywhere in it,
    or, where the lines without a match are looked for, exactly if there is none. -/
theorem chooses_iff (line : String) :
    w.chooses line = true ↔
      ((∃ i ≤ line.length, w.IsFound (w.subject line) i) ↔ w.inverted = false) := by
  have hsize : (w.subject line).text.size = line.length := by
    simp [subject, String.length_toList]
  have hfound : (w.find? (w.subject line) (line.length + 1) 0).isSome ↔
      ∃ i ≤ line.length, w.IsFound (w.subject line) i := by
    rw [isSome_findFrom_iff hplain]
    constructor
    · rintro ⟨k, -, hlt, -, hk⟩
      exact ⟨k, by omega, hk⟩
    · rintro ⟨k, hle, hk⟩
      exact ⟨k, Nat.zero_le k, by omega, hk.eq_zero, hk⟩
  rw [← hfound, chooses]
  simp only [hsize]
  cases (w.find? (w.subject line) (line.length + 1) 0).isSome <;> cases w.inverted <;> decide

end Plain

/-! ### Texts -/

theorem plain_foldl (cs : List Char) {r : Regex} (hr : r.Plain) :
    (cs.foldl (fun r c => r.both (.char c)) r).Plain := by
  induction cs generalizing r with
  | nil => exact hr
  | cons c cs ih => exact ih ⟨hr, trivial⟩

theorem cons_prefix_drop_iff {text : Array Char} {c : Char} {cs : List Char} {i : Nat} :
    c :: cs <+: text.toList.drop i ↔ text[i]? = some c ∧ cs <+: text.toList.drop (i + 1) := by
  by_cases hi : i < text.toList.length
  · have hget : text[i]? = some text.toList[i] := by simp
    rw [List.drop_eq_getElem_cons hi, List.cons_prefix_cons, hget, Option.some.injEq, eq_comm]
  · have hnone : text[i]? = none := Array.getElem?_eq_none (by simpa using hi)
    rw [List.drop_eq_nil_of_le (Nat.le_of_not_lt hi), hnone]
    simp

/-- Characters behind an expression match where the expression ends, if they stand there. -/
theorem matches_foldl_iff {s : Regex.Subject} (hcase : s.foldCase = false) (cs : List Char)
    (r : Regex) (e f : End) :
    Matches s (cs.foldl (fun r c => r.both (.char c)) r) e f ↔
      ∃ g, Matches s r e g ∧ cs <+: s.text.toList.drop g.1 ∧ f = (g.1 + cs.length, g.2) := by
  induction cs generalizing r with
  | nil =>
    constructor
    · intro h
      exact ⟨f, h, List.nil_prefix, rfl⟩
    · rintro ⟨g, h, -, rfl⟩
      exact h
  | cons c cs ih =>
    rw [List.foldl_cons, ih]
    have hlength : ∀ i : Nat, i + (c :: cs).length = i + 1 + cs.length := fun i => by
      rw [List.length_cons, Nat.add_assoc, Nat.add_comm 1]
    constructor
    · rintro ⟨_, ⟨g, hg, ⟨d, hd, hsame⟩, rfl⟩, hcs, rfl⟩
      obtain rfl : c = d := by simpa [Regex.Subject.same, hcase] using hsame
      exact ⟨g, hg, cons_prefix_drop_iff.mpr ⟨hd, hcs⟩, by rw [hlength]⟩
    · rintro ⟨g, hg, hprefix, rfl⟩
      obtain ⟨hc, hcs⟩ := cons_prefix_drop_iff.mp hprefix
      have hsame : s.same c c = true := by simp [Regex.Subject.same]
      exact ⟨(g.1 + 1, g.2), ⟨g, hg, ⟨c, hc, hsame⟩, rfl⟩, hcs, by rw [hlength]⟩

/-- **Lines in which texts are looked for**, anywhere and as they are written: one is chosen exactly
    if one of the texts is a part of it. -/
theorem chooses_literally_iff (texts : List String) (line : String) :
    (Search.mk (texts.map literally) false false false false).chooses line = true ↔
      ∃ text ∈ texts, text.toList <:+: line.toList := by
  let w : Search := ⟨texts.map literally, false, false, false, false⟩
  have hplain : ∀ r ∈ w.patterns, r.Plain := by
    intro r hr
    obtain ⟨text, -, rfl⟩ := List.mem_map.mp hr
    exact plain_foldl text.toList trivial
  have hfound : ∀ i, w.IsFound (w.subject line) i ↔
      ∃ text ∈ texts, text.toList <+: line.toList.drop i := by
    intro i
    constructor
    · -- a text is an expression that matches its characters one after the other
      rintro ⟨r, hr, f, hmatches, -⟩
      obtain ⟨text, htext, rfl⟩ := List.mem_map.mp hr
      obtain ⟨g, rfl, hprefix, -⟩ := (matches_foldl_iff rfl _ _ _ _).mp hmatches
      exact ⟨text, htext, by simpa [subject] using hprefix⟩
    · rintro ⟨text, htext, hprefix⟩
      refine ⟨literally text, List.mem_map_of_mem htext, (i + text.toList.length, []), ?_, rfl⟩
      exact (matches_foldl_iff rfl _ _ _ _).mpr
        ⟨(i, []), rfl, by simpa [subject] using hprefix, rfl⟩
  have hchooses := chooses_iff hplain line
  simp only [hfound] at hchooses
  refine hchooses.trans ⟨fun h => ?_, fun h => ?_⟩
  · obtain ⟨i, -, text, htext, hprefix⟩ := h.mpr rfl
    exact ⟨text, htext, hprefix.isInfix.trans (List.drop_suffix i _).isInfix⟩
  · obtain ⟨text, htext, before, after, hline⟩ := h
    refine iff_of_true ⟨before.length, ?_, text, htext, after, ?_⟩ rfl
    · rw [← String.length_toList, ← hline]
      simp only [List.length_append]
      omega
    · rw [← hline, List.append_assoc, List.drop_left]

end NavScript.Tool.Search
