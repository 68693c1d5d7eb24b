import NavScript.Regex.Basic

namespace NavScript.Regex

/-!
# Matches of regular expressions

What it means for an expression to match a part of a text is said without a search.  The search
finds nothing else, and if the expression does not refer back to its groups it misses nothing: the
match that counts begins as early as any, and of those that begin there none is longer.

* `Turns`, `Rounded`, `Matches` — what an expression matches
* `matches_of_mem_ends` — all that the search finds are matches
* `Steady` — the rounds of a repetition that the search goes through
* `exists_mem_ends` — the search reaches the ends of all matches
* `find?_eq_none_iff`, `find?_eq_some` — the match that counts
-/

/-! ### Matches -/

/-- So many turns, one after the other. -/
def Turns {α : Type} (turn : α → α → Prop) : Nat → α → α → Prop
  | 0, a, b => a = b
  | n + 1, a, b => ∃ c, turn a c ∧ Turns turn n c b

/-- At least and at most so many turns. -/
def Rounded {α : Type} (turn : α → α → Prop) (least : Nat) (most : Option Nat) (a b : α) : Prop :=
  ∃ n, least ≤ n ∧ (∀ m ∈ most, n ≤ m) ∧ Turns turn n a b

/-- An expression matches from one end to another: between their places, and with what groups have
    matched before and after. -/
def Matches (s : Subject) : Regex → End → End → Prop
  | empty, e, f => f = e
  | any, e, f => (∃ c, s.text[e.1]? = some c) ∧ f = (e.1 + 1, e.2)
  | char d, e, f => (∃ c, s.text[e.1]? = some c ∧ s.same d c = true) ∧ f = (e.1 + 1, e.2)
  | set negated members, e, f =>
    (∃ c, s.text[e.1]? = some c ∧ s.holds members c ≠ negated) ∧ f = (e.1 + 1, e.2)
  | edge k, e, f => s.isAt e.1 k = true ∧ f = e
  | both first second, e, f => ∃ g, Matches s first e g ∧ Matches s second g f
  | either first second, e, f => Matches s first e f ∨ Matches s second e f
  | repeated r least most, e, f => Rounded (Matches s r) least most e f
  | group number r, e, f =>
    ∃ g, Matches s r e g ∧ f = (g.1, (number, e.1, g.1) :: g.2.filter (·.1 != number))
  | again number, e, f =>
    ∃ span, e.2.lookup number = some span ∧
      let wanted := s.part span.1 span.2
      let found := s.part e.1 (e.1 + wanted.length)
      found.length = wanted.length ∧ (∀ p ∈ found.zip wanted, s.same p.1 p.2 = true) ∧
        f = (e.1 + wanted.length, e.2)

/-- The expression does not refer back to its groups. -/
def Plain : Regex → Prop
  | both first second | either first second => first.Plain ∧ second.Plain
  | repeated r _ _ | group _ r => r.Plain
  | again _ => False
  | _ => True

section Turns

variable {α : Type} {turn : α → α → Prop}

/-- One turn more at the end. -/
theorem Turns.concat {n : Nat} {a b c : α} (h : Turns turn n a b) (hlast : turn b c) :
    Turns turn (n + 1) a c := by
  induction n generalizing a with
  | zero =>
    obtain rfl : a = b := h
    exact ⟨c, hlast, rfl⟩
  | succ n ih =>
    obtain ⟨d, hfirst, hrest⟩ := h
    exact ⟨d, hfirst, ih hrest⟩

/-- Turns seen through a function. -/
theorem Turns.map {β : Type} {turn' : β → β → Prop} {f : α → β}
    (hturn : ∀ a b, turn a b → turn' (f a) (f b)) {n : Nat} {a b : α} (h : Turns turn n a b) :
    Turns turn' n (f a) (f b) := by
  induction n generalizing a with
  | zero => exact congrArg f h
  | succ n ih =>
    obtain ⟨c, hfirst, hrest⟩ := h
    exact ⟨f c, hturn a c hfirst, ih hrest⟩

end Turns

/-! ### Ends in order -/

/-- Ends in the order of their places, only the first one of each. -/
def firstOfEach (ends : List (End × Nat)) : List (End × Nat) :=
  ends.foldr (fun e rest => e :: rest.dropWhile (·.1.1 == e.1.1)) []

/-- The ends that are kept are among those that there were. -/
theorem firstOfEach_sublist (ends : List (End × Nat)) : (firstOfEach ends).Sublist ends := by
  induction ends with
  | nil => exact List.Sublist.slnil
  | cons e rest ih => exact ((List.dropWhile_sublist _).trans ih).cons_cons e

/-- Of each place one is left. -/
theorem exists_mem_firstOfEach {ends : List (End × Nat)} {e : End × Nat} (h : e ∈ ends) :
    ∃ f ∈ firstOfEach ends, f.1.1 = e.1.1 := by
  induction ends with
  | nil => cases h
  | cons first rest ih =>
    rcases List.mem_cons.mp h with rfl | h
    · exact ⟨e, List.mem_cons_self, rfl⟩
    · obtain ⟨f, hf, hplace⟩ := ih h
      by_cases hsame : f.1.1 = first.1.1
      · exact ⟨first, List.mem_cons_self, hsame.symm.trans hplace⟩
      · have hsplit := List.takeWhile_append_dropWhile
          (p := fun f : End × Nat => f.1.1 == first.1.1) (l := firstOfEach rest)
        rw [← hsplit] at hf
        refine ⟨f, List.mem_cons_of_mem _ ((List.mem_append.mp hf).resolve_left fun htaken => ?_),
          hplace⟩
        exact hsame (by simpa using List.all_eq_true.mp List.all_takeWhile f htaken)

section Tidied

variable {ends : List End} {e : End}

/-- Nothing comes in when ends are put in order. -/
theorem mem_of_mem_tidied (h : e ∈ tidied ends) : e ∈ ends := by
  match ends with
  | [] | [_] => exact h
  | first :: second :: rest =>
    obtain ⟨p, hp, rfl⟩ := List.mem_map.mp h
    have hsorted := (firstOfEach_sublist _).mem (List.mem_mergeSort.mp hp)
    exact (List.mem_zipIdx (List.mem_mergeSort.mp hsorted)).2.2 ▸ List.getElem_mem _

/-- No place is lost by that. -/
theorem exists_mem_tidied (h : e ∈ ends) : ∃ f ∈ tidied ends, f.1 = e.1 := by
  match ends with
  | [] | [_] => exact ⟨e, h, rfl⟩
  | first :: second :: rest =>
    obtain ⟨n, hget⟩ := List.mem_iff_getElem?.mp h
    have hpair : (e, n) ∈ (first :: second :: rest).zipIdx :=
      List.mk_mem_zipIdx_iff_getElem?.mpr hget
    obtain ⟨f, hf, hplace⟩ := exists_mem_firstOfEach (List.mem_mergeSort.mpr hpair)
    exact ⟨f.1, List.mem_map_of_mem (List.mem_mergeSort.mpr hf), hplace⟩

end Tidied

/-! ### The search finds matches -/

section Sound

variable {s : Subject}

/-- A character of a kind is there, and the match goes on behind it. -/
theorem mem_next {fits : Char → Bool} {i : Nat} {c : Captures} {e : End} :
    e ∈ next s fits i c ↔ (∃ d, s.text[i]? = some d ∧ fits d = true) ∧ e = (i + 1, c) := by
  unfold next
  cases s.text[i]? with
  | none => simp
  | some d => cases hfits : fits d <;> simp [hfits]

/-- The ends that have been reached so far have been reached in rounds, and the last of them in all
    of those that have been run. -/
theorem rounded_of_mem_rounds {one : End → List End} {turn : End → End → Prop}
    (hone : ∀ e, ∀ f ∈ one e, turn e f) {least : Nat} {most : Option Nat} {start : End} (fuel : Nat)
    {count : Nat} {done last : List End} (hcount : ∀ m ∈ most, count ≤ m)
    (hdone : ∀ f ∈ done, Rounded turn least most start f)
    (hlast : ∀ f ∈ last, Turns turn count start f) :
    ∀ f ∈ rounds one least most fuel count done last, Rounded turn least most start f := by
  -- each unit of fuel is one round, so the count of rounds goes along with the ends of the last
  induction fuel generalizing count done last with
  | zero => exact hdone
  | succ fuel ih =>
    have hnow : ∀ f ∈ (if least ≤ count then last ++ done else done),
        Rounded turn least most start f := by
      intro f hf
      split at hf
      · rcases List.mem_append.mp hf with hf | hf
        · exact ⟨count, ‹least ≤ count›, hcount, hlast f hf⟩
        · exact hdone f hf
      · exact hdone f hf
    rw [rounds]
    split
    · exact hnow
    · rename_i hgoes
      simp only [Bool.or_eq_true, beq_iff_eq, not_or] at hgoes
      refine ih (fun m hm => ?_) hnow fun f hf => ?_
      · have hle := hcount m hm
        have hne : m ≠ count := fun h => hgoes.2 (h ▸ hm)
        omega
      · obtain ⟨e, he, hf⟩ := List.mem_flatMap.mp (mem_of_mem_tidied hf)
        exact (hlast e he).concat (hone e f (List.mem_filter.mp hf).1)

/-- **All that the search finds are matches.** -/
theorem matches_of_mem_ends (r : Regex) {i : Nat} {c : Captures} {f : End} (h : f ∈ r.ends s i c) :
    Matches s r (i, c) f := by
  induction r generalizing i c f with
  | empty => exact List.mem_singleton.mp h
  | any =>
    obtain ⟨⟨d, hd, -⟩, rfl⟩ := mem_next.mp h
    exact ⟨⟨d, hd⟩, rfl⟩
  | char d => exact mem_next.mp h
  | set negated members =>
    obtain ⟨⟨d, hd, hholds⟩, rfl⟩ := mem_next.mp h
    exact ⟨⟨d, hd, by simpa using hholds⟩, rfl⟩
  | edge k =>
    rw [ends] at h
    split at h
    · exact ⟨‹_›, List.mem_singleton.mp h⟩
    · cases h
  | both first second ihf ihs =>
    rw [ends] at h
    split at h
    · cases h
    · rename_i j d hfirst
      exact ⟨(j, d), ihf (hfirst ▸ List.mem_singleton_self _), ihs h⟩
    · obtain ⟨⟨j, d⟩, hfirst, hsecond⟩ := List.mem_flatMap.mp (mem_of_mem_tidied h)
      exact ⟨(j, d), ihf hfirst, ihs hsecond⟩
  | either first second ihf ihs =>
    rcases List.mem_append.mp (mem_of_mem_tidied h) with h | h
    · exact .inl (ihf h)
    · exact .inr (ihs h)
  | repeated r least most ih =>
    have hone : ∀ e, ∀ f ∈ r.ends s e.1 e.2, Matches s r e f := fun e f hf => ih hf
    have hstart : ∀ f ∈ [((i, c) : End)], Turns (Matches s r) 0 (i, c) f :=
      fun f hf => (List.mem_singleton.mp hf).symm
    exact rounded_of_mem_rounds hone _ (fun _ _ => Nat.zero_le _) (by simp) hstart f
      (mem_of_mem_tidied h)
  | group number r ih =>
    obtain ⟨g, hg, rfl⟩ := List.mem_map.mp h
    exact ⟨g, ih hg, rfl⟩
  | again number =>
    rw [ends] at h
    split at h
    · cases h
    · rename_i first last hspan
      simp only at h
      split at h
      · rename_i hfound
        simp only [Bool.and_eq_true, beq_iff_eq, List.all_eq_true] at hfound
        exact ⟨(first, last), hspan, hfound.1, hfound.2, List.mem_singleton.mp h⟩
      · cases h

end Sound

/-! ### Places -/

section Places

variable {s : Subject}

/-- The length of a part of a subject. -/
theorem length_part (s : Subject) (first last : Nat) :
    (s.part first last).length = min last s.text.size - first := by
  simp only [Subject.part, Array.length_toList, Array.size_extract]

/-- A match that has no turns stays where it is, and otherwise its end is inside the text; it never
    goes back. -/
theorem Turns.place {turn : End → End → Prop} {size : Nat}
    (hturn : ∀ e f, turn e f → e.1 ≤ f.1 ∧ (f.1 = e.1 ∨ f.1 ≤ size)) {n : Nat} {e f : End}
    (h : Turns turn n e f) : e.1 ≤ f.1 ∧ (f.1 = e.1 ∨ f.1 ≤ size) := by
  induction n generalizing e with
  | zero =>
    obtain rfl : e = f := h
    exact ⟨Nat.le_refl _, .inl rfl⟩
  | succ n ih =>
    obtain ⟨g, hfirst, hrest⟩ := h
    have hg := hturn e g hfirst
    have hf := ih hrest
    omega

/-- A match ends where it begins or behind, and inside the text. -/
theorem Matches.place {r : Regex} {e f : End} (h : Matches s r e f) :
    e.1 ≤ f.1 ∧ (f.1 = e.1 ∨ f.1 ≤ s.text.size) := by
  have hinside : ∀ {i : Nat} {c : Char}, s.text[i]? = some c → i + 1 ≤ s.text.size :=
    fun h => (Array.getElem?_eq_some_iff.mp h).1
  induction r generalizing e f with
  | empty =>
    obtain rfl : f = e := h
    exact ⟨Nat.le_refl _, .inl rfl⟩
  | any =>
    obtain ⟨⟨c, hc⟩, rfl⟩ := h
    exact ⟨Nat.le_succ _, .inr (hinside hc)⟩
  | char d =>
    obtain ⟨⟨c, hc, -⟩, rfl⟩ := h
    exact ⟨Nat.le_succ _, .inr (hinside hc)⟩
  | set negated members =>
    obtain ⟨⟨c, hc, -⟩, rfl⟩ := h
    exact ⟨Nat.le_succ _, .inr (hinside hc)⟩
  | edge k =>
    obtain ⟨-, rfl⟩ := h
    exact ⟨Nat.le_refl _, .inl rfl⟩
  | both first second ihf ihs =>
    obtain ⟨g, hfirst, hsecond⟩ := h
    have hg := ihf hfirst
    have hf := ihs hsecond
    omega
  | either first second ihf ihs => exact h.elim ihf ihs
  | repeated r least most ih =>
    obtain ⟨n, -, -, hturns⟩ := h
    exact hturns.place fun _ _ => ih
  | group number r ih =>
    obtain ⟨g, hg, rfl⟩ := h
    have hplace := ih hg
    exact hplace
  | again number =>
    obtain ⟨span, -, hlength, -, rfl⟩ := h
    rw [length_part] at hlength
    omega

end Places

/-! ### Steady rounds -/

/-- Rounds from one place to another of which only the first ones may stay where they are, those up
    to the least number.  So many have been run before. -/
def Steady (turn : Nat → Nat → Prop) (least : Nat) : (count n : Nat) → Nat → Nat → Prop
  | _, 0, p, q => p = q
  | count, n + 1, p, q =>
    ∃ k, turn p k ∧ (p < k ∨ count < least) ∧ Steady turn least (count + 1) n k q

section Steady

variable {turn : Nat → Nat → Prop} {least count n p q : Nat}

/-- Behind the least number it does not matter how many have been run. -/
theorem Steady.of_le (h : Steady turn least (count + 1) n p q) (hle : least ≤ count) :
    Steady turn least count n p q := by
  induction n generalizing count p with
  | zero => exact h
  | succ n ih =>
    obtain ⟨k, hturn, hmoves, hrest⟩ := h
    exact ⟨k, hturn, .inl (hmoves.resolve_right (by omega)), ih hrest (by omega)⟩

/-- Rounds that stay where they are can be left out when there are enough without them. -/
theorem Turns.exists_steady (hturn : ∀ p q, turn p q → p ≤ q) (h : Turns turn n p q)
    (henough : least ≤ count + n) : ∃ m ≤ n, least ≤ count + m ∧ Steady turn least count m p q := by
  induction n generalizing count p with
  | zero => exact ⟨0, Nat.le_refl 0, henough, h⟩
  | succ n ih =>
    obtain ⟨k, hfirst, hrest⟩ := h
    have henough' : least ≤ count + 1 + n := by omega
    obtain ⟨m, hm, hleast, hsteady⟩ := ih hrest henough'
    -- a round that stays where it is, and is not needed for the least number, is left out
    by_cases hmoves : p < k ∨ count < least
    · exact ⟨m + 1, by omega, by omega, k, hfirst, hmoves, hsteady⟩
    · obtain rfl : p = k := by
        have := hturn p k hfirst
        omega
      exact ⟨m, by omega, by omega, hsteady.of_le (by omega)⟩

/-- There are at most as many as the least number and the places ahead together. -/
theorem Steady.le {size : Nat} (hturn : ∀ p q, turn p q → p ≤ q ∧ (q = p ∨ q ≤ size))
    (h : Steady turn least count n p q) : n ≤ (least - count) + (size - p) := by
  induction n generalizing count p with
  | zero => exact Nat.zero_le _
  | succ n ih =>
    obtain ⟨k, hfirst, hmoves, hrest⟩ := h
    have hk := hturn p k hfirst
    have hn := ih hrest
    omega

end Steady

/-! ### The search misses no match -/

/-- Ends that have been reached are kept. -/
theorem mem_rounds_of_mem {one : End → List End} {least : Nat} {most : Option Nat} (fuel : Nat)
    {count : Nat} {done last : List End} {e : End} (h : e ∈ done) :
    e ∈ rounds one least most fuel count done last := by
  induction fuel generalizing count done last with
  | zero => exact h
  | succ fuel ih =>
    have hnow : e ∈ (if least ≤ count then last ++ done else done) := by
      split
      · exact List.mem_append_right _ h
      · exact h
    rw [rounds]
    split
    · exact hnow
    · exact ih hnow

/-- Steady rounds are gone through, whatever groups have matched. -/
theorem exists_mem_rounds {one : End → List End} {turn : Nat → Nat → Prop}
    (hone : ∀ p q, turn p q → ∀ c, ∃ d, (q, d) ∈ one (p, c)) {least : Nat} {most : Option Nat}
    {fuel count n p q : Nat} {done last : List End} {c : Captures} (hlast : (p, c) ∈ last)
    (h : Steady turn least count n p q) (hleast : least ≤ count + n)
    (hmost : ∀ m ∈ most, count + n ≤ m)
    (hfuel : n < fuel) : ∃ d, (q, d) ∈ rounds one least most fuel count done last := by
  induction n generalizing fuel count p done last c with
  | zero =>
    obtain rfl : p = q := h
    obtain ⟨fuel, rfl⟩ : ∃ m, fuel = m + 1 := ⟨fuel - 1, by omega⟩
    have hnow : (p, c) ∈ (if least ≤ count then last ++ done else done) := by
      rw [if_pos (by omega)]
      exact List.mem_append_left _ hlast
    rw [rounds]
    split
    · exact ⟨c, hnow⟩
    · exact ⟨c, mem_rounds_of_mem _ hnow⟩
  | succ n ih =>
    obtain ⟨k, hturn, hmoves, hrest⟩ := h
    obtain ⟨fuel, rfl⟩ : ∃ m, fuel = m + 1 := ⟨fuel - 1, by omega⟩
    have hgoes : ¬ (last.isEmpty || most == some count) = true := by
      simp only [Bool.or_eq_true, List.isEmpty_iff, beq_iff_eq, not_or]
      refine ⟨List.ne_nil_of_mem hlast, fun h => ?_⟩
      have := hmost count h
      omega
    rw [rounds, if_neg hgoes]
    obtain ⟨d, hd⟩ := hone p k hturn c
    have honward : (k, d) ∈
        last.flatMap fun e => (one e).filter fun f => e.1 < f.1 || count < least :=
      List.mem_flatMap.mpr ⟨(p, c), hlast, List.mem_filter.mpr ⟨hd, by simpa using hmoves⟩⟩
    -- tidying keeps the place, but may keep it with the groups of another end
    obtain ⟨⟨k', d'⟩, hd', rfl⟩ := exists_mem_tidied honward
    exact ih hd' hrest (by omega) (fun m hm => by have := hmost m hm; omega) (by omega)

section Complete

variable {s : Subject}

/-- **The search reaches the ends of all matches** of an expression that does not refer back to its
    groups, whatever these have matched before. -/
theorem exists_mem_ends {r : Regex} (hr : r.Plain) {e f : End} (h : Matches s r e f)
    (c : Captures) :
    ∃ d, (f.1, d) ∈ r.ends s e.1 c := by
  induction r generalizing e f c with
  | empty =>
    obtain rfl : f = e := h
    exact ⟨c, List.mem_singleton_self _⟩
  | any =>
    obtain ⟨⟨d, hd⟩, rfl⟩ := h
    exact ⟨c, mem_next.mpr ⟨⟨d, hd, rfl⟩, rfl⟩⟩
  | char d =>
    obtain ⟨hd, rfl⟩ := h
    exact ⟨c, mem_next.mpr ⟨hd, rfl⟩⟩
  | set negated members =>
    obtain ⟨⟨d, hd, hholds⟩, rfl⟩ := h
    exact ⟨c, mem_next.mpr ⟨⟨d, hd, by simpa using hholds⟩, rfl⟩⟩
  | edge k =>
    obtain ⟨hk, rfl⟩ := h
    exact ⟨c, by rw [ends, if_pos hk]; exact List.mem_singleton_self _⟩
  | both first second ihf ihs =>
    obtain ⟨g, hfirst, hsecond⟩ := h
    obtain ⟨d, hd⟩ := ihf hr.1 hfirst c
    rw [ends]
    split
    · rename_i hnone
      rw [hnone] at hd
      cases hd
    · rename_i j d' hsingle
      rw [hsingle] at hd
      obtain ⟨rfl, rfl⟩ := Prod.mk.inj (List.mem_singleton.mp hd)
      exact ihs hr.2 hsecond d
    · obtain ⟨d', hd'⟩ := ihs hr.2 hsecond d
      have hall : (f.1, d') ∈ (first.ends s e.1 c).flatMap fun x => second.ends s x.1 x.2 :=
        List.mem_flatMap.mpr ⟨(g.1, d), hd, hd'⟩
      obtain ⟨f', hf', hplace⟩ := exists_mem_tidied hall
      exact ⟨f'.2, hplace ▸ hf'⟩
  | either first second ihf ihs =>
    have hall : ∃ d, (f.1, d) ∈ first.ends s e.1 c ++ second.ends s e.1 c := by
      rcases h with h | h
      · obtain ⟨d, hd⟩ := ihf hr.1 h c
        exact ⟨d, List.mem_append_left _ hd⟩
      · obtain ⟨d, hd⟩ := ihs hr.2 h c
        exact ⟨d, List.mem_append_right _ hd⟩
    obtain ⟨d, hd⟩ := hall
    obtain ⟨f', hf', hplace⟩ := exists_mem_tidied hd
    exact ⟨f'.2, hplace ▸ hf'⟩
  | repeated r least most ih =>
    obtain ⟨n, hleast, hmost, hturns⟩ := h
    -- only the places of the rounds matter
    let turn (p q : Nat) : Prop := ∃ e f, Matches s r e f ∧ e.1 = p ∧ f.1 = q
    have hplace : ∀ p q, turn p q → p ≤ q ∧ (q = p ∨ q ≤ s.text.size) := by
      rintro p q ⟨e, f, hmatches, rfl, rfl⟩
      exact hmatches.place
    have hplaces : Turns turn n e.1 f.1 := hturns.map fun e f hmatches => ⟨e, f, hmatches, rfl, rfl⟩
    have henough : least ≤ 0 + n := by omega
    obtain ⟨m, hm, hleast', hsteady⟩ := hplaces.exists_steady
      (fun p q h => (hplace p q h).1) henough
    have hbound := hsteady.le hplace
    let one (e : End) : List End := r.ends s e.1 e.2
    have hone : ∀ p q, turn p q → ∀ c, ∃ d, (q, d) ∈ one (p, c) := by
      rintro p q ⟨e, f, hmatches, rfl, rfl⟩ c
      exact ih hr hmatches c
    have hmost' : ∀ k ∈ most, 0 + m ≤ k := fun k hk => by
      have := hmost k hk
      omega
    have hfuel : m < s.text.size + least + 2 := by omega
    obtain ⟨d, hd⟩ :=
      exists_mem_rounds hone (List.mem_singleton_self (e.1, c)) hsteady hleast' hmost' hfuel
    obtain ⟨f', hf', hplace⟩ := exists_mem_tidied hd
    exact ⟨f'.2, hplace ▸ hf'⟩
  | group number r ih =>
    obtain ⟨g, hg, rfl⟩ := h
    obtain ⟨d, hd⟩ := ih hr hg c
    exact ⟨(number, e.1, g.1) :: d.filter (·.1 != number), List.mem_map.mpr ⟨(g.1, d), hd, rfl⟩⟩
  | again number => exact hr.elim

end Complete

/-! ### The match that counts -/

section Find

variable {s : Subject} {r : Regex}

/-- The longest of some ends is one of them. -/
theorem longest_mem_and_le (first : End) (more : List End) :
    let longest := more.foldl (fun a b => if a.1 < b.1 then b else a) first
    longest ∈ first :: more ∧ ∀ e ∈ first :: more, e.1 ≤ longest.1 := by
  induction more generalizing first with
  | nil => simp
  | cons next more ih =>
    intro longest
    by_cases hlonger : first.1 < next.1
    · obtain ⟨hmem, hle⟩ := ih next
      have hlongest : longest = more.foldl (fun a b => if a.1 < b.1 then b else a) next := by
        simp [longest, hlonger]
      rw [hlongest]
      refine ⟨List.mem_cons_of_mem _ hmem, fun e he => ?_⟩
      rcases List.mem_cons.mp he with rfl | he
      · exact Nat.le_trans (Nat.le_of_lt hlonger) (hle next List.mem_cons_self)
      · exact hle e he
    · obtain ⟨hmem, hle⟩ := ih first
      have hlongest : longest = more.foldl (fun a b => if a.1 < b.1 then b else a) first := by
        simp [longest, hlonger]
      rw [hlongest]
      constructor
      · rcases List.mem_cons.mp hmem with h | h
        · rw [h]
          exact List.mem_cons_self
        · exact List.mem_cons_of_mem _ (List.mem_cons_of_mem _ h)
      · have hfirst := hle first List.mem_cons_self
        intro e he
        rcases List.mem_cons.mp he with rfl | he
        · exact hfirst
        · rcases List.mem_cons.mp he with rfl | he
          · omega
          · exact hle e (List.mem_cons_of_mem _ he)

/-- What the search comes to from a place on: there is nothing at any of the places, or it stops at
    the first where there is something, with the longest of what is there. -/
theorem findFrom_cases (s : Subject) (r : Regex) (places i : Nat) :
    (findFrom s r places i = none ∧ ∀ k, i ≤ k → k < i + places → r.ends s k [] = []) ∨
      ∃ m, findFrom s r places i = some m ∧ i ≤ m.first ∧ m.first < i + places ∧
        (∀ k, i ≤ k → k < m.first → r.ends s k [] = []) ∧
        (m.last, m.captures) ∈ r.ends s m.first [] ∧ ∀ f ∈ r.ends s m.first [], f.1 ≤ m.last := by
  induction places generalizing i with
  | zero => exact .inl ⟨rfl, fun k hk hlt => by omega⟩
  | succ places ih =>
    rw [findFrom]
    split
    · rename_i first more hends
      obtain ⟨hmem, hle⟩ := longest_mem_and_le first more
      have hnothing : ∀ k, i ≤ k → k < i → r.ends s k [] = [] := fun k hk hlt => by omega
      exact .inr ⟨_, rfl, Nat.le_refl i, by simp, hnothing, hends ▸ hmem, hends ▸ hle⟩
    · rename_i hends
      have hhere : ∀ {k}, k = i → r.ends s k [] = [] := fun h => h ▸ hends
      rcases ih (i + 1) with ⟨hnone, hnothing⟩ | ⟨m, hsome, hfirst, hlast, hnothing, hlongest⟩
      · refine .inl ⟨hnone, fun k hk hlt => ?_⟩
        by_cases hki : k = i
        · exact hhere hki
        · exact hnothing k (by omega) (by omega)
      · refine .inr ⟨m, hsome, by omega, by omega, fun k hk hlt => ?_, hlongest⟩
        by_cases hki : k = i
        · exact hhere hki
        · exact hnothing k (by omega) hlt

/-- Where nothing is found no match begins. -/
theorem not_matches_of_ends_eq_nil (hr : r.Plain) {e f : End} (h : r.ends s e.1 [] = []) :
    ¬ Matches s r e f := by
  intro hmatches
  obtain ⟨d, hd⟩ := exists_mem_ends hr hmatches []
  rw [h] at hd
  cases hd

/-- **Nothing is found** from a place on exactly if no match begins there or behind. -/
theorem find?_eq_none_iff (hr : r.Plain) (i : Nat) :
    r.find? s i = none ↔ ∀ e f, i ≤ e.1 → e.1 ≤ s.text.size → ¬ Matches s r e f := by
  rw [find?]
  rcases findFrom_cases s r (s.text.size + 1 - i) i with
    ⟨hnone, hnothing⟩ | ⟨m, hsome, hfirst, hlast, -, hmem, -⟩
  · refine iff_of_true hnone fun e f hi hsize => ?_
    exact not_matches_of_ends_eq_nil hr (hnothing e.1 hi (by omega))
  · rw [hsome]
    refine iff_of_false (Option.some_ne_none m) fun hno => ?_
    have hsize : m.first ≤ s.text.size := by omega
    exact hno (m.first, []) (m.last, m.captures) hfirst hsize (matches_of_mem_ends r hmem)

/-- **The match that counts** is a match, and if the expression does not refer back to its groups,
    none from the given place on begins earlier, and of those that begin there none is longer. -/
theorem find?_eq_some {i : Nat} {m : Match} (h : r.find? s i = some m) :
    i ≤ m.first ∧ Matches s r (m.first, []) (m.last, m.captures) ∧
      (r.Plain → ∀ e f, Matches s r e f → i ≤ e.1 →
        m.first ≤ e.1 ∧ (e.1 = m.first → f.1 ≤ m.last)) := by
  rcases findFrom_cases s r (s.text.size + 1 - i) i with
    ⟨hnone, -⟩ | ⟨m', hsome, hfirst, -, hnothing, hmem, hlongest⟩
  · cases h.symm.trans hnone
  · obtain rfl := Option.some.inj (h.symm.trans hsome)
    refine ⟨hfirst, matches_of_mem_ends r hmem, fun hr e f hmatches hi => ⟨?_, fun hplace => ?_⟩⟩
    · refine Nat.le_of_not_lt fun hearlier => ?_
      exact not_matches_of_ends_eq_nil hr (hnothing e.1 hi hearlier) hmatches
    · obtain ⟨d, hd⟩ := exists_mem_ends hr hmatches []
      exact hlongest (f.1, d) (hplace ▸ hd)

end Find

end NavScript.Regex
