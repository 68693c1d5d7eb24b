import NavScript.Text.Blank

namespace NavScript.Text

/-!
# Words put together again

A text is cut at each of its blanks, so what stands in front of a blank and what stands behind it
are cut on their own.  Words with a space between them are therefore found again.

* `words_append_of_isBlank` — the words around a blank
* `words_append_of_blanks` — the words around a run of blanks
* `words_append_of_forall_isBlank` — blanks behind a text
* `flatten_words` — all words together
* `wordsOf_intercalate` — words with spaces between them
-/

/-- A run without blanks, of at least one character. -/
def IsWord (w : List Char) : Prop :=
  w ≠ [] ∧ ∀ c ∈ w, isBlank c = false

instance (w : List Char) : Decidable (IsWord w) :=
  decidable_of_iff ((!w.isEmpty && w.all (!isBlank ·)) = true) (by simp [IsWord])

theorem isWord_of_mem_words {w cs : List Char} (h : w ∈ words cs) : IsWord w :=
  ne_nil_of_mem_words cs h

/-- No digit is blank. -/
theorem isBlank_of_isDigit {c : Char} (h : c.isDigit = true) : isBlank c = false := by
  simp only [Char.isDigit, Bool.and_eq_true, decide_eq_true_eq, UInt32.le_iff_toNat_le] at h
  have hlow : 48 ≤ c.toNat := h.1
  have hhigh : c.toNat ≤ 57 := h.2
  simp only [isBlank, Bool.or_eq_false_iff, Bool.and_eq_false_iff, decide_eq_false_iff_not,
    beq_eq_false_iff_ne]
  omega

/-! ### Cutting -/

/-- Reading goes on in front of a blank without a look at the words behind it. -/
theorem foldr_push_of_head_nil (tail : List (List Char)) (cs : List Char) :
    cs.foldr Cut.push ⟨[], tail⟩ =
      ⟨(cs.foldr Cut.push Cut.empty).head, (cs.foldr Cut.push Cut.empty).tail ++ tail⟩ := by
  induction cs with
  | nil => rfl
  | cons c cs ih =>
    rw [List.foldr_cons, List.foldr_cons, ih]
    generalize cs.foldr Cut.push Cut.empty = s
    cases hc : isBlank c with
    | false => simp [Cut.push, hc]
    | true => cases hs : s.head <;> simp [Cut.push, Cut.words, hc, hs]

/-- The words around a blank are those in front of it and those behind it. -/
theorem words_append_of_isBlank {b : Char} (hb : isBlank b = true) (cs rest : List Char) :
    words (cs ++ b :: rest) = words cs ++ words rest := by
  have hpush : (b :: rest).foldr Cut.push Cut.empty = ⟨[], words rest⟩ := by
    simp [Cut.push, hb, words]
  unfold words at hpush ⊢
  -- the text is read from its back, so the words behind the blank are there first
  rw [List.foldr_append, hpush, foldr_push_of_head_nil]
  generalize cs.foldr Cut.push Cut.empty = s
  cases hs : s.head <;> simp [Cut.words, hs]

/-- Blanks in front of a text add no word. -/
theorem words_blanks_append {bs : List Char} (h : ∀ b ∈ bs, isBlank b = true) (cs : List Char) :
    words (bs ++ cs) = words cs := by
  induction bs with
  | nil => rfl
  | cons b bs ih =>
    obtain ⟨hb, hbs⟩ := List.forall_mem_cons.mp h
    rw [List.cons_append, words_cons_of_isBlank hb, ih hbs]

/-- Blanks alone have no word in them. -/
theorem words_of_forall_isBlank {bs : List Char} (h : ∀ b ∈ bs, isBlank b = true) :
    words bs = [] := by
  have hwords := words_blanks_append h []
  rwa [List.append_nil] at hwords

/-- Blanks behind a text add no word. -/
theorem words_append_of_forall_isBlank {bs : List Char} (h : ∀ b ∈ bs, isBlank b = true)
    (cs : List Char) : words (cs ++ bs) = words cs := by
  cases bs with
  | nil => rw [List.append_nil]
  | cons b bs =>
    obtain ⟨hb, hbs⟩ := List.forall_mem_cons.mp h
    rw [words_append_of_isBlank hb, words_of_forall_isBlank hbs, List.append_nil]

/-- The words around a run of blanks are those in front of it and those behind it. -/
theorem words_append_of_blanks {bs : List Char} (hne : bs ≠ []) (h : ∀ b ∈ bs, isBlank b = true)
    (cs rest : List Char) : words (cs ++ bs ++ rest) = words cs ++ words rest := by
  obtain ⟨b, bs, rfl⟩ := List.exists_cons_of_ne_nil hne
  obtain ⟨hb, hbs⟩ := List.forall_mem_cons.mp h
  rw [List.append_assoc, List.cons_append, words_append_of_isBlank hb, words_blanks_append hbs]

/-- Together the words of a text are the text without its blanks. -/
theorem flatten_words (cs : List Char) : (words cs).flatten = cs.filter (!isBlank ·) := by
  have hcut : ∀ s : Cut, s.words.flatten = s.head ++ s.tail.flatten := by
    intro s
    cases hhead : s.head <;> simp [Cut.words, hhead]
  have hpush : ∀ (c : Char) (s : Cut),
      (s.push c).words.flatten = if isBlank c then s.words.flatten else c :: s.words.flatten := by
    intro c s
    rw [hcut, Cut.push]
    split
    · rfl
    · rw [hcut s]
      rfl
  unfold words
  induction cs with
  | nil => rfl
  | cons c cs ih =>
    rw [List.foldr_cons, hpush, ih, List.filter_cons]
    cases isBlank c <;> rfl

/-- A word is a text of one word. -/
theorem words_of_isWord {w : List Char} (h : IsWord w) : words w = [w] := by
  obtain ⟨hne, hw⟩ := h
  have hfold : ∀ cs : List Char, (∀ c ∈ cs, isBlank c = false) →
      cs.foldr Cut.push Cut.empty = ⟨cs, []⟩ := by
    intro cs hcs
    induction cs with
    | nil => rfl
    | cons c cs ih =>
      have hrest := ih fun c' hc' => hcs c' (List.mem_cons_of_mem _ hc')
      simp [hrest, Cut.push, hcs c (by simp)]
  simp [words, hfold w hw, Cut.words, hne]

/-! ### Strings -/

/-- A string that begins with a word and a space has this word as its first. -/
theorem head?_wordsOf {w : String} (h : IsWord w.toList) (rest : String) :
    (wordsOf (w ++ " " ++ rest)).head? = some w := by
  have hcs : (w ++ " " ++ rest).toList = w.toList ++ ' ' :: rest.toList := by simp
  rw [wordsOf, hcs, words_append_of_isBlank (by decide), words_of_isWord h]
  simp

/-- Words with spaces between them are found again. -/
theorem wordsOf_intercalate {ws : List String} (h : ∀ w ∈ ws, IsWord w.toList) :
    wordsOf (" ".intercalate ws) = ws := by
  induction ws with
  | nil => rfl
  | cons w ws ih =>
    have hw := words_of_isWord (h w (by simp))
    have hws := ih fun w' hw' => h w' (List.mem_cons_of_mem _ hw')
    cases ws with
    | nil => simp [wordsOf, hw]
    | cons w' ws =>
      have hcs : (" ".intercalate (w :: w' :: ws)).toList =
          w.toList ++ ' ' :: (" ".intercalate (w' :: ws)).toList := by
        simp [String.intercalate_cons_cons]
      rw [wordsOf] at hws ⊢
      rw [hcs, words_append_of_isBlank (by decide), hw, List.map_append, hws]
      simp

end NavScript.Text
