import NavScript.Proofs.Text.Words

namespace NavScript.Text

/-!
# Words with single spaces between them

Cutting a text into words forgets which blanks stood between them, and how many.  It forgets nothing
where each blank is a space between two words: such a text is put together again from its words.

* `Spaced` — a text of words with single spaces between them
* `Spaced.append`, `Spaced.append_space`, `Spaced.enclosed` — such texts put together
* `Spaced.intercalate_wordsOf` — the words of such a text, and the text again
-/

/-- Words with single spaces between them, of which there is at least one. -/
inductive Spaced : List Char → Prop
  | last {c : Char} (h : isBlank c = false) : Spaced [c]
  | joined {c : Char} {cs : List Char} (h : isBlank c = false) (hcs : Spaced cs) : Spaced (c :: cs)
  | parted {c : Char} {cs : List Char} (h : isBlank c = false) (hcs : Spaced cs) :
    Spaced (c :: ' ' :: cs)

namespace Spaced

variable {a b : List Char}

/-- A word by itself. -/
theorem of_isWord {w : List Char} (h : IsWord w) : Spaced w := by
  obtain ⟨hne, hw⟩ := h
  induction w with
  | nil => exact absurd rfl hne
  | cons c w ih =>
    obtain ⟨hc, hw⟩ := List.forall_mem_cons.mp hw
    by_cases hrest : w = []
    · subst hrest
      exact .last hc
    · exact .joined hc (ih hrest hw)

/-- The last word of one text and the first of another become one. -/
theorem append (ha : Spaced a) (hb : Spaced b) : Spaced (a ++ b) := by
  induction ha with
  | last h => exact .joined h hb
  | joined h _ ih => exact .joined h ih
  | parted h _ ih => exact .parted h ih

/-- Two texts with a space between them. -/
theorem append_space (ha : Spaced a) (hb : Spaced b) : Spaced (a ++ ' ' :: b) := by
  induction ha with
  | last h => exact .parted h hb
  | joined h _ ih => exact .joined h ih
  | parted h _ ih => exact .parted h ih

/-- A list of texts behind another one, with separators that are words. -/
theorem append_intercalate {separator : List Char} (hseparator : IsWord separator)
    {parts : List (List Char)} (hparts : ∀ part ∈ parts, Spaced part) (ha : Spaced a) :
    Spaced (a ++ separator.intercalate parts) := by
  induction parts generalizing a with
  | nil => rwa [List.intercalate_nil, List.append_nil]
  | cons part parts ih =>
    obtain ⟨hpart, hparts⟩ := List.forall_mem_cons.mp hparts
    cases parts with
    | nil =>
      rw [List.intercalate_singleton]
      exact ha.append hpart
    | cons part' parts =>
      have hfront := (ha.append hpart).append (.of_isWord hseparator)
      rw [List.intercalate_cons_cons, ← List.append_assoc, ← List.append_assoc]
      exact ih hparts hfront

/-- A list of texts between two words, with separators that are words. -/
theorem enclosed {front separator back : List Char} (hfront : IsWord front)
    (hseparator : IsWord separator) (hback : IsWord back) {parts : List (List Char)}
    (hparts : ∀ part ∈ parts, Spaced part) :
    Spaced (front ++ separator.intercalate parts ++ back) :=
  ((of_isWord hfront).append_intercalate hseparator hparts).append (.of_isWord hback)

/-- Words with spaces between them. -/
theorem intercalate {ws : List (List Char)} (hws : ∀ w ∈ ws, IsWord w) (hne : ws ≠ []) :
    Spaced ([' '].intercalate ws) := by
  induction ws with
  | nil => exact absurd rfl hne
  | cons w ws ih =>
    obtain ⟨hw, hws⟩ := List.forall_mem_cons.mp hws
    cases ws with
    | nil =>
      rw [List.intercalate_singleton]
      exact .of_isWord hw
    | cons w' ws =>
      rw [List.intercalate_cons_cons, List.append_assoc]
      exact (of_isWord hw).append_space (ih hws (List.cons_ne_nil w' ws))

/-- What is read of such a text from its back: it begins with a run that is not empty, and each word
    behind that has a space in front of it. -/
theorem foldr_push {cs : List Char} (h : Spaced cs) :
    ∃ head tail, head ≠ [] ∧ cs.foldr Cut.push Cut.empty = ⟨head, tail⟩ ∧
      head ++ tail.flatMap (' ' :: ·) = cs := by
  induction h with
  | @last c hc => exact ⟨[c], [], by simp, by simp [Cut.push, Cut.empty, hc], rfl⟩
  | @joined c cs hc _ ih =>
    obtain ⟨head, tail, -, hfold, hcs⟩ := ih
    refine ⟨c :: head, tail, by simp, ?_, by rw [List.cons_append, hcs]⟩
    rw [List.foldr_cons, hfold, Cut.push, hc]
    rfl
  | @parted c cs hc _ ih =>
    obtain ⟨head, tail, hne, hfold, hcs⟩ := ih
    refine ⟨[c], head :: tail, by simp, ?_, by simp [hcs]⟩
    -- the space ends the run behind it, which is then the first of the words
    have hspace : isBlank ' ' = true := by decide
    simp [hfold, Cut.push, hc, hspace, Cut.words, hne]

/-- Such a text is its words with spaces between them. -/
theorem intercalate_words {cs : List Char} (h : Spaced cs) : [' '].intercalate (words cs) = cs := by
  obtain ⟨head, tail, hne, hfold, hcs⟩ := h.foldr_push
  have hwords : words cs = head :: tail := by simp [words, hfold, Cut.words, hne]
  have hall : ∀ (w : List Char) (ws : List (List Char)),
      [' '].intercalate (w :: ws) = w ++ ws.flatMap (' ' :: ·) := by
    intro w ws
    induction ws generalizing w with
    | nil => simp
    | cons w' ws ih => rw [List.intercalate_cons_cons, ih]; simp
  rw [hwords, hall, hcs]

/-- The words of a text, put together again, are the text. -/
theorem intercalate_wordsOf {text : String} (h : Spaced text.toList) :
    " ".intercalate (wordsOf text) = text := by
  apply String.toList_injective
  rw [String.toList_intercalate, wordsOf, List.map_map]
  have hlists : (words text.toList).map (String.toList ∘ String.ofList) = words text.toList := by
    simp [Function.comp_def]
  rw [hlists]
  exact h.intercalate_words

end Spaced

end NavScript.Text
