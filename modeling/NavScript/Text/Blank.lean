namespace NavScript.Text

/-!
# Blanks, words and trimming

Scripts, coordinates and path data are all cut at blanks.  A character is blank when Unicode gives
it the property White_Space.

* `isBlank` — the property, as ranges of code points
* `words` — the maximal runs of characters that are not blank
* `trim` — a text without the blanks at its two ends
-/

/-- Unicode's White_Space: the controls U+0009 to U+000D, the space, U+0085, and the space, line and
    paragraph separators.  Zero-width characters and the byte order mark are not in it. -/
def isBlank (c : Char) : Bool :=
  let n := c.toNat
  (9 ≤ n && n ≤ 13) || n == 0x20 || n == 0x85 || n == 0xA0 || n == 0x1680
    || (0x2000 ≤ n && n ≤ 0x200A) || n == 0x2028 || n == 0x2029 || n == 0x202F || n == 0x205F
    || n == 0x3000

/-! ### Words -/

/-- A text cut at its blanks while it is read from the back: the run that the text begins with,
    empty when it begins with a blank, and the words after it. -/
structure Cut where
  head : List Char
  tail : List (List Char)

namespace Cut

/-- Nothing read yet. -/
def empty : Cut := ⟨[], []⟩

/-- The words of a text that has been read to its front. -/
def words (s : Cut) : List (List Char) :=
  if s.head.isEmpty then s.tail else s.head :: s.tail

/-- One more character in front: a blank ends the run behind it, any other character joins it. -/
def push (c : Char) (s : Cut) : Cut :=
  if isBlank c then ⟨[], s.words⟩ else ⟨c :: s.head, s.tail⟩

end Cut

/-- The words of a text: its maximal runs of characters that are not blank, in order. -/
def words (cs : List Char) : List (List Char) :=
  (cs.foldr Cut.push Cut.empty).words

@[simp] theorem words_nil : words [] = [] := rfl

/-- A blank in front of a text adds no word. -/
theorem words_cons_of_isBlank {c : Char} (h : isBlank c = true) (cs : List Char) :
    words (c :: cs) = words cs := by
  simp [words, Cut.push, h, Cut.words]

/-- Every word is a non-empty run without blanks. -/
theorem ne_nil_of_mem_words {w : List Char} (cs : List Char) (h : w ∈ words cs) :
    w ≠ [] ∧ ∀ c ∈ w, isBlank c = false := by
  have key : ∀ cs : List Char,
      (∀ c ∈ (cs.foldr Cut.push Cut.empty).head, isBlank c = false) ∧
        ∀ w ∈ (cs.foldr Cut.push Cut.empty).words, w ≠ [] ∧ ∀ c ∈ w, isBlank c = false := by
    intro cs
    induction cs with
    | nil => simp [Cut.empty, Cut.words]
    | cons c cs ih =>
      rw [List.foldr_cons]
      generalize cs.foldr Cut.push Cut.empty = s at ih
      obtain ⟨hhead, hwords⟩ := ih
      cases hc : isBlank c with
      | true => simpa [Cut.push, hc, Cut.words] using hwords
      | false =>
        have htail : ∀ w ∈ s.tail, w ≠ [] ∧ ∀ c ∈ w, isBlank c = false := by
          intro w hw
          refine hwords w ?_
          unfold Cut.words
          split
          · exact hw
          · exact List.mem_cons_of_mem _ hw
        simp only [Cut.push, hc, Cut.words, Bool.false_eq_true, if_false, List.isEmpty_cons,
          List.mem_cons, forall_eq_or_imp]
        exact ⟨⟨trivial, hhead⟩, ⟨by simp, trivial, hhead⟩, htail⟩
  exact (key cs).2 w h

/-- The words of a string, as strings. -/
def wordsOf (s : String) : List String :=
  (words s.toList).map String.ofList

/-! ### Trimming -/

/-- A text without its leading and trailing blanks. -/
def trim (cs : List Char) : List Char :=
  ((cs.dropWhile isBlank).reverse.dropWhile isBlank).reverse

/-- A string without its leading and trailing blanks. -/
def trimmed (s : String) : String :=
  String.ofList (trim s.toList)

end NavScript.Text
