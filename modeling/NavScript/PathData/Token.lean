import NavScript.Text.Blank

namespace NavScript.PathData

/-!
# Tokens of path data

Path data is a text of operator letters and numbers.  Commas and blanks separate tokens; a letter of
an operator is a token of its own even where nothing separates it from its neighbours.

* `isLetter` — the six operator letters
* `normalize` — commas turned into spaces, and a space put on both sides of every letter
* `tokens` — the words of the normalized text (`tokens_eq`)
-/

/-- The operator letters. -/
def isLetter (c : Char) : Bool :=
  c == 'M' || c == 'm' || c == 'L' || c == 'l' || c == 'Z' || c == 'z'

/-- A character with what its role as a separator or letter adds. -/
def spread (c : Char) : List Char :=
  if c == ',' then [' '] else if isLetter c then [' ', c, ' '] else [c]

/-- The text with its letters set apart and blanks as its only separators. -/
def normalize (d : List Char) : List Char :=
  d.flatMap spread

/-- The tokens of path data: its letters, and the runs of characters between letters and
    separators.  The normalized text is not built; `tokens_eq` says that its words are these. -/
def tokens (d : List Char) : List (List Char) :=
  (d.foldr (fun c cut => (spread c).foldr Text.Cut.push cut) Text.Cut.empty).words

/-- Tokens are the words of the text with its letters set apart. -/
theorem tokens_eq (d : List Char) : tokens d = Text.words (normalize d) := by
  simp [tokens, Text.words, normalize, List.foldr_flatMap]

@[simp] theorem tokens_nil : tokens [] = [] := rfl

@[simp] theorem normalize_append (d e : List Char) :
    normalize (d ++ e) = normalize d ++ normalize e := by
  simp [normalize]

end NavScript.PathData
