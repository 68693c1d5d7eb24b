import Mathlib.Data.List.Basic
import NavScript.Proofs.Text.Words

namespace NavScript.Text

/-!
# Tokens of a line

In a line for the simulator, brackets and commas set off what stands between them as blanks do, but
they count themselves.  A text is cut into its tokens on either side of each of these characters, so
that texts can be put together, and taken apart, wherever one of them stands.

* `tokens` — the words of a text, with brackets and commas by themselves
* `tokens_append` — the tokens of two texts with a separator between them
* `tokens_of_isToken` — a text without separators
-/

/-- A bracket or a comma. -/
def isMark (c : Char) : Bool :=
  c == '(' || c == ')' || c == ','

/-- A character that a token ends at. -/
def isSeparator (c : Char) : Bool :=
  isBlank c || isMark c

/-- A text with its brackets and commas set off by spaces. -/
def spread (cs : List Char) : List Char :=
  cs.flatMap fun c => if isMark c then [' ', c, ' '] else [c]

/-- The tokens of a text: its maximal runs without separators, and its brackets and commas, in
    order. -/
def tokens (cs : List Char) : List (List Char) :=
  words (spread cs)

/-- A run without separators, of at least one character. -/
def IsToken (w : List Char) : Prop :=
  w ≠ [] ∧ ∀ c ∈ w, isSeparator c = false

/-! ### Separators -/

@[simp] theorem tokens_nil : tokens [] = [] := rfl

theorem spread_append (a b : List Char) : spread (a ++ b) = spread a ++ spread b :=
  List.flatMap_append

/-- What a separator counts for between two texts: a bracket or a comma for itself, a blank for
    nothing. -/
def tokenOf (c : Char) : List (List Char) :=
  if isMark c then [[c]] else []

/-- A text falls apart at a separator. -/
theorem tokens_append_cons {c : Char} (hc : isSeparator c = true) (cs rest : List Char) :
    tokens (cs ++ c :: rest) = tokens cs ++ tokenOf c ++ tokens rest := by
  have hspread :
      spread (c :: rest) = (if isMark c then [' ', c, ' '] else [c]) ++ spread rest := rfl
  rw [tokens, spread_append, hspread, tokenOf]
  by_cases hmark : isMark c = true
  · have hword : IsWord [c] := by
      simp only [isMark, Bool.or_eq_true, beq_iff_eq] at hmark
      rcases hmark with (rfl | rfl) | rfl <;> decide
    rw [if_pos hmark, if_pos hmark]
    -- the space in front of it and the one behind it are cut at, one after the other
    have hcut : words (spread cs ++ ' ' :: ([c] ++ ' ' :: spread rest)) =
        words (spread cs) ++ ([[c]] ++ words (spread rest)) := by
      rw [words_append_of_isBlank (by decide), words_append_of_isBlank (by decide),
        words_of_isWord hword]
    rw [List.append_assoc]
    exact hcut
  · have hblank : isBlank c = true := by simpa [isSeparator, hmark] using hc
    rw [if_neg hmark, if_neg hmark, List.append_nil]
    exact words_append_of_isBlank hblank _ _

/-- Two texts with a separator between them, which the first ends with or the second begins with,
    have the tokens of both. -/
theorem tokens_append {a b : List Char}
    (h : a.getLast?.any isSeparator = true ∨ b.head?.any isSeparator = true) :
    tokens (a ++ b) = tokens a ++ tokens b := by
  rcases h with h | h
  · cases hlast : a.getLast? with
    | none => simp [hlast] at h
    | some c =>
      have hc : isSeparator c = true := by simpa [hlast] using h
      obtain ⟨front, rfl⟩ := List.getLast?_eq_some_iff.mp hlast
      rw [List.append_assoc, List.singleton_append, tokens_append_cons hc, tokens_append_cons hc,
        tokens_nil, List.append_nil]
  · cases b with
    | nil => simp at h
    | cons c rest =>
      have hc : isSeparator c = true := by simpa using h
      have hrest := tokens_append_cons hc [] rest
      rw [List.nil_append, tokens_nil, List.nil_append] at hrest
      rw [tokens_append_cons hc, hrest, List.append_assoc]

/-! ### Tokens -/

/-- A text without separators is one token. -/
theorem tokens_of_isToken {w : List Char} (h : IsToken w) : tokens w = [w] := by
  obtain ⟨hne, hw⟩ := h
  have hparts : ∀ c ∈ w, isBlank c = false ∧ isMark c = false := fun c hc => by
    simpa [isSeparator] using hw c hc
  have hspread : spread w = w := by
    rw [spread, List.flatMap_congr (g := fun c => [c]) fun c hc => by rw [(hparts c hc).2]; rfl]
    exact List.flatMap_singleton' w
  rw [tokens, hspread]
  exact words_of_isWord ⟨hne, fun c hc => (hparts c hc).1⟩

end NavScript.Text
