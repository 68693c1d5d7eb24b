import Mathlib.Data.List.Basic
import Mathlib.Logic.Relation
import NavScript.PathData.Points
import NavScript.Proofs.Text.Words

namespace NavScript.PathData

open NavScript.Geometry

/-!
# Separators of path data

Commas and blanks set the tokens of path data apart, and no more: it does not matter which they are
or how many stand together, and where a letter or an end of the text sets the tokens apart they may
be missing.  Texts that differ in their separators only have the same tokens, and so they are the
same path, or have the same fault.

* `IsGap` — a run of separators
* `IsRun` — a run of characters that are neither separators nor letters, which is one token
* `Parted` — two texts that need no separator between them
* `tokens_append_gap` — the tokens around a gap
* `flatten_tokens` — all tokens together
* `Respaced` — a change of separators
* `path_eq_of_respaced` — path data with other separators
-/

/-! ### Gaps -/

/-- A comma or a blank. -/
def isSeparator (c : Char) : Bool :=
  c == ',' || Text.isBlank c

/-- A run of separators, which may be empty. -/
def IsGap (s : List Char) : Prop :=
  ∀ c ∈ s, isSeparator c = true

instance (s : List Char) : Decidable (IsGap s) :=
  decidable_of_iff (s.all isSeparator = true) List.all_eq_true

theorem isGap_nil : IsGap [] := by decide

/-- What holds of none of the six letters holds of no letter. -/
theorem eq_false_of_isLetter {f : Char → Bool}
    (hf : ['M', 'm', 'L', 'l', 'Z', 'z'].all (!f ·) = true) {c : Char} (hc : isLetter c = true) :
    f c = false := by
  have hmem : c ∈ ['M', 'm', 'L', 'l', 'Z', 'z'] := by simpa [isLetter, or_assoc] using hc
  simpa using List.all_eq_true.mp hf c hmem

/-- A letter is no blank. -/
theorem isBlank_of_isLetter {c : Char} (hc : isLetter c = true) : Text.isBlank c = false :=
  eq_false_of_isLetter (by decide) hc

/-- A separator becomes a blank. -/
theorem spread_of_isSeparator {c : Char} (h : isSeparator c = true) :
    ∃ b, Text.isBlank b = true ∧ spread c = [b] := by
  by_cases hcomma : c = ','
  · exact ⟨' ', by decide, by rw [hcomma]; rfl⟩
  · have hblank : Text.isBlank c = true := by simpa [isSeparator, hcomma] using h
    have hletter : isLetter c = false := by
      rw [Bool.eq_false_iff]
      intro hl
      rw [isBlank_of_isLetter hl] at hblank
      cases hblank
    exact ⟨c, hblank, by simp [spread, hcomma, hletter]⟩

/-- A gap is normalized to blanks. -/
theorem IsGap.isBlank_of_mem_normalize {s : List Char} (h : IsGap s) :
    ∀ b ∈ normalize s, Text.isBlank b = true := by
  intro b hb
  obtain ⟨c, hc, hbc⟩ := List.mem_flatMap.mp hb
  obtain ⟨b', hb', hspread⟩ := spread_of_isSeparator (h c hc)
  rw [hspread, List.mem_singleton] at hbc
  rwa [hbc]

/-- Something stays of every text. -/
theorem normalize_ne_nil {d : List Char} (h : d ≠ []) : normalize d ≠ [] := by
  obtain ⟨c, d, rfl⟩ := List.exists_cons_of_ne_nil h
  have hspread : spread c ≠ [] := by
    unfold spread
    split
    · simp
    · split <;> simp
  simp [normalize, hspread]

/-! ### Runs -/

/-- A character that neither separates tokens nor is a token of its own. -/
def isPlain (c : Char) : Bool :=
  !isSeparator c && !isLetter c

/-- A run of such characters, of at least one. -/
def IsRun (w : List Char) : Prop :=
  w ≠ [] ∧ ∀ c ∈ w, isPlain c = true

instance (w : List Char) : Decidable (IsRun w) :=
  inferInstanceAs (Decidable (_ ∧ _))

/-- A plain character is no comma, no blank and no letter. -/
theorem isPlain_iff {c : Char} :
    isPlain c = true ↔ c ≠ ',' ∧ Text.isBlank c = false ∧ isLetter c = false := by
  simp [isPlain, isSeparator, and_assoc]

/-- A run is one token. -/
theorem tokens_of_isRun {w : List Char} (h : IsRun w) : tokens w = [w] := by
  obtain ⟨hne, hw⟩ := h
  have hspread : ∀ c ∈ w, spread c = [c] := by
    intro c hc
    obtain ⟨hcomma, -, hletter⟩ := isPlain_iff.mp (hw c hc)
    simp [spread, hcomma, hletter]
  have hnormal : normalize w = w := by
    rw [normalize, List.flatMap_congr hspread]
    exact List.flatMap_singleton' w
  rw [tokens_eq, hnormal]
  exact Text.words_of_isWord ⟨hne, fun c hc => (isPlain_iff.mp (hw c hc)).2.1⟩

/-! ### Tokens around a gap -/

/-- Two texts that need no separator where they meet: one of them is empty, or a letter stands
    there. -/
inductive Parted : List Char → List Char → Prop where
  | atFront (b : List Char) : Parted [] b
  | atBack (a : List Char) : Parted a []
  | behindLetter {c : Char} (hc : isLetter c = true) (a b : List Char) : Parted (a ++ [c]) b
  | beforeLetter {c : Char} (hc : isLetter c = true) (a b : List Char) : Parted a (c :: b)

/-- A letter gets blanks around it. -/
theorem normalize_letter {c : Char} (h : isLetter c = true) : normalize [c] = [' ', c, ' '] := by
  have hcomma : c ≠ ',' := by
    rintro rfl
    revert h
    decide
  simp [normalize, spread, hcomma, h]

/-- Texts that are parted have their tokens one after the other. -/
theorem tokens_append_of_parted {a b : List Char} (h : Parted a b) :
    tokens (a ++ b) = tokens a ++ tokens b := by
  have hspace : Text.isBlank ' ' = true := by decide
  cases h with
  | atFront b => rfl
  | atBack a => simp
  | @behindLetter c hc a b =>
    -- the letter is normalized with a space behind it, at which the text is cut
    have hfront : normalize (a ++ [c]) = (normalize a ++ [' ', c]) ++ [' '] := by
      rw [normalize_append, normalize_letter hc, List.append_assoc]
      rfl
    have hwords : Text.words (normalize (a ++ [c])) = Text.words (normalize a ++ [' ', c]) := by
      rw [hfront]
      exact Text.words_append_of_forall_isBlank (by simpa using hspace) _
    rw [tokens_eq, tokens_eq, tokens_eq, normalize_append, hwords, hfront,
      List.append_assoc _ [' '], List.singleton_append, Text.words_append_of_isBlank hspace]
  | @beforeLetter c hc a b =>
    have hback : normalize (c :: b) = ' ' :: ([c, ' '] ++ normalize b) := by
      rw [← List.singleton_append, normalize_append, normalize_letter hc]
      rfl
    rw [tokens_eq, tokens_eq, tokens_eq, normalize_append, hback,
      Text.words_append_of_isBlank hspace, Text.words_cons_of_isBlank hspace]

/-- Around a gap stand the tokens of the texts before and behind it, unless it is empty where it
    must not be. -/
theorem tokens_append_gap {s : List Char} (hs : IsGap s) {a b : List Char}
    (h : s ≠ [] ∨ Parted a b) : tokens (a ++ s ++ b) = tokens a ++ tokens b := by
  by_cases hne : s = []
  · rw [hne, List.append_nil]
    exact tokens_append_of_parted (h.resolve_left (not_not_intro hne))
  · rw [tokens_eq, tokens_eq, tokens_eq, normalize_append, normalize_append]
    exact Text.words_append_of_blanks (normalize_ne_nil hne) hs.isBlank_of_mem_normalize _ _

/-- A gap in front adds no token. -/
theorem tokens_gap_append {s : List Char} (hs : IsGap s) (b : List Char) :
    tokens (s ++ b) = tokens b := by
  simpa using tokens_append_gap hs (.inr (.atFront b))

/-- The gap counts for the text behind it. -/
theorem tokens_append_gap_append {s : List Char} (hs : IsGap s) {a b : List Char}
    (h : s ≠ [] ∨ Parted a b) : tokens (a ++ (s ++ b)) = tokens a ++ tokens (s ++ b) := by
  rw [← List.append_assoc, tokens_append_gap hs h, tokens_gap_append hs]

/-- A letter in front is a token of its own. -/
theorem tokens_letter_cons {c : Char} (hc : isLetter c = true) (b : List Char) :
    tokens (c :: b) = [c] :: tokens b := by
  have hparted := tokens_append_of_parted (.behindLetter hc [] b)
  have hletter : tokens [c] = [[c]] := by
    simpa using eq_false_of_isLetter (f := fun c => tokens [c] != [[c]]) (by decide) hc
  rwa [List.nil_append, hletter] at hparted

/-! ### The characters of tokens -/

/-- What is normalized besides the characters themselves is blank. -/
theorem filter_spread (c : Char) :
    (spread c).filter (!Text.isBlank ·) = if isSeparator c then [] else [c] := by
  cases hc : isSeparator c with
  | true =>
    obtain ⟨b, hb, hspread⟩ := spread_of_isSeparator hc
    simp [hspread, hb]
  | false =>
    simp only [isSeparator, Bool.or_eq_false_iff] at hc
    have hspace : Text.isBlank ' ' = true := by decide
    unfold spread
    rw [hc.1]
    cases isLetter c <;> simp [hc.2, hspace]

/-- Together the tokens are the text without its separators. -/
theorem flatten_tokens (d : List Char) : (tokens d).flatten = d.filter (!isSeparator ·) := by
  rw [tokens_eq, Text.flatten_words]
  induction d with
  | nil => rfl
  | cons c d ih =>
    have hcons : normalize (c :: d) = spread c ++ normalize d := rfl
    rw [hcons, List.filter_append, filter_spread, ih, List.filter_cons]
    cases isSeparator c <;> rfl

/-- The characters of tokens are those of the text. -/
theorem mem_of_mem_tokens {token d : List Char} (htoken : token ∈ tokens d) {c : Char}
    (hc : c ∈ token) : c ∈ d := by
  have hmem := List.mem_flatten_of_mem htoken hc
  rw [flatten_tokens] at hmem
  exact (List.mem_filter.mp hmem).1

/-! ### Other separators -/

/-- A change of separators: one gap for another between two texts, of which neither may be empty
    unless the texts are parted anyway. -/
inductive Respaced : List Char → List Char → Prop where
  | change {s t : List Char} (hs : IsGap s) (ht : IsGap t) (a b : List Char)
      (h : (s ≠ [] ∧ t ≠ []) ∨ Parted a b) : Respaced (a ++ s ++ b) (a ++ t ++ b)

/-- Other gaps leave the tokens as they are. -/
theorem tokens_eq_of_respaced {d d' : List Char} (h : Respaced d d') : tokens d = tokens d' := by
  obtain ⟨hs, ht, a, b, h⟩ := h
  rw [tokens_append_gap hs (h.imp_left And.left), tokens_append_gap ht (h.imp_left And.right)]

/-- **Path data with other separators** is the same path or has the same fault: separators may be
    replaced by others, and put in or left out at the ends and next to letters, as often as one
    likes. -/
theorem path_eq_of_respaced {d d' : String} (h : Relation.ReflTransGen Respaced d.toList d'.toList)
    (hd : d.utf8ByteSize ≤ byteLimit) (hd' : d'.utf8ByteSize ≤ byteLimit) (t : Transform) :
    path d t = path d' t := by
  have htokens : tokens d.toList = tokens d'.toList := by
    generalize d'.toList = e at h
    induction h with
    | refl => rfl
    | tail _ hstep ih => exact ih.trans (tokens_eq_of_respaced hstep)
  rw [path, path, points, points, if_neg (Nat.not_lt.mpr hd), if_neg (Nat.not_lt.mpr hd'), htokens]

/-- A comma becomes a wide blank, others are put in at the end and left out before a letter. -/
theorem path_of_respaced_segment :
    Relation.ReflTransGen Respaced "M1,2 L3 4".toList "M1\u20032L3 4,,".toList ∧
      "M1,2 L3 4".utf8ByteSize ≤ byteLimit ∧ "M1\u20032L3 4,,".utf8ByteSize ≤ byteLimit ∧
      path "M1,2 L3 4" ⟨1.0⟩ = path "M1\u20032L3 4,," ⟨1.0⟩ := by
  have hcomma : Respaced "M1,2 L3 4".toList "M1\u20032 L3 4".toList :=
    .change (s := [',']) (t := ['\u2003']) (by decide) (by decide) "M1".toList "2 L3 4".toList
      (.inl (by decide))
  have hletter : Respaced "M1\u20032 L3 4".toList "M1\u20032L3 4".toList :=
    .change (s := [' ']) (t := []) (by decide) (by decide) "M1\u20032".toList "L3 4".toList
      (.inr (.beforeLetter (by decide) _ _))
  have hend : Respaced "M1\u20032L3 4".toList "M1\u20032L3 4,,".toList :=
    .change (s := []) (t := [',', ',']) (by decide) (by decide) "M1\u20032L3 4".toList []
      (.inr (.atBack _))
  have h := ((Relation.ReflTransGen.single hcomma).tail hletter).tail hend
  have hd : "M1,2 L3 4".utf8ByteSize ≤ byteLimit := by decide
  have hd' : "M1\u20032L3 4,,".utf8ByteSize ≤ byteLimit := by decide
  exact ⟨h, hd, hd', path_eq_of_respaced h hd hd' ⟨1.0⟩⟩

end NavScript.PathData
