import NavScript.Proofs.PathData.Grammar
import NavScript.Proofs.PathData.Separators

namespace NavScript.PathData

/-!
# Layout of path data

Path data is a sequence of tokens with gaps around them.  A token is a letter, or a run of
characters that are neither letters nor separators; a gap may be empty everywhere but between two
runs, which would be one run without it.  Every text is laid out like this, and in one way only: its
tokens are as long as they can be.

* `LaidOut` — the texts of a token sequence
* `exists_laidOut`, `LaidOut.tokens_eq` — every text is one of some sequence, which is its tokens
* `tokens_eq_iff_laidOut` — both at once
* `LaidOut.exists_gap` — the gap between two runs
* `tokens_of_text` — what the tokens of a text are, and where they stand in it
-/

/-! ### Texts of tokens -/

/-- The texts of a token sequence: a gap in front of each token and one behind the last.  A run must
    have a separator in front of it unless it is `free`, as it is at the front of a text and behind
    a letter. -/
inductive LaidOut : (free : Bool) → List (List Char) → List Char → Prop where
  | stop {free : Bool} {s : List Char} (hs : IsGap s) : LaidOut free [] s
  | letter {free : Bool} {c : Char} {s d : List Char} {ws : List (List Char)} (hs : IsGap s)
      (hc : isLetter c = true) (h : LaidOut true ws d) : LaidOut free ([c] :: ws) (s ++ c :: d)
  | run {free : Bool} {s w d : List Char} {ws : List (List Char)} (hs : IsGap s)
      (hfree : free = true ∨ s ≠ []) (hw : IsRun w) (h : LaidOut false ws d) :
      LaidOut free (w :: ws) (s ++ (w ++ d))

namespace LaidOut

variable {free : Bool} {ws : List (List Char)} {d : List Char}

/-! ### Every text is laid out -/

/-- A separator in front of a text makes its first gap longer. -/
theorem cons_separator {c : Char} (hc : isSeparator c = true) (h : LaidOut free ws d) :
    LaidOut true ws (c :: d) := by
  have hgap : ∀ {s : List Char}, IsGap s → IsGap (c :: s) := fun hs =>
    List.forall_mem_cons.mpr ⟨hc, hs⟩
  cases h with
  | stop hs => exact .stop (hgap hs)
  | letter hs hl h => exact .letter (hgap hs) hl h
  | run hs _ hw h => exact .run (hgap hs) (.inl rfl) hw h

/-- Any other character that is no letter joins the run behind it, if the text begins with one. -/
theorem exists_cons_plain {c : Char} (hc : isPlain c = true) (h : LaidOut true ws d) :
    ∃ ws, LaidOut true ws (c :: d) := by
  have hrun : IsRun [c] := ⟨by simp, by simpa using hc⟩
  cases h with
  | stop hs => exact ⟨_, .run isGap_nil (.inl rfl) hrun (.stop hs)⟩
  | letter hs hl h => exact ⟨_, .run isGap_nil (.inl rfl) hrun (.letter hs hl h)⟩
  | @run _ s w d ws hs _ hw h =>
    by_cases hne : s = []
    · subst hne
      have hlonger : IsRun (c :: w) := ⟨by simp, List.forall_mem_cons.mpr ⟨hc, hw.2⟩⟩
      exact ⟨_, .run isGap_nil (.inl rfl) hlonger h⟩
    · exact ⟨_, .run isGap_nil (.inl rfl) hrun (.run hs (.inr hne) hw h)⟩

/-! ### The tokens of a text -/

/-- What needs a separator in front of it, and has one, is set apart from any text. -/
theorem tokens_append (h : LaidOut false ws d) (a : List Char) :
    tokens (a ++ d) = tokens a ++ tokens d := by
  cases h with
  | stop hs => simpa using tokens_append_gap_append hs (.inr (.atBack a))
  | letter hs hc h => exact tokens_append_gap_append hs (.inr (.beforeLetter hc a _))
  | run hs hfree hw h => exact tokens_append_gap_append hs (.inl (by simpa using hfree))

/-- The tokens that a text is laid out of are found again. -/
theorem tokens_eq (h : LaidOut free ws d) : tokens d = ws := by
  induction h with
  | @stop _ s hs => simpa using tokens_gap_append hs []
  | letter hs hc h ih => rw [tokens_gap_append hs, tokens_letter_cons hc, ih]
  | run hs hfree hw h ih =>
    rw [tokens_gap_append hs, h.tokens_append, tokens_of_isRun hw, ih, List.singleton_append]

/-- Each token is a letter or a run. -/
theorem letter_or_isRun (h : LaidOut free ws d) :
    ∀ w ∈ ws, (∃ c, isLetter c = true ∧ w = [c]) ∨ IsRun w := by
  induction h with
  | stop hs => simp
  | letter hs hc h ih => exact List.forall_mem_cons.mpr ⟨.inl ⟨_, hc, rfl⟩, ih⟩
  | run hs hfree hw h ih => exact List.forall_mem_cons.mpr ⟨.inr hw, ih⟩

/-- Between two neighbouring runs there is a separator.  The text in front of them and the one
    behind them are laid out of the other tokens. -/
theorem exists_gap {before after : List (List Char)} {u v : List Char}
    (h : LaidOut free (before ++ u :: v :: after) d) (hu : isLetterToken u = false)
    (hv : isLetterToken v = false) :
    ∃ a s b, d = a ++ u ++ s ++ v ++ b ∧ IsGap s ∧ s ≠ [] ∧ LaidOut free before a ∧
      LaidOut false after b := by
  -- on the tokens in front: each is put back in front of the text that they have been found in
  induction before generalizing free d with
  | nil =>
    cases h with
    | letter hs hc h => rw [isLetterToken, hc] at hu; cases hu
    | @run _ s _ _ _ hs _ _ h =>
      cases h with
      | letter ht hc h => rw [isLetterToken, hc] at hv; cases hv
      | @run _ t _ b _ ht hfree _ h =>
        exact ⟨s, t, b, by simp, ht, by simpa using hfree, .stop hs, h⟩
  | cons w before ih =>
    cases h with
    | @letter _ c s _ _ hs hc h =>
      obtain ⟨a, t, b, rfl, ht, hne, ha, hb⟩ := ih h
      exact ⟨s ++ c :: a, t, b, by simp, ht, hne, .letter hs hc ha, hb⟩
    | @run _ s _ _ _ hs hfree hw h =>
      obtain ⟨a, t, b, rfl, ht, hne, ha, hb⟩ := ih h
      exact ⟨s ++ (w ++ a), t, b, by simp, ht, hne, .run hs hfree hw ha, hb⟩

end LaidOut

/-- Every text is laid out of some tokens. -/
theorem exists_laidOut (d : List Char) : ∃ ws, LaidOut true ws d := by
  induction d with
  | nil => exact ⟨[], .stop isGap_nil⟩
  | cons c d ih =>
    obtain ⟨ws, h⟩ := ih
    by_cases hsep : isSeparator c = true
    · exact ⟨ws, h.cons_separator hsep⟩
    · by_cases hletter : isLetter c = true
      · exact ⟨[c] :: ws, .letter isGap_nil hletter h⟩
      · exact h.exists_cons_plain (by simp [isPlain, hsep, hletter])

/-- The tokens of a text are those that it is laid out of. -/
theorem tokens_eq_iff_laidOut {d : List Char} {ws : List (List Char)} :
    tokens d = ws ↔ LaidOut true ws d := by
  constructor
  · rintro rfl
    obtain ⟨ws, h⟩ := exists_laidOut d
    rwa [h.tokens_eq]
  · exact LaidOut.tokens_eq

/-- **The tokens of a text**, which are the words of the normalized text.  Each is a run of
    characters without separators, and either a letter by itself or without letters.  Together they
    are the text without its separators.  Where two of them that are no letters follow each other,
    they stand in the text with a separator between them, and the other tokens are those of the text
    in front of them and of the text behind them.  The tokens are the only ones that the text is
    laid out of. -/
theorem tokens_of_text (d : String) :
    (∀ w ∈ Text.words (normalize d.toList),
      w ≠ [] ∧ (∀ c ∈ w, c ≠ ',' ∧ Text.isBlank c = false) ∧
        ((∃ c, isLetter c = true ∧ w = [c]) ∨ ∀ c ∈ w, isLetter c = false)) ∧
    (Text.words (normalize d.toList)).flatten =
      d.toList.filter (fun c => c != ',' && !Text.isBlank c) ∧
    (∀ before u v after, Text.words (normalize d.toList) = before ++ u :: v :: after →
      isLetterToken u = false → isLetterToken v = false →
      ∃ a s b, d.toList = a ++ u ++ s ++ v ++ b ∧ s ≠ [] ∧
        (∀ c ∈ s, c = ',' ∨ Text.isBlank c = true) ∧
        Text.words (normalize a) = before ∧ Text.words (normalize b) = after) ∧
    ∀ ws, Text.words (normalize d.toList) = ws ↔ LaidOut true ws d.toList := by
  simp only [← tokens_eq]
  have hlaid : LaidOut true (tokens d.toList) d.toList := tokens_eq_iff_laidOut.mp rfl
  refine ⟨fun w hw => ?_, ?_, fun before u v after htokens hu hv => ?_, fun ws => ?_⟩
  · rcases hlaid.letter_or_isRun w hw with ⟨c, hc, rfl⟩ | ⟨hne, hplain⟩
    · have hcomma : c ≠ ',' := by
        simpa using eq_false_of_isLetter (f := (· == ',')) (by decide) hc
      exact ⟨by simp, by simpa using ⟨hcomma, isBlank_of_isLetter hc⟩, .inl ⟨c, hc, rfl⟩⟩
    · have hparts := fun c hc => isPlain_iff.mp (hplain c hc)
      exact ⟨hne, fun c hc => ⟨(hparts c hc).1, (hparts c hc).2.1⟩,
        .inr fun c hc => (hparts c hc).2.2⟩
  · rw [flatten_tokens]
    exact List.filter_congr fun c _ => by rw [isSeparator, Bool.not_or]; rfl
  · rw [htokens] at hlaid
    obtain ⟨a, s, b, hd, hs, hne, ha, hb⟩ := hlaid.exists_gap hu hv
    have hseparators : ∀ c ∈ s, c = ',' ∨ Text.isBlank c = true := fun c hc => by
      simpa [isSeparator] using hs c hc
    exact ⟨a, s, b, hd, hne, hseparators, ha.tokens_eq, hb.tokens_eq⟩
  · exact tokens_eq_iff_laidOut

/-- A sign does not set numbers apart, while a letter does without a separator, and a comma with a
    wide blank is one gap. -/
theorem tokens_of_glued_numbers :
    Text.words (normalize "M1,\u20032 3-4L5".toList) =
      [['M'], ['1'], ['2'], ['3', '-', '4'], ['L'], ['5']] ∧
    ∃ a s b, "M1,\u20032 3-4L5".toList = a ++ ['1'] ++ s ++ ['2'] ++ b ∧ s ≠ [] ∧
      (∀ c ∈ s, c = ',' ∨ Text.isBlank c = true) ∧ Text.words (normalize a) = [['M']] ∧
      Text.words (normalize b) = [['3', '-', '4'], ['L'], ['5']] := by
  have htokens : Text.words (normalize "M1,\u20032 3-4L5".toList) =
      [['M'], ['1'], ['2'], ['3', '-', '4'], ['L'], ['5']] := by decide
  exact ⟨htokens, (tokens_of_text "M1,\u20032 3-4L5").2.2.1 [['M']] ['1'] ['2'] _ htokens
    (by decide) (by decide)⟩

end NavScript.PathData
