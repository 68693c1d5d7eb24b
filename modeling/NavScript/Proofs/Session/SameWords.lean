import NavScript.Proofs.Session.Correspondence
import NavScript.Proofs.Text.LineEnds

namespace NavScript

open NavScript.Text (isBlank linesOf linesOf_append_lineFeed linesOf_of_notMem withoutReturn
  words_append_of_forall_isBlank wordsOf)

/-!
# Scripts that say the same

A line is a comment or not by its very first character, and if it is not it is understood by its
words.  Two scripts with as many lines, each of which says the same as its counterpart, therefore
cannot be told apart by a run; and blanks at the ends of lines, a carriage return being one, say
nothing.

* `SaysSame`, `said` — what a line says
* `scriptLines_encode` — the lines of a script given as a text
* `corresponds_of_saysSame` — lines that say the same
* `saysSame_linesOf` — blanks in front of line ends
* `Setting.run_of_same_words` — whole scripts
-/

/-! ### What a line says -/

/-- Two lines that say the same: both are comments, or neither is and they have the same words. -/
def SaysSame (a b : String) : Prop :=
  (a.toList.head? = some '#' ∧ b.toList.head? = some '#') ∨
  (a.toList.head? ≠ some '#' ∧ b.toList.head? ≠ some '#' ∧ wordsOf a = wordsOf b)

instance (a b : String) : Decidable (SaysSame a b) :=
  inferInstanceAs (Decidable (_ ∨ _))

/-- What a line of characters says: nothing if it is a comment, and its words if it is not. -/
def said (cs : List Char) : Option (List (List Char)) :=
  if cs.head? = some '#' then none else some (Text.words cs)

/-- Lines say the same if their characters do. -/
theorem saysSame_iff (a b : String) : SaysSame a b ↔ said a.toList = said b.toList := by
  have hwords : wordsOf a = wordsOf b ↔ Text.words a.toList = Text.words b.toList :=
    (List.map_injective_iff.mpr fun _ _ => String.ofList_injective).eq_iff
  rw [SaysSame, hwords, said, said]
  by_cases ha : a.toList.head? = some '#' <;> by_cases hb : b.toList.head? = some '#' <;>
    simp [ha, hb]

/-- Blanks behind a line say nothing. -/
theorem said_append {bs : List Char} (h : ∀ b ∈ bs, isBlank b = true) (cs : List Char) :
    said (cs ++ bs) = said cs := by
  have hhead : (cs ++ bs).head? = some '#' ↔ cs.head? = some '#' := by
    cases cs with
    | cons c cs => rfl
    | nil =>
      -- a blank cannot begin a comment
      cases bs with
      | nil => rfl
      | cons b bs =>
        have hb := (List.forall_mem_cons.mp h).1
        refine iff_of_false (fun heq => ?_) (by simp)
        obtain rfl : b = '#' := by simpa using heq
        exact absurd hb (by decide)
  rw [said, said, words_append_of_forall_isBlank h]
  simp only [hhead]

/-- Nor does the carriage return of a line end. -/
theorem said_withoutReturn (cs : List Char) : said (withoutReturn cs) = said cs := by
  rw [withoutReturn]
  split
  · rename_i hreturn
    obtain ⟨front, rfl⟩ := List.getLast?_eq_some_iff.mp hreturn
    rw [List.dropLast_concat]
    exact (said_append (by simp [isBlank]) front).symm
  · rfl

/-- Blanks at the end of a line say nothing. -/
theorem saysSame_append {line blanks : String} (h : ∀ c ∈ blanks.toList, isBlank c = true) :
    SaysSame (line ++ blanks) line := by
  rw [saysSame_iff, String.toList_append, said_append h]

/-- The first of some lines is the first line of their text. -/
theorem linesOf_outputText_cons {line : String} (h : '\n' ∉ line.toList) (lines : List String)
    (last : String) :
    linesOf (outputText (line :: lines) ++ last) =
      String.ofList (withoutReturn line.toList) :: linesOf (outputText lines ++ last) := by
  rw [← linesOf_append_lineFeed h, outputText_cons, String.append_assoc]

/-- Blanks in front of the line ends of a text leave each of its lines to say the same. -/
theorem saysSame_linesOf {lines : List (String × String)} {last blanks : String}
    (hlines : ∀ l ∈ lines, '\n' ∉ (l.1 ++ l.2).toList ∧ ∀ c ∈ l.2.toList, isBlank c = true)
    (hlast : '\n' ∉ (last ++ blanks).toList) (hblanks : ∀ c ∈ blanks.toList, isBlank c = true)
    (hnone : last = "" → blanks = "") :
    List.Forall₂ SaysSame
      (linesOf (outputText (lines.map fun l => l.1 ++ l.2) ++ (last ++ blanks)))
      (linesOf (outputText (lines.map Prod.fst) ++ last)) := by
  induction lines with
  | nil =>
    have hlast' : '\n' ∉ last.toList := fun h => hlast (by simp [h])
    rw [List.map_nil, List.map_nil, outputText_nil, String.empty_append, String.empty_append,
      linesOf_of_notMem hlast, linesOf_of_notMem hlast']
    by_cases hempty : last = ""
    · simp [hempty, hnone hempty]
    · have hne : last ++ blanks ≠ "" := by simp [hempty]
      rw [if_neg hempty, if_neg hne]
      exact .cons (saysSame_append hblanks) .nil
  | cons l lines ih =>
    obtain ⟨⟨hline, hl⟩, hrest⟩ := List.forall_mem_cons.mp hlines
    have hline' : '\n' ∉ l.1.toList := fun h => hline (by simp [h])
    rw [List.map_cons, List.map_cons, linesOf_outputText_cons hline, linesOf_outputText_cons hline']
    refine .cons ?_ (ih hrest)
    rw [saysSame_iff, String.toList_ofList, String.toList_ofList, said_withoutReturn,
      said_withoutReturn, String.toList_append, said_append hl]

/-! ### Lines of scripts -/

/-- The lines of a script given as a text. -/
theorem scriptLines_encode (text : String) :
    scriptLines (Text.Utf8.encode text) = (linesOf text).map .ok := by
  rw [scriptLines, Text.lines_encode, List.map_map]
  refine List.map_congr_left fun line _ => ?_
  rw [Function.comp_apply, Text.Utf8.decode_encode]
  rfl

namespace Setting

variable (s : Setting)

/-- A comment has nothing to say, whatever the session. -/
theorem outcome_of_comment {line : String} (h : line.toList.head? = some '#') (session : Session) :
    (s.step session line).outcome = .ok [] := by
  have hwords : wordsOfLine line = [] := by simp [wordsOfLine, h]
  rw [step, hwords]
  rfl

/-- Lines that say the same come to the same. -/
theorem corresponds_of_saysSame {a b : String} (h : SaysSame a b) :
    Corresponds s s id id (.ok a) (.ok b) := by
  rcases h with ⟨ha, hb⟩ | ⟨ha, hb, hwords⟩
  · have hsame : wordsOfLine b = wordsOfLine a := by simp [wordsOfLine, ha, hb]
    refine .readable (fun session => ?_) (.inr (s.outcome_of_comment ha))
    rw [Step.map_id, id, step, step, hsame]
  · have hsame : wordsOfLine b = wordsOfLine a := by simp [wordsOfLine, ha, hb, hwords]
    refine .readable (fun session => ?_) (.inl ?_)
    · rw [Step.map_id, id, step, step, hsame]
    · rw [commandName, commandName, hwords]

/-- Scripts whose lines say the same run alike. -/
theorem run_eq_of_saysSame {one other : String}
    (h : List.Forall₂ SaysSame (linesOf one) (linesOf other)) (session : Session) (sink : Sink) :
    s.run session sink (scriptLines (Text.Utf8.encode one)) =
      s.run session sink (scriptLines (Text.Utf8.encode other)) := by
  have hlines : List.Forall₂ (Corresponds s s id id) (scriptLines (Text.Utf8.encode one))
      (scriptLines (Text.Utf8.encode other)) := by
    rw [scriptLines_encode, scriptLines_encode, List.forall₂_map_left_iff,
      List.forall₂_map_right_iff]
    exact h.imp fun _ _ => s.corresponds_of_saysSame
  have hrun := run_of_corresponds rfl hlines session sink
  rw [ProgressInto.map_id] at hrun
  exact hrun.symm

/-- **Scripts that say the same run the same**: the same is written, the run ends in the same way,
    at the same line and with the same command named, and it leaves the same session, whatever it is
    started with.  In particular line ends may be given a carriage return, and each line may be
    given blanks behind it.  (Blanks behind the last line feed would be one more line.) -/
theorem run_of_same_words :
    (∀ one other : String, List.Forall₂ SaysSame (linesOf one) (linesOf other) →
      ∀ session sink, s.run session sink (scriptLines (Text.Utf8.encode one)) =
        s.run session sink (scriptLines (Text.Utf8.encode other))) ∧
    (∀ (lines : List String) (last : String),
      (∀ line ∈ lines, '\n' ∉ line.toList) → '\n' ∉ last.toList →
      ∀ session sink,
        s.run session sink
            (scriptLines (Text.Utf8.encode (String.join (lines.map (· ++ "\r\n")) ++ last))) =
          s.run session sink (scriptLines (Text.Utf8.encode (outputText lines ++ last)))) ∧
    ∀ (lines : List (String × String)) (last blanks : String),
      (∀ l ∈ lines, '\n' ∉ (l.1 ++ l.2).toList ∧ ∀ c ∈ l.2.toList, isBlank c = true) →
      '\n' ∉ (last ++ blanks).toList → (∀ c ∈ blanks.toList, isBlank c = true) →
      (last = "" → blanks = "") →
      ∀ session sink,
        s.run session sink (scriptLines
            (Text.Utf8.encode (outputText (lines.map fun l => l.1 ++ l.2) ++ (last ++ blanks)))) =
          s.run session sink
            (scriptLines (Text.Utf8.encode (outputText (lines.map Prod.fst) ++ last))) := by
  refine ⟨fun one other h => s.run_eq_of_saysSame h, fun lines last hlines hlast => ?_,
    fun lines last blanks hlines hlast hblanks hnone =>
      s.run_eq_of_saysSame (saysSame_linesOf hlines hlast hblanks hnone)⟩
  -- a carriage return is a blank behind the line
  have hreturn : ∀ c ∈ "\r".toList, isBlank c = true := by simp [isBlank]
  have hlines' : ∀ l ∈ lines.map fun line => (line, "\r"),
      '\n' ∉ (l.1 ++ l.2).toList ∧ ∀ c ∈ l.2.toList, isBlank c = true := by
    intro l hl
    obtain ⟨line, hline, rfl⟩ := List.mem_map.mp hl
    have hmem := hlines line hline
    exact ⟨by simpa using hmem, hreturn⟩
  have hlast' : '\n' ∉ (last ++ "").toList := by simpa using hlast
  have hsame := saysSame_linesOf hlines' hlast' (by simp) (fun _ => rfl)
  have hreturns : outputText ((lines.map fun line => (line, "\r")).map fun l => l.1 ++ l.2) =
      String.join (lines.map (· ++ "\r\n")) := by
    simp [outputText, Function.comp_def, String.append_assoc]
  have hplain : (lines.map fun line => (line, "\r")).map Prod.fst = lines := by
    simp [Function.comp_def]
  rw [hreturns, hplain, String.append_empty] at hsame
  exact s.run_eq_of_saysSame hsame

/-- A line handed on, a comment, and a line that is refused, once with spare blanks. -/
theorem run_of_spare_blanks :
    List.Forall₂ SaysSame (linesOf "goto 1\n#a\nbogus x\n")
      (linesOf "\tgoto   1\r\n# b \nbogus x  ") ∧
    plain.run emptyDrawing .unlimited
        (scriptLines (Text.Utf8.encode "goto 1\n#a\nbogus x\n")) =
      plain.run emptyDrawing .unlimited
        (scriptLines (Text.Utf8.encode "\tgoto   1\r\n# b \nbogus x  ")) ∧
    plain.run emptyDrawing .unlimited
        (scriptLines (Text.Utf8.encode
          (String.join (["goto 1", "#a"].map (· ++ "\r\n")) ++ "bogus x"))) =
      plain.run emptyDrawing .unlimited
        (scriptLines (Text.Utf8.encode (outputText ["goto 1", "#a"] ++ "bogus x"))) ∧
    plain.run emptyDrawing .unlimited
        (scriptLines (Text.Utf8.encode
          (outputText ([("goto 1", " "), ("#a", "\t ")].map fun l => l.1 ++ l.2) ++
            ("bogus x" ++ " ")))) =
      plain.run emptyDrawing .unlimited
        (scriptLines (Text.Utf8.encode
          (outputText ([("goto 1", " "), ("#a", "\t ")].map Prod.fst) ++ "bogus x"))) := by
  have hsame : List.Forall₂ SaysSame (linesOf "goto 1\n#a\nbogus x\n")
      (linesOf "\tgoto   1\r\n# b \nbogus x  ") := by decide
  obtain ⟨hwords, hreturns, hblanks⟩ := plain.run_of_same_words
  exact ⟨hsame, hwords _ _ hsame emptyDrawing .unlimited,
    hreturns _ _ (by decide) (by decide) emptyDrawing .unlimited,
    hblanks _ _ _ (by simp [isBlank]) (by decide) (by simp [isBlank]) (by decide) emptyDrawing
      .unlimited⟩

end Setting

end NavScript
