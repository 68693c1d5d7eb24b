import NavScript.Proofs.Session.Breakdown
import NavScript.Proofs.Session.Refusal

namespace NavScript

/-!
# How a run ends

A run into a sink that takes everything goes one of four ways.  It comes to the end of the script,
it is stopped at a line that cannot be read, it is stopped at a line that is refused with an error
to report, or it breaks down at a line that reads a drawing with an end tag outside of all elements.

* `Setting.run_eq_session` — the four ways
* `Setting.run_of_stray_end_tag` — a script that goes the last of them
-/

namespace Setting

variable (s : Setting)

/-- **A run is a session that ends early.**  The lines of a script that are compiled are those
    before the first one that cannot be read or that is refused in the session left by them.  Their
    output is what is written, each line with its line feed, and nothing else is.  The error gives
    the number of the line that ended the run, counted from one, its first word if it can be read,
    and why it was refused; but if that line has read a drawing with an end tag outside of all
    elements, the run breaks down instead, with the same output and no error to report.  The session
    afterwards, and what the flattener has been asked, are those of the lines up to that one.  There
    is no fifth way for a script to go. -/
theorem run_eq_session (hp : s.options.precision ≤ Decimal.placesLimit) (session : Session)
    (written : ByteArray) (bytes : List UInt8) :
    (∀ (before : List String) (outs : List (List String)),
      s.replies session before = outs.map .lines →
      let sink : Sink := ⟨none, false, written ++ (outputText outs.flatten).toUTF8⟩
      let run := s.run session ⟨none, false, written⟩ (scriptLines bytes)
      (scriptLines bytes = before.map .ok →
        run = (⟨s.leave session before, sink, (s.requests session before).reverse, before.length⟩,
          .done)) ∧
      (∀ behind, scriptLines bytes = before.map .ok ++ .error .notText :: behind →
        run = (⟨s.leave session before, sink, (s.requests session before).reverse,
            before.length + 1⟩,
          .stopped ⟨before.length + 1, none, .io .readingScript .notText⟩)) ∧
      (∀ line behind e, scriptLines bytes = before.map .ok ++ .ok line :: behind →
        (s.compile (s.leave session before) line).1 = .refused e → e.isBreakdown = false →
        run = (⟨s.leave session (before ++ [line]), sink,
            (s.requests session (before ++ [line])).reverse, before.length + 1⟩,
          .stopped ⟨before.length + 1, (Text.wordsOf line).head?, e⟩)) ∧
      ∀ line behind, scriptLines bytes = before.map .ok ++ .ok line :: behind →
        (s.compile (s.leave session before) line).1 = .refused .strayEndTag →
        run.1 = ⟨s.leave session (before ++ [line]), sink,
          (s.requests session (before ++ [line])).reverse, before.length + 1⟩ ∧
        run.2.breaksDown = true) ∧
    ∃ (before : List String) (outs : List (List String)),
      s.replies session before = outs.map .lines ∧
      (scriptLines bytes = before.map .ok ∨
        (∃ behind, scriptLines bytes = before.map .ok ++ .error .notText :: behind) ∨
        (∃ line behind e, scriptLines bytes = before.map .ok ++ .ok line :: behind ∧
          (s.compile (s.leave session before) line).1 = .refused e ∧ e.isBreakdown = false) ∨
        ∃ line behind, scriptLines bytes = before.map .ok ++ .ok line :: behind ∧
          (s.compile (s.leave session before) line).1 = .refused .strayEndTag) := by
  refine ⟨?_, ?_⟩
  · intro before outs hreplies sink run
    have hrefused : ∀ line behind e, scriptLines bytes = before.map .ok ++ .ok line :: behind →
        (s.compile (s.leave session before) line).1 = .refused e →
        run = (⟨s.leave session (before ++ [line]), sink,
            (s.requests session (before ++ [line])).reverse, before.length + 1⟩,
          .stopped ⟨before.length + 1, (Text.wordsOf line).head?, e⟩) := by
      intro line behind e hscript he
      refine (run_of_room_eq_none hscript hreplies written).trans ?_
      rw [s.runFrom_cons_of_refused (W := Sink) he, progress_append]
      simp [progress, commandName, sink]
    refine ⟨?_, ?_, fun line behind e hscript he _ => hrefused line behind e hscript he, ?_⟩
    · intro hscript
      refine Eq.trans
        (run_of_room_eq_none (hscript.trans (List.append_nil _).symm) hreplies written) ?_
      simp [runFrom, Progress.finish_eq, progress, sink]
    · intro behind hscript
      refine (run_of_room_eq_none hscript hreplies written).trans ?_
      rw [runFrom_cons_of_error]
      simp [progress, sink]
    · intro line behind hscript he
      rw [hrefused line behind .strayEndTag hscript he]
      exact ⟨rfl, rfl⟩
  · obtain ⟨before, outs, rest, hscript, hreplies, hrest⟩ :=
      s.exists_compiled_prefix session (scriptLines bytes)
    refine ⟨before, outs, hreplies, ?_⟩
    rcases hrest with rfl | ⟨obstacle, behind, rfl⟩ | ⟨line, behind, rfl, hne⟩
    · exact .inl (by rw [hscript, List.append_nil])
    · have hmem : .error obstacle ∈ scriptLines bytes := by simp [hscript]
      obtain rfl := eq_notText_of_mem_scriptLines bytes hmem
      exact .inr (.inl ⟨behind, hscript⟩)
    · cases he : (s.compile (s.leave session before) line).1 with
      | lines out => exact absurd he (hne out)
      | unwritable => exact absurd he (Step.compiled_ne_unwritable hp _)
      | refused e =>
        cases hbreak : e.isBreakdown with
        | false => exact .inr (.inr (.inl ⟨line, behind, e, hscript, he, hbreak⟩))
        | true =>
          obtain rfl := e.isBreakdown_iff.mp hbreak
          exact .inr (.inr (.inr ⟨line, behind, hscript, he⟩))

/-- A line that is handed on, a comment, and a line that no command begins. -/
theorem run_of_unknown_command :
    -- the text is "goto  1", "#" and "bogus x"
    let bytes : List UInt8 :=
      [103, 111, 116, 111, 32, 32, 49, 10, 35, 10, 98, 111, 103, 117, 115, 32, 120]
    plain.options.precision ≤ Decimal.placesLimit ∧
      plain.run emptyDrawing ⟨none, false, .empty⟩ (scriptLines bytes) =
        (⟨emptyDrawing, ⟨none, false, .empty ++ (outputText ["goto 1"]).toUTF8⟩, [], 3⟩,
          .stopped ⟨3, some "bogus", .unknownCommand "bogus"⟩) := by
  intro bytes
  have hp : plain.options.precision ≤ Decimal.placesLimit := by decide
  refine ⟨hp, ?_⟩
  exact ((plain.run_eq_session hp emptyDrawing .empty bytes).1 ["goto  1", "#"] [["goto 1"], []]
    rfl).2.2.1 "bogus x" [] (.unknownCommand "bogus") rfl rfl rfl

/-- A script that loads the drawing whose root is closed by an entity is refused at its only line,
    with as few places as there are by default, and nothing is reported of it. -/
theorem run_of_stray_end_tag :
    -- the text is "load-svg a.svg 1"
    let bytes : List UInt8 :=
      [108, 111, 97, 100, 45, 115, 118, 103, 32, 97, 46, 115, 118, 103, 32, 49, 10]
    plain.options.precision ≤ Decimal.placesLimit ∧
      scriptLines bytes = [.ok "load-svg a.svg 1"] ∧
      (plain.compile (.start strayFiles) "load-svg a.svg 1").1 = .refused .strayEndTag ∧
      (plain.run (.start strayFiles) ⟨none, false, .empty⟩ (scriptLines bytes)).2.breaksDown =
        true := by
  intro bytes
  have hscript : scriptLines bytes = [.ok "load-svg a.svg 1"] := rfl
  refine ⟨by decide, hscript, compile_strayFiles, ?_⟩
  rw [hscript, run, runInto, plain.runFrom_cons_of_refused (W := Sink) compile_strayFiles]
  rfl

end Setting

end NavScript
