import NavScript.Run
import NavScript.Proofs.Session.Transcript

namespace NavScript

/-!
# Runs as sessions

A run compiles the lines of a script as a session does, and it ends at the first line that cannot be
read or does not compile.  Of that line nothing has been written, and the lines behind it have not
been looked at.

* `Writer.writeLines_append_eq_true_iff` — lines written one batch after the other
* `Setting.requests` — what lines ask of the flattener
* `Setting.runFrom_append` — a run over lines that compile
* `Setting.Stops`, `Setting.exists_compiled_prefix` — the lines of a script up to the one that ends
  the run
* `Setting.run_eq_runFrom` — a whole run
-/

/-- A line of a script can be read unless its bytes are no text. -/
theorem eq_notText_of_mem_scriptLines (bytes : List UInt8) {obstacle : Obstacle}
    (h : .error obstacle ∈ scriptLines bytes) : obstacle = .notText := by
  obtain ⟨line, -, hline⟩ := List.mem_map.mp h
  cases hd : Text.Utf8.decode line with
  | error fault =>
    rw [hd] at hline
    exact (Except.error.inj hline).symm
  | ok text =>
    rw [hd] at hline
    cases hline

/-! ### Output -/

/-- Lines as one text, each ended by a line feed. -/
def outputText (lines : List String) : String :=
  String.join (lines.map (· ++ "\n"))

@[simp] theorem outputText_nil : outputText [] = "" := rfl

@[simp] theorem outputText_cons (line : String) (rest : List String) :
    outputText (line :: rest) = line ++ "\n" ++ outputText rest := by
  simp [outputText, String.join_cons]

/-- Two batches fit if the first does, and the second fits into what that leaves of the writer. -/
theorem Writer.writeLines_append_eq_true_iff {W : Type} [Writer W] {w last : W}
    {a b : List String} :
    Writer.writeLines w (a ++ b) = (last, true) ↔
      ∃ mid, Writer.writeLines w a = (mid, true) ∧ Writer.writeLines mid b = (last, true) := by
  induction a generalizing w with
  | nil => simp [writeLines]
  | cons line rest ih =>
    rw [List.cons_append, writeLines, writeLines]
    split
    · exact ih
    · simp

namespace Sink

@[simp] theorem writeLines_nil (sink : Sink) : sink.writeLines [] = (sink, true) := rfl

/-- A line is written with its line feed, and the others behind it if it fits. -/
theorem writeLines_cons (sink : Sink) (line : String) (rest : List String) :
    sink.writeLines (line :: rest) =
      match sink.write (line ++ "\n").toUTF8 with
      | (sink, true) => sink.writeLines rest
      | (sink, false) => (sink, false) := by
  obtain ⟨⟨last, fits⟩, h⟩ : ∃ written, sink.write (line ++ "\n").toUTF8 = written := ⟨_, rfl⟩
  have hw : Writer.write sink (line ++ "\n") = (last, fits) := h
  rw [Sink.writeLines, Writer.writeLines, hw, h]
  cases fits <;> rfl

/-- A sink without a limit takes all lines. -/
theorem writeLines_of_room_eq_none (sink : Sink) (h : sink.room = none) (lines : List String) :
    sink.writeLines lines =
      ({ sink with written := sink.written ++ (outputText lines).toUTF8 }, true) := by
  induction lines generalizing sink with
  | nil => simp
  | cons line rest ih =>
    have hline : sink.write (line ++ "\n").toUTF8 =
        ({ sink with written := sink.written ++ (line ++ "\n").toUTF8 }, true) := by
      simp [write, h]
    have hrest := ih { sink with written := sink.written ++ (line ++ "\n").toUTF8 } h
    rw [writeLines_cons, hline]
    refine hrest.trans ?_
    simp [ByteArray.append_assoc]

end Sink

/-- A sink that can be flushed is as it was, and one that cannot stops the run. -/
theorem Progress.finish_eq (p : Progress) :
    p.finish =
      if p.sink.broken then (p, .stopped ⟨p.line, none, .io .flushingOutput .sinkBroken⟩)
      else (p, .done) := by
  have hflush : Writer.flush p.sink = (p.sink, !p.sink.broken) := rfl
  rw [ProgressInto.finish, hflush]
  cases p.sink.broken <;> rfl

/-! ### Sessions behind runs -/

namespace Setting

variable (s : Setting)

/-- What lines ask of the flattener, each in the session that those before it leave. -/
def requests (session : Session) : List String → List Request
  | [] => []
  | line :: rest =>
    (s.step session line).request.toList ++ requests (s.step session line).after rest

/-- Two parts ask one after the other, the second in the session that the first leaves. -/
@[simp] theorem requests_append (session : Session) (a b : List String) :
    s.requests session (a ++ b) = s.requests session a ++ s.requests (s.leave session a) b := by
  induction a generalizing session with
  | nil => rfl
  | cons line rest ih => simp [requests, ih]

section Writers

variable {W : Type}

/-- How far a run has come when it has been over lines, and the sink is as given. -/
def progress (p : ProgressInto W) (lines : List String) (sink : W) : ProgressInto W :=
  ⟨s.leave p.session lines, sink, (s.requests p.session lines).reverse ++ p.requests,
    p.line + lines.length⟩

@[simp] theorem progress_nil (p : ProgressInto W) : s.progress p [] p.sink = p := by
  simp [progress, requests]

/-- Over two parts, one after the other. -/
theorem progress_append (p : ProgressInto W) (a b : List String) (mid last : W) :
    s.progress (s.progress p a mid) b last = s.progress p (a ++ b) last := by
  simp [progress, Nat.add_assoc]

/-- One line is one step. -/
theorem progress_singleton (p : ProgressInto W) (line : String) (sink : W) :
    s.progress p [line] sink =
      { { p with line := p.line + 1 }.after (s.step p.session line) with sink } := by
  -- a line makes one request at most, so turning its requests round changes nothing
  cases h : (s.step p.session line).request with
  | none => simp [progress, requests, ProgressInto.after, h]
  | some r => simp [progress, requests, ProgressInto.after, h]

/-! ### What a line can do to a run -/

variable [Writer W]

/-- A line that compiles, to what fits into the sink, hands the run on. -/
theorem runFrom_cons_of_lines {p : ProgressInto W} {line : String} {out : List String} {sink : W}
    (h : (s.compile p.session line).1 = .lines out)
    (hw : Writer.writeLines p.sink out = (sink, true)) (rest : List ScriptLine) :
    s.runFrom p (.ok line :: rest) = s.runFrom (s.progress p [line] sink) rest := by
  have hcompile : s.compile p.session line = (.lines out, s.step p.session line) := Prod.ext h rfl
  rw [runFrom, hcompile, progress_singleton]
  dsimp only [ProgressInto.after]
  rw [hw]

/-- A line that is refused ends the run, and has written nothing. -/
theorem runFrom_cons_of_refused {p : ProgressInto W} {line : String} {e : Error}
    (h : (s.compile p.session line).1 = .refused e) (rest : List ScriptLine) :
    s.runFrom p (.ok line :: rest) =
      (s.progress p [line] p.sink, .stopped ⟨p.line + 1, commandName line, e⟩) := by
  have hcompile : s.compile p.session line = (.refused e, s.step p.session line) := Prod.ext h rfl
  rw [runFrom, hcompile, progress_singleton]
  rfl

/-- So does a line whose numbers cannot be written. -/
theorem runFrom_cons_of_unwritable {p : ProgressInto W} {line : String}
    (h : (s.compile p.session line).1 = .unwritable) (rest : List ScriptLine) :
    s.runFrom p (.ok line :: rest) = (s.progress p [line] p.sink, .unwritable) := by
  have hcompile : s.compile p.session line = (.unwritable, s.step p.session line) := Prod.ext h rfl
  rw [runFrom, hcompile, progress_singleton]
  rfl

/-- A line that compiles, to what does not fit into the sink, ends the run. -/
theorem runFrom_cons_of_full {p : ProgressInto W} {line : String} {out : List String} {sink : W}
    (h : (s.compile p.session line).1 = .lines out)
    (hw : Writer.writeLines p.sink out = (sink, false)) (rest : List ScriptLine) :
    s.runFrom p (.ok line :: rest) =
      (s.progress p [line] sink,
        .stopped ⟨p.line + 1, commandName line, .io .writingOutput .sinkFull⟩) := by
  have hcompile : s.compile p.session line = (.lines out, s.step p.session line) := Prod.ext h rfl
  rw [runFrom, hcompile, progress_singleton]
  dsimp only [ProgressInto.after]
  rw [hw]

/-- A line that does not compile leaves the sink as it is. -/
theorem sink_runFrom_of_ne_lines {p : ProgressInto W} {line : String}
    (h : ∀ out, (s.compile p.session line).1 ≠ .lines out) (rest : List ScriptLine) :
    (s.runFrom p (.ok line :: rest)).1.sink = p.sink := by
  rw [runFrom]
  cases hline : (s.compile p.session line).1 with
  | lines out => exact absurd hline (h out)
  | refused e => simp only [hline, ProgressInto.after]
  | unwritable => simp only [hline, ProgressInto.after]

/-- A line that cannot be read ends the run; only its number counts. -/
theorem runFrom_cons_of_error (p : ProgressInto W) (obstacle : Obstacle) (rest : List ScriptLine) :
    s.runFrom p (.error obstacle :: rest) =
      ({ p with line := p.line + 1 },
        .stopped ⟨p.line + 1, none, .io .readingScript obstacle⟩) := rfl

/-- A run over lines that compile, to what fits into the sink, comes to the lines behind them. -/
theorem runFrom_append {p : ProgressInto W} {last : W} {before : List String}
    {outs : List (List String)} (h : s.replies p.session before = outs.map .lines)
    (hw : Writer.writeLines p.sink outs.flatten = (last, true)) (rest : List ScriptLine) :
    s.runFrom p (before.map .ok ++ rest) = s.runFrom (s.progress p before last) rest := by
  induction before generalizing p outs with
  | nil =>
    obtain rfl : outs = [] := by simpa [replies] using h
    obtain rfl : p.sink = last := congrArg Prod.fst hw
    rw [progress_nil, List.map_nil, List.nil_append]
  | cons line before ih =>
    cases outs with
    | nil => simp [replies] at h
    | cons out outs =>
      obtain ⟨hline, hbefore⟩ := List.cons.inj h
      -- what the first line leaves of the sink is what the others are written to
      obtain ⟨mid, hmid, hlast⟩ := Writer.writeLines_append_eq_true_iff.mp hw
      rw [List.map_cons, List.cons_append, s.runFrom_cons_of_lines hline hmid,
        ih (p := s.progress p [line] mid) hbefore hlast, progress_append,
        List.singleton_append]

end Writers

/-! ### Whole runs -/

/-- A run stops in front of the rest of the script: nothing is left, or the next line cannot be read
    or does not compile. -/
def Stops (session : Session) (rest : List ScriptLine) : Prop :=
  rest = [] ∨ (∃ obstacle behind, rest = .error obstacle :: behind) ∨
    ∃ line behind, rest = .ok line :: behind ∧ ∀ out, (s.compile session line).1 ≠ .lines out

/-- The lines of a script up to the one that ends the run: it cannot be read, or it does not compile
    in the session that the lines before it leave.  All of those do. -/
theorem exists_compiled_prefix (session : Session) (script : List ScriptLine) :
    ∃ (before : List String) (outs : List (List String)) (rest : List ScriptLine),
      script = before.map .ok ++ rest ∧
      s.replies session before = outs.map .lines ∧ s.Stops (s.leave session before) rest := by
  induction script generalizing session with
  | nil => exact ⟨[], [], [], rfl, rfl, .inl rfl⟩
  | cons first script ih =>
    cases first with
    | error obstacle => exact ⟨[], [], _, rfl, rfl, .inr (.inl ⟨obstacle, script, rfl⟩)⟩
    | ok line =>
      by_cases hline : ∃ out, (s.compile session line).1 = .lines out
      · obtain ⟨out, hout⟩ := hline
        obtain ⟨before, outs, rest, rfl, hreplies, hrest⟩ := ih (s.step session line).after
        refine ⟨line :: before, out :: outs, rest, rfl, ?_, hrest⟩
        rw [replies, hout, hreplies, List.map_cons]
      · exact ⟨[], [], _, rfl, rfl,
          .inr (.inr ⟨line, script, rfl, fun out hout => hline ⟨out, hout⟩⟩)⟩

/-- Where a run stops, nothing is written any more. -/
theorem sink_runFrom_of_stops {p : Progress} {rest : List ScriptLine} (h : s.Stops p.session rest) :
    (s.runFrom p rest).1.sink = p.sink := by
  rcases h with rfl | ⟨obstacle, behind, rfl⟩ | ⟨line, behind, rfl, hne⟩
  · rw [runFrom, Progress.finish_eq]
    split <;> rfl
  · rfl
  · exact s.sink_runFrom_of_ne_lines hne behind

section Prefix

variable {s} {session : Session} {script rest : List ScriptLine} {before : List String}
  {outs : List (List String)} (hscript : script = before.map .ok ++ rest)
  (hreplies : s.replies session before = outs.map .lines)

include hscript hreplies

/-- A run comes to where it stops. -/
theorem run_eq_runFrom {sink last : Sink} (hw : sink.writeLines outs.flatten = (last, true)) :
    s.run session sink script = s.runFrom (s.progress ⟨session, sink, [], 0⟩ before last) rest := by
  rw [run, runInto, hscript]
  exact s.runFrom_append hreplies hw rest

/-- In a sink without a limit it has written all that the lines compile to. -/
theorem run_of_room_eq_none (written : ByteArray) :
    s.run session ⟨none, false, written⟩ script =
      s.runFrom (s.progress ⟨session, ⟨none, false, written⟩, [], 0⟩ before
        ⟨none, false, written ++ (outputText outs.flatten).toUTF8⟩) rest :=
  run_eq_runFrom hscript hreplies (Sink.writeLines_of_room_eq_none _ rfl outs.flatten)

/-- So it has in one that was empty. -/
theorem run_unlimited_eq :
    s.run session .unlimited script =
      s.runFrom (s.progress ⟨session, .unlimited, [], 0⟩ before
        ⟨none, false, (outputText outs.flatten).toUTF8⟩) rest := by
  have hrun := run_of_room_eq_none hscript hreplies .empty
  rwa [ByteArray.empty_append] at hrun

/-- Such a sink holds in the end what the lines compile to. -/
theorem written_run_unlimited (hstops : s.Stops (s.leave session before) rest) :
    (s.run session .unlimited script).1.sink.written = (outputText outs.flatten).toUTF8 := by
  have hsink := s.sink_runFrom_of_stops hstops (p := s.progress ⟨session, .unlimited, [], 0⟩ before
    ⟨none, false, (outputText outs.flatten).toUTF8⟩)
  rw [run_unlimited_eq hscript hreplies, hsink]
  rfl

end Prefix

end Setting

end NavScript
