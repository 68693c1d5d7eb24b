import NavScript.Proofs.Session.Run

namespace NavScript

/-!
# Sinks with room for so many bytes

A sink that takes so many bytes and no more keeps the first of those that a sink without a limit
gets from the same run.  Where they do not all fit, the run ends at the line that has the first byte
without room, whatever the lines behind it would have come to; where they do, only a sink that
refuses to be flushed can make a difference.

* `Sink.writeLines_of_size_le`, `Sink.writeLines_of_lt_size` — lines that fit, and lines that do not
* `Setting.runFrom_of_stops` — the end of a run in another sink
* `Setting.run_of_lt_size`, `Setting.run_of_size_le` — runs without enough room, and with it
* `Setting.run_of_room` — a whole run
-/

/-! ### Lines in a sink with room -/

/-- The text of two batches of lines. -/
theorem outputText_append (a b : List String) :
    outputText (a ++ b) = outputText a ++ outputText b := by
  induction a with
  | nil => simp
  | cons line a ih =>
    rw [List.cons_append, outputText_cons, outputText_cons, ih, ← String.append_assoc]

/-- How many bytes lines take, each with its line feed. -/
def outputSize (lines : List String) : Nat :=
  (outputText lines).utf8ByteSize

@[simp] theorem outputSize_nil : outputSize [] = 0 := rfl

/-- The size of two batches, -/
@[simp] theorem outputSize_append (a b : List String) :
    outputSize (a ++ b) = outputSize a + outputSize b := by
  rw [outputSize, outputText_append, String.utf8ByteSize_append]
  rfl

/-- and of one line more. -/
theorem outputSize_cons (line : String) (rest : List String) :
    outputSize (line :: rest) = (line ++ "\n").toUTF8.size + outputSize rest := by
  rw [outputSize, outputText_cons, String.utf8ByteSize_append, String.toUTF8_eq_toByteArray,
    String.size_toByteArray]
  rfl

/-- It is the size of their text. -/
theorem size_toUTF8_outputText (lines : List String) :
    (outputText lines).toUTF8.size = outputSize lines := by
  rw [String.toUTF8_eq_toByteArray, String.size_toByteArray]
  rfl

/-- The bytes of two batches. -/
theorem toUTF8_outputText_append (a b : List String) :
    (outputText (a ++ b)).toUTF8 = (outputText a).toUTF8 ++ (outputText b).toUTF8 := by
  simp only [outputText_append, String.toUTF8_eq_toByteArray, String.toByteArray_append]

/-- All of some bytes fit into room for as many. -/
theorem extract_zero_of_size_le {bytes : ByteArray} {n : Nat} (h : bytes.size ≤ n) :
    bytes.extract 0 n = bytes := by
  apply ByteArray.ext
  rw [ByteArray.data_extract]
  exact Array.extract_eq_self_of_le h

namespace Sink

/-- Lines that fit are written. -/
theorem writeLines_of_size_le {room : Nat} {lines : List String} (h : outputSize lines ≤ room)
    (broken : Bool) (written : ByteArray) :
    (⟨some room, broken, written⟩ : Sink).writeLines lines =
      (⟨some (room - outputSize lines), broken, written ++ (outputText lines).toUTF8⟩, true) := by
  induction lines generalizing room written with
  | nil => simp
  | cons line rest ih =>
    rw [outputSize_cons] at h
    have hfirst : (line ++ "\n").toUTF8.size ≤ room := by omega
    rw [writeLines_cons, write]
    simp only [hfirst, if_true]
    rw [ih (by omega), outputSize_cons, Nat.sub_sub, outputText_cons, ByteArray.append_assoc]
    simp

/-- Of lines that do not fit as many bytes are written as do. -/
theorem writeLines_of_lt_size {room : Nat} {lines : List String} (h : room < outputSize lines)
    (broken : Bool) (written : ByteArray) :
    (⟨some room, broken, written⟩ : Sink).writeLines lines =
      (⟨some 0, broken, written ++ (outputText lines).toUTF8.extract 0 room⟩, false) := by
  induction lines generalizing room written with
  | nil => simp at h
  | cons line rest ih =>
    rw [outputSize_cons] at h
    have hbytes : (outputText (line :: rest)).toUTF8 =
        (line ++ "\n").toUTF8 ++ (outputText rest).toUTF8 := by simp
    rw [writeLines_cons, write, hbytes, ByteArray.extract_append]
    by_cases hfirst : (line ++ "\n").toUTF8.size ≤ room
    · simp only [hfirst, if_true]
      rw [ih (by omega), extract_zero_of_size_le hfirst, ByteArray.append_assoc, Nat.zero_sub]
    · -- not even the first line fits, so nothing is written of the others
      have hnone : room - (line ++ "\n").toUTF8.size = 0 := by omega
      simp only [hfirst, if_false, hnone, Nat.zero_sub]
      simp

end Sink

/-! ### Where a run stops -/

/-- The ending of a run in a sink that may refuse to be flushed, given how the run ends if it does
    not: a run over so many lines, all of which have been written, is stopped by that. -/
def Ending.flushed (broken : Bool) (line : Nat) : Ending → Ending
  | .done => if broken then .stopped ⟨line, none, .io .flushingOutput .sinkBroken⟩ else .done
  | ending => ending

namespace Setting

variable (s : Setting)

/-- Where a run stops, nothing is written any more, and the sink does not matter but for its last
    flush. -/
theorem runFrom_of_stops {p : Progress} {rest : List ScriptLine} (h : s.Stops p.session rest)
    (hbroken : p.sink.broken = false) (sink : Sink) :
    s.runFrom { p with sink } rest =
      ({ (s.runFrom p rest).1 with sink },
        (s.runFrom p rest).2.flushed sink.broken (s.runFrom p rest).1.line) := by
  rcases h with rfl | ⟨obstacle, behind, rfl⟩ | ⟨line, behind, rfl, hne⟩
  · rw [runFrom, runFrom, Progress.finish_eq, Progress.finish_eq, hbroken]
    cases sink.broken <;> simp [Ending.flushed]
  · rfl
  · rw [runFrom, runFrom]
    cases hline : (s.compile p.session line).1 with
    | lines out => exact absurd hline (hne out)
    | refused e => simp only [hline, ProgressInto.after, Ending.flushed]
    | unwritable => simp only [hline, ProgressInto.after, Ending.flushed]

/-! ### The line without room -/

/-- The first batch that does not fit behind those before it. -/
theorem exists_batch_of_lt_size {n : Nat} {outs : List (List String)}
    (h : n < outputSize outs.flatten) :
    ∃ front out back, outs = front ++ out :: back ∧ outputSize front.flatten ≤ n ∧
      n < outputSize (front.flatten ++ out) := by
  induction outs generalizing n with
  | nil => simp at h
  | cons out outs ih =>
    rw [List.flatten_cons, outputSize_append] at h
    by_cases hfirst : n < outputSize out
    · exact ⟨[], out, outs, rfl, Nat.zero_le n, by simpa using hfirst⟩
    · obtain ⟨front, out', back, rfl, hfits, hover⟩ := ih (n := n - outputSize out) (by omega)
      rw [outputSize_append] at hover
      refine ⟨out :: front, out', back, rfl, ?_, ?_⟩
      · rw [List.flatten_cons, outputSize_append]
        omega
      · rw [List.flatten_cons, outputSize_append, outputSize_append]
        omega

/-- The line that a batch is the output of. -/
theorem exists_line_of_replies {session : Session} {lines : List String} {out : List String}
    {front back : List (List String)}
    (h : s.replies session lines = (front ++ out :: back).map .lines) :
    ∃ before line after, lines = before ++ line :: after ∧
      s.replies session before = front.map .lines ∧
      (s.compile (s.leave session before) line).1 = .lines out := by
  induction front generalizing session lines with
  | nil =>
    cases lines with
    | nil => cases h
    | cons line after => exact ⟨[], line, after, rfl, rfl, (List.cons.inj h).1⟩
  | cons first front ih =>
    cases lines with
    | nil => cases h
    | cons line lines =>
      obtain ⟨hfirst, hrest⟩ := List.cons.inj h
      obtain ⟨before, line', after, rfl, hreplies, hout⟩ := ih hrest
      refine ⟨line :: before, line', after, rfl, ?_, hout⟩
      rw [replies, hfirst, hreplies, List.map_cons]

/-! ### Whole runs -/

/-- Only a run that has come to the end of the script ends well. -/
theorem eq_nil_of_stops {p : Progress} {rest : List ScriptLine} (h : s.Stops p.session rest)
    (hdone : (s.runFrom p rest).2 = .done) : rest = [] := by
  rcases h with rfl | ⟨obstacle, behind, rfl⟩ | ⟨line, behind, rfl, hne⟩
  · rfl
  · cases hdone
  · rw [runFrom] at hdone
    cases hline : (s.compile p.session line).1 with
    | lines out => exact absurd hline (hne out)
    | refused e => simp [hline] at hdone
    | unwritable => simp [hline] at hdone

section Prefix

variable {s} {session : Session} {script rest : List ScriptLine} {before : List String}
  {outs : List (List String)} (hscript : script = before.map .ok ++ rest)
  (hreplies : s.replies session before = outs.map .lines)
  (hstops : s.Stops (s.leave session before) rest)

include hscript hreplies

/-- A run in a sink without enough room ends at the line that the room runs out in. -/
theorem run_of_lt_size {n : Nat} (hn : n < outputSize outs.flatten) (broken : Bool) :
    ∃ (front : List String) (batches : List (List String)) (line : String) (out later : List String)
        (behind : List ScriptLine),
      script = front.map .ok ++ .ok line :: behind ∧
      s.replies session front = batches.map .lines ∧
      (s.compile (s.leave session front) line).1 = .lines out ∧
      outs.flatten = batches.flatten ++ out ++ later ∧
      outputSize batches.flatten ≤ n ∧ n < outputSize (batches.flatten ++ out) ∧
      s.run session ⟨some n, broken, .empty⟩ script =
        (⟨s.leave session (front ++ [line]),
            ⟨some 0, broken, (outputText outs.flatten).toUTF8.extract 0 n⟩,
            (s.requests session (front ++ [line])).reverse, front.length + 1⟩,
          .stopped ⟨front.length + 1, commandName line, .io .writingOutput .sinkFull⟩) := by
  obtain ⟨batches, out, back, rfl, hfits, hover⟩ := exists_batch_of_lt_size hn
  obtain ⟨front, line, after, rfl, hfront, hline⟩ := s.exists_line_of_replies hreplies
  have hscript' : script = front.map .ok ++ .ok line :: (after.map .ok ++ rest) := by
    rw [hscript]
    simp
  refine ⟨front, batches, line, out, back.flatten, _, hscript', hfront, hline, by simp,
    hfits, hover, ?_⟩
  have hwrite := Sink.writeLines_of_size_le hfits broken .empty
  have hfull : n - outputSize batches.flatten < outputSize out := by
    rw [outputSize_append] at hover
    omega
  have hrun := run_eq_runFrom hscript' hfront hwrite
  have hstop := s.runFrom_cons_of_full (W := Sink)
    (p := s.progress ⟨session, ⟨some n, broken, .empty⟩, [], 0⟩ front
      ⟨some (n - outputSize batches.flatten), broken,
        .empty ++ (outputText batches.flatten).toUTF8⟩)
    hline (Sink.writeLines_of_lt_size hfull _ _) (after.map .ok ++ rest)
  rw [hrun, hstop, progress_append]
  -- the batches behind have no room at all
  have hbytes : (outputText (batches ++ out :: back).flatten).toUTF8.extract 0 n =
      .empty ++ (outputText batches.flatten).toUTF8 ++
        (outputText out).toUTF8.extract 0 (n - outputSize batches.flatten) := by
    have hnone : n - outputSize batches.flatten - outputSize out = 0 := by omega
    have hflatten :
        (batches ++ out :: back).flatten = batches.flatten ++ (out ++ back.flatten) := by simp
    rw [hflatten, toUTF8_outputText_append, toUTF8_outputText_append, ByteArray.extract_append,
      ByteArray.extract_append, size_toUTF8_outputText, size_toUTF8_outputText, hnone,
      extract_zero_of_size_le (by rw [size_toUTF8_outputText]; exact hfits), ByteArray.empty_append]
    simp
  rw [hbytes]
  simp [progress]

include hstops

/-- A run in a sink with enough room is the run in one without a limit, but for the last flush. -/
theorem run_of_size_le {n : Nat} (hn : outputSize outs.flatten ≤ n) (broken : Bool) :
    let whole := s.run session .unlimited script
    (whole.2 = .done → whole.1.line = script.length) ∧
      s.run session ⟨some n, broken, .empty⟩ script =
        ({ whole.1 with sink :=
            ⟨some (n - outputSize outs.flatten), broken, (outputText outs.flatten).toUTF8⟩ },
          whole.2.flushed broken whole.1.line) := by
  intro whole
  have hwhole : whole = _ := run_unlimited_eq hscript hreplies
  refine ⟨fun hdone => ?_, ?_⟩
  · rw [hwhole] at hdone
    obtain rfl := s.eq_nil_of_stops hstops hdone
    rw [hwhole, hscript]
    simp [runFrom, Progress.finish_eq, progress]
  · rw [run_eq_runFrom hscript hreplies (Sink.writeLines_of_size_le hn broken .empty), hwhole,
      ByteArray.empty_append]
    exact s.runFrom_of_stops (p := s.progress ⟨session, .unlimited, [], 0⟩ before
      ⟨none, false, (outputText outs.flatten).toUTF8⟩) hstops rfl _

end Prefix

/-- **A sink with room for so many bytes.**  Compare a run into a sink that takes `n` bytes with the
    same run into one that takes all of them.  What is written is the first `n` bytes, or all if
    there are no more.  If there are more, the run ends at the line whose output has the first byte
    without room; the session, the requests and the count of lines are those after that line, and
    the error says that the output could not be written.  If there are not, the two runs differ in
    nothing but the last flush, which can stop a run that has written everything. -/
theorem run_of_room (session : Session) (n : Nat) (broken : Bool) (script : List ScriptLine) :
    let whole := s.run session .unlimited script
    let bytes := whole.1.sink.written
    let run := s.run session ⟨some n, broken, .empty⟩ script
    run.1.sink.written = bytes.extract 0 (min n bytes.size) ∧
    (n < bytes.size → ∃ (before : List String) (outs : List (List String)) (line : String)
        (out later : List String) (behind : List ScriptLine),
      script = before.map .ok ++ .ok line :: behind ∧
      s.replies session before = outs.map .lines ∧
      (s.compile (s.leave session before) line).1 = .lines out ∧
      bytes = (outputText (outs.flatten ++ out ++ later)).toUTF8 ∧
      outputSize outs.flatten ≤ n ∧ n < outputSize (outs.flatten ++ out) ∧
      run.1.session = s.leave session (before ++ [line]) ∧
      run.1.requests = (s.requests session (before ++ [line])).reverse ∧
      run.1.line = before.length + 1 ∧
      run.2 = .stopped ⟨before.length + 1, (Text.wordsOf line).head?,
        .io .writingOutput .sinkFull⟩) ∧
    (bytes.size ≤ n →
      run.1 = { whole.1 with sink := ⟨some (n - bytes.size), broken, bytes⟩ } ∧
      (whole.2 = .done → broken = true →
        run.2 = .stopped ⟨script.length, none, .io .flushingOutput .sinkBroken⟩) ∧
      (whole.2 ≠ .done ∨ broken = false → run.2 = whole.2)) := by
  intro whole bytes run
  obtain ⟨before, outs, rest, hscript, hreplies, hstops⟩ := s.exists_compiled_prefix session script
  have hbytes : bytes = (outputText outs.flatten).toUTF8 :=
    written_run_unlimited hscript hreplies hstops
  have hsize : bytes.size = outputSize outs.flatten := by
    rw [hbytes, size_toUTF8_outputText]
  by_cases hn : outputSize outs.flatten ≤ n
  · obtain ⟨hline, hrun⟩ := run_of_size_le hscript hreplies hstops hn broken
    have hrun' : run = _ := hrun
    refine ⟨?_, fun hlt => by omega, fun _ => ⟨?_, ?_, ?_⟩⟩
    · rw [hrun', Nat.min_eq_right (hsize ▸ hn), ByteArray.extract_zero_size, hbytes]
    · rw [hrun', hsize, hbytes]
    · intro hdone hbroken
      have hwhole : (s.run session .unlimited script).2 = .done := hdone
      rw [hrun', ← hline hdone, hbroken, hwhole]
      rfl
    · intro hgood
      rw [hrun']
      show Ending.flushed broken _ whole.2 = whole.2
      rcases hgood with hgood | rfl
      · cases hending : whole.2 with
        | done => exact absurd hending hgood
        | stopped e => rfl
        | unwritable => rfl
      · cases whole.2 <;> rfl
  · obtain ⟨front, batches, line, out, later, behind, hscript', hfront, hline, houts, hfits,
      hover, hrun⟩ :=
      run_of_lt_size hscript hreplies (Nat.lt_of_not_le hn) broken
    have hrun' : run = _ := hrun
    refine ⟨?_, fun _ => ?_, fun hle => by omega⟩
    · rw [hrun', hbytes, size_toUTF8_outputText, Nat.min_eq_left (by omega)]
    · refine ⟨front, batches, line, out, later, behind, hscript', hfront, hline, ?_,
        hfits, hover, ?_⟩
      · rw [hbytes, houts]
      · rw [hrun']
        exact ⟨rfl, rfl, rfl, rfl⟩

/-- Three bytes are too few for the line that loads a drawing, which is loaded all the same; with
    enough of them the flush is what can fail. -/
theorem run_of_little_room :
    let script : List ScriptLine := [.ok "# two", .ok "load-svg a.svg 2", .ok "bogus"]
    let run := plain.run emptyDrawing ⟨some 3, false, .empty⟩ script
    3 < (plain.run emptyDrawing .unlimited script).1.sink.written.size ∧
      run.1.sink.written =
        (plain.run emptyDrawing .unlimited script).1.sink.written.extract 0 3 ∧
      run.1.session = plain.leave emptyDrawing ["# two", "load-svg a.svg 2"] ∧
      run.1.session.loaded = some ⟨⟨[], []⟩, ⟨2.0⟩⟩ ∧
      run.2 = .stopped ⟨2, some "load-svg", .io .writingOutput .sinkFull⟩ ∧
      (plain.run emptyDrawing ⟨some 26, true, .empty⟩ [.ok "load-svg a.svg 2"]).2 =
        .stopped ⟨1, none, .io .flushingOutput .sinkBroken⟩ := by
  intro script run
  have hsize : 3 < (plain.run emptyDrawing .unlimited script).1.sink.written.size := by
    decide +kernel
  obtain ⟨hwritten, hshort, -⟩ := plain.run_of_room emptyDrawing 3 false script
  obtain ⟨before, _, line, _, _, behind, hscript, -, -, -, -, -, hsession, -, hline, hending⟩ :=
    hshort hsize
  have hcount : before.length + 1 = 2 := hline.symm
  obtain ⟨first, rfl⟩ := List.length_eq_one_iff.mp (Nat.succ.inj hcount)
  obtain ⟨rfl, rfl, -⟩ : "# two" = first ∧ "load-svg a.svg 2" = line ∧ _ := by
    simpa [script] using hscript
  rw [Nat.min_eq_left (Nat.le_of_lt hsize)] at hwritten
  obtain ⟨-, -, hroom⟩ := plain.run_of_room emptyDrawing 26 true [.ok "load-svg a.svg 2"]
  obtain ⟨-, hflush, -⟩ := hroom (by decide +kernel)
  exact ⟨hsize, hwritten, hsession, hsession ▸ rfl, hending, hflush rfl rfl⟩

end Setting

end NavScript
