import NavScript.Proofs.Session.Run
import NavScript.Proofs.Tool.Copy
import NavScript.Proofs.Tool.Files
import NavScript.Shell.Toolbox

namespace NavScript

/-!
# The toolbox among the files

A program of the toolbox that is a tool starts with nothing to read and with both of its outputs
kept in memory, so that it can change the files only where the tool itself does.

* `Running.takenIn` — what comes of a step of a shell, and the shell afterwards
* `Running.takenIn_runTool` — a tool with nothing to read
* `State.KeepsOutput` — a shell that writes to memory alone
* `toolbox_of_tool`, `toolbox_cat` — what a tool of the toolbox comes to, and `cat` above all
* `files_toolbox_of_leavesFiles` — tools that only read
* `Setting.files_run_of_tool` — runs that have such a tool for a flattener
-/

open NavScript.Text

namespace Tool.Result

/-- What a tool wrote to its output, or to its errors, in the order in which it wrote it. -/
def written (r : Tool.Result) (isError : Bool) : String :=
  String.join ((r.writes.reverse.filter (·.1 = isError)).map (·.2))

end Tool.Result

namespace Shell

/-! ### Steps -/

namespace Running

variable {α β : Type}

/-- What comes of a step taken in a state, and the state afterwards. -/
def takenIn (step : Running α) (s : State) : Except Abort α × State :=
  (ExceptT.run step).run s

theorem takenIn_get (s : State) : takenIn get s = (.ok s, s) := rfl

theorem takenIn_set (s t : State) : takenIn (set t) s = (.ok ⟨⟩, t) := rfl

theorem takenIn_modify (f : State → State) (s : State) : takenIn (modify f) s = (.ok ⟨⟩, f s) := rfl

/-- The step behind one that ends well. -/
theorem takenIn_bind {step : Running α} {f : α → Running β} {s t : State} {a : α}
    (h : step.takenIn s = (.ok a, t)) : (step >>= f).takenIn s = (f a).takenIn t := by
  change (ExceptT.bindCont f (step.takenIn s).1).run (step.takenIn s).2 = _
  rw [h]
  rfl

/-- A step at which a shell ends is the last. -/
theorem takenIn_bind_error {step : Running α} {f : α → Running β} {s t : State} {e : Abort}
    (h : step.takenIn s = (.error e, t)) : (step >>= f).takenIn s = (.error e, t) := by
  change (ExceptT.bindCont f (step.takenIn s).1).run (step.takenIn s).2 = _
  rw [h]
  rfl

/-- A loop of which each round changes the shell and nothing else. -/
theorem takenIn_forIn {round : α → PUnit → Running (ForInStep PUnit)} {f : State → α → State}
    (hround : ∀ a s, (round a ⟨⟩).takenIn s = (.ok (.yield ⟨⟩), f s a)) (l : List α) (s : State) :
    takenIn (forIn l ⟨⟩ round) s = (.ok ⟨⟩, l.foldl f s) := by
  induction l generalizing s with
  | nil => rfl
  | cons a l ih =>
    rw [List.forIn_cons, takenIn_bind (hround a s)]
    exact ih (f s a)

end Running

/-! ### Writing -/

/-- Of the streams, one alone is changed. -/
theorem World.stream_setStream (w : World) (n m : Nat) (bytes : String) :
    (w.setStream n bytes).stream m = if m = n then bytes else w.stream m := by
  unfold World.setStream World.stream
  split
  case isTrue h => simp [h]
  case isFalse h =>
    -- the entries that are thrown away are of the other stream
    have hrest : (w.streams.filter (·.1 != n)).lookup m = w.streams.lookup m := by
      induction w.streams with
      | nil => rfl
      | cons entry rest ih =>
        by_cases hn : entry.1 = n
        · have hm : (m == entry.1) = false := beq_false_of_ne (hn ▸ h)
          rw [List.filter_cons_of_neg (by simpa using hn), List.lookup_cons, hm]
          exact ih
        · rw [List.filter_cons_of_pos (by simpa using hn), List.lookup_cons, List.lookup_cons, ih]
    rw [List.lookup_cons, beq_false_of_ne h]
    exact congrArg (·.getD "") hrest

namespace State

/-- The number of the errors, or of the output. -/
def outputNumber (isError : Bool) : Nat := if isError then 2 else 1

/-- What a tool wrote, written by a shell. -/
def writeAll (s : State) (writes : List (Bool × String)) : State :=
  writes.foldl (fun s w => s.write (outputNumber w.1) w.2) s

@[simp] theorem writeAll_nil (s : State) : s.writeAll [] = s := rfl

@[simp] theorem writeAll_cons (s : State) (w : Bool × String) (writes : List (Bool × String)) :
    s.writeAll (w :: writes) = (s.write (outputNumber w.1) w.2).writeAll writes := rfl

/-- A shell that has other files around it. -/
def withFiles (s : State) (files : Files) : State :=
  { s with world := { s.world with files } }

/-- A shell whose output and whose errors are kept in memory. -/
structure KeepsOutput (s : State) : Prop where
  channel : ∀ isError, s.channel (outputNumber isError) = .stream (outputNumber isError)

namespace KeepsOutput

variable {s : State}

/-- Writing to memory changes the stream that is written to. -/
theorem world_write (h : s.KeepsOutput) (isError : Bool) (text : String) :
    (s.write (outputNumber isError) text).world =
      s.world.setStream (outputNumber isError)
        (s.world.stream (outputNumber isError) ++ text) := by
  unfold State.write
  rw [h.channel]
  rfl

/-- A shell that keeps its output goes on doing so. -/
theorem write (h : s.KeepsOutput) (isError : Bool) (text : String) :
    (s.write (outputNumber isError) text).KeepsOutput := ⟨h.channel⟩

/-- What is written to memory leaves the files as they are. -/
theorem files_writeAll (h : s.KeepsOutput) (writes : List (Bool × String)) :
    (s.writeAll writes).world.files = s.world.files := by
  induction writes generalizing s with
  | nil => rfl
  | cons w writes ih =>
    rw [writeAll_cons, ih (h.write w.1 w.2), h.world_write]
    rfl

/-- A stream gets what was written to it, in order. -/
theorem stream_writeAll (h : s.KeepsOutput) (writes : List (Bool × String)) (isError : Bool) :
    (s.writeAll writes).world.stream (outputNumber isError) =
      s.world.stream (outputNumber isError) ++
        String.join ((writes.filter (·.1 = isError)).map (·.2)) := by
  induction writes generalizing s with
  | nil => simp
  | cons w writes ih =>
    have hnumber : outputNumber isError = outputNumber w.1 ↔ w.1 = isError := by
      cases isError <;> cases w.1 <;> decide
    rw [writeAll_cons, ih (h.write w.1 w.2), h.world_write, World.stream_setStream]
    by_cases hsame : w.1 = isError
    · simp [hsame, String.append_assoc]
    · simp [hnumber, hsame]

end KeepsOutput

end State

namespace Running

/-- A tool with nothing to read. -/
theorem takenIn_runTool {t : Tool} {args : List String} {s : State} {r : Tool.Result}
    (hinput : s.descriptors.lookup 0 = some .nowhere)
    (hr : t ⟨args, .ok "", s.world.files, s.directory, s.environment⟩ = r) :
    (runTool t args).takenIn s =
      (.ok (.exited r.status), (s.withFiles r.files).writeAll r.writes.reverse) := by
  have hinput' : s.world.input .nowhere = "" := rfl
  unfold runTool
  rw [takenIn_bind (takenIn_get s)]
  simp only [hinput, hinput', hr]
  rw [takenIn_bind (takenIn_set _ _)]
  cases r.input with
  | none => exact takenIn_bind (takenIn_forIn (fun _ _ => rfl) _ _)
  | some rest =>
    -- what is left of nothing is given back to nothing
    have hgiven : s.channel 0 = .nowhere := by
      rw [State.channel, hinput]
      rfl
    have hback : { s.withFiles r.files with
        world := World.setInput (s.withFiles r.files).world (s.channel 0) rest } =
          s.withFiles r.files := by
      rw [hgiven]
      rfl
    dsimp only
    rw [takenIn_bind (takenIn_modify _ _)]
    refine (congrArg _ hback).trans ?_
    exact takenIn_bind (takenIn_forIn (fun _ _ => rfl) _ _)

/-- A tool in the place of a shell ends it. -/
theorem takenIn_become_tool {run : Runner} {words : List String} {t : Tool} {file : String}
    {s : State} {r : Tool.Result} (hfound : s.locate (words.headD "") = .ok (file, .tool t))
    (hinput : s.descriptors.lookup 0 = some .nowhere)
    (hr : t ⟨words.drop 1, .ok "", s.world.files, s.directory, s.environment⟩ = r) :
    (become run words).takenIn s =
      (.error (.over (.exited r.status)), (s.withFiles r.files).writeAll r.writes.reverse) := by
  unfold become
  rw [takenIn_bind (takenIn_get s), hfound]
  exact takenIn_bind (takenIn_runTool hinput hr)

/-- What a shell does up to its end is over when a program has taken its place. -/
theorem toEnd_of_over {run : Runner} {part : Running Unit} {s t : State} {status : Status}
    (h : part.takenIn s = (.error (.over status), t)) : toEnd run part s = (status, t) := by
  have hrun : (ExceptT.run part).run s = (.error (.over status), t) := h
  rw [toEnd, hrun]

end Running

/-! ### Programs -/

/-- A name that a program can be run by, and arguments for it: no text holds the NUL character, and
    neither the name nor all of them are too long. -/
structure CanBeGiven (name : String) (args : List String) : Prop where
  noNul : (name :: args).any holdsNul = false
  nameFits : nameObstacle? name = none
  argumentsFit : areTooLong (name :: args) = false

variable {files : Files} {name : String} {args : List String}

/-- The obstacles in the way of running a program leave the files as they are. -/
theorem files_of_toolbox_eq_error {o : Obstacle} {after : Files}
    (h : toolbox files name args = (.error o, after)) : after = files := by
  unfold toolbox at h
  dsimp only at h
  split at h
  · exact (Prod.mk.inj h).2.symm
  · split at h
    · exact (Prod.mk.inj h).2.symm
    · split at h
      · exact (Prod.mk.inj h).2.symm
      · exact nomatch (Prod.mk.inj h).1

/-- What cannot be given to a program is an obstacle. -/
theorem toolbox_of_not_canBeGiven (h : ¬ CanBeGiven name args) :
    ∃ o, toolbox files name args = (.error o, files) := by
  unfold toolbox
  dsimp only
  split
  case isTrue => exact ⟨_, rfl⟩
  case isFalse hnul =>
    split
    case h_1 o _ => exact ⟨o, rfl⟩
    case h_2 hfound =>
      split
      case isTrue => exact ⟨_, rfl⟩
      case isFalse hsize =>
        refine absurd ⟨by simpa using hnul, ?_, by simpa using hsize⟩ h
        cases hname : nameObstacle? name with
        | none => rfl
        | some o =>
          rw [hname] at hfound
          cases hfound

/-- What a tool of the toolbox is given: the arguments and nothing to read. -/
def givenCall (files : Files) (args : List String) : Tool.Call :=
  ⟨args.map Narrow.ofText, .ok "", files, (surroundings files).directory,
    (surroundings files).environment⟩

/-- A program that starts keeps its output in memory, whatever files there are. -/
theorem surroundings_keepsOutput (files after : Files) :
    ((surroundings files).withFiles after).KeepsOutput :=
  ⟨fun isError => by cases isError <;> rfl⟩

/-- **A tool of the toolbox.**  It is given its arguments and nothing to read, and what it writes is
    handed over. -/
theorem toolbox_of_tool {file : String} {t : Tool} {r : Tool.Result} (hgiven : CanBeGiven name args)
    (hfound : (surroundings files).locate (Narrow.ofText name) = .ok (file, .tool t))
    (hr : t (givenCall files args) = r) :
    toolbox files name args =
      (.ok ⟨.exited r.status, Narrow.toBytes (r.written false), Narrow.toBytes (r.written true)⟩,
        r.files) := by
  have hkeeps := surroundings_keepsOutput files r.files
  have htask : (discard (Running.run Running.depthLimit
      (.become ((name :: args).map Narrow.ofText)))).takenIn (surroundings files) =
      (.error (.over (.exited r.status)),
        ((surroundings files).withFiles r.files).writeAll r.writes.reverse) := by
    rw [Running.depthLimit, Running.run, Running.perform]
    exact Running.takenIn_bind_error
      (Running.takenIn_bind_error (Running.takenIn_become_tool hfound rfl hr))
  unfold toolbox
  simp only [hgiven.noNul, hgiven.nameFits, hgiven.argumentsFit, hfound,
    Running.toEnd_of_over htask, hkeeps.files_writeAll]
  have hwritten (isError : Bool) :
      (((surroundings files).withFiles r.files).writeAll r.writes.reverse).world.stream
        (State.outputNumber isError) = r.written isError := by
    rw [hkeeps.stream_writeAll]
    exact String.empty_append
  rw [← hwritten false, ← hwritten true]
  rfl

/-- So a tool that leaves the files as they are does so whatever its arguments are. -/
theorem files_toolbox_of_leavesFiles {file : String} {t : Tool} (ht : Tool.LeavesFiles t)
    (hfound : (surroundings files).locate (Narrow.ofText name) = .ok (file, .tool t)) :
    (toolbox files name args).2 = files := by
  by_cases hgiven : CanBeGiven name args
  · rw [toolbox_of_tool hgiven hfound rfl]
    exact ht _
  · obtain ⟨o, ho⟩ : ∃ o, toolbox files name args = (.error o, files) :=
      toolbox_of_not_canBeGiven hgiven
    rw [ho]

/-- **Files handed over.**  The toolbox's `cat` hands over the bytes of the files that it is given,
    one after the other, if it can read them. -/
theorem toolbox_cat {file : String} {texts : List (List UInt8)} (hgiven : CanBeGiven name args)
    (hfound : (surroundings files).locate (Narrow.ofText name) = .ok (file, .tool Tool.cat))
    (hargs : args ≠ [])
    (hfiles : List.Forall₂ (givenCall files args).NamesFile (args.map Narrow.ofText) texts) :
    toolbox files name args = (.ok ⟨.success, texts.flatten, []⟩, files) := by
  have hcat : Tool.cat (givenCall files args) = _ :=
    Tool.cat_of_files (fun h => hargs (List.map_eq_nil_iff.mp h)) hfiles
  have hwritten : Tool.Result.written ⟨0, [(false, Narrow.ofBytes texts.flatten)], files, none⟩
      false = Narrow.ofBytes texts.flatten := by
    simp [Tool.Result.written]
  refine (toolbox_of_tool hgiven hfound hcat).trans ?_
  rw [givenCall, hwritten, Narrow.toBytes_ofBytes]
  rfl

end Shell

/-! ### Runs -/

namespace Setting

variable {s : Setting} {session : Session}

/-- A line changes the files only through the flattener. -/
theorem files_step_of_flattener (h : ∀ r, (s.flattener session.files r).2 = session.files)
    (line : String) : (s.step session line).after.files = session.files := by
  rcases s.step_cases session line with ⟨outcome, hs⟩ | ⟨args, file, scale, -, -, -, hs⟩
  · rw [hs]
    rfl
  · rcases s.load_cases session.files file scale with ⟨e, hl⟩ | ⟨r, e, -, hl⟩ | ⟨r, l, -, -, hl⟩
    · rw [hs, hl]
      rfl
    · rw [hs, hl]
      exact h r
    · rw [hs, hl]
      exact h r

/-- So does a run. -/
theorem files_runFrom_of_flattener {W : Type} [Writer W] (script : List ScriptLine)
    (p : ProgressInto W) (h : ∀ r, (s.flattener p.session.files r).2 = p.session.files) :
    (s.runFrom p script).1.session.files = p.session.files := by
  induction script generalizing p with
  | nil =>
    rw [runFrom, ProgressInto.finish]
    split <;> rfl
  | cons first rest ih =>
    cases first with
    | error obstacle => rfl
    | ok line =>
      have hstep := files_step_of_flattener h line
      rw [runFrom]
      dsimp only [compile]
      split
      · exact hstep
      · exact hstep
      · split
        · exact (ih _ (by simpa [ProgressInto.after, hstep] using h)).trans hstep
        · exact hstep

/-- **Flattening with a tool that only reads.**  A run whose flattener is a tool of the toolbox ends
    among the files among which it began, whatever the script says and however the run ends, if the
    tool leaves the files as they are. -/
theorem files_run_of_tool {program file : String} {args : List String} {t : Tool}
    (hflattener : s.flattener = .external Shell.toolbox program args)
    (hfound : (Shell.surroundings session.files).locate (Narrow.ofText program) =
      .ok (file, .tool t))
    (ht : Tool.LeavesFiles t) (sink : Sink) (script : List ScriptLine) :
    (s.run session sink script).1.session.files = session.files :=
  files_runFrom_of_flattener script _ fun r => by
    rw [hflattener]
    exact Shell.files_toolbox_of_leavesFiles ht hfound

end Setting

example : (Shell.surroundings ⟨[], []⟩).locate (Narrow.ofText "/bin/cat") =
    .ok ("/bin/cat", .tool Tool.cat) := by
  cbv

end NavScript
