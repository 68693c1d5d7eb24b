import NavScript.Proofs.Session.Run
import NavScript.Proofs.Session.Setting

namespace NavScript

/-!
# Runs that correspond

Two runs can be compared line by line.  If the steps of the one are those of the other up to a
renaming of sessions and requests, and lines that can be refused have the same name in errors, then
so are the runs: they write the same, and they end in the same way at the same line.

* `ProgressInto.map` — another session, and other requests, in place of a run's own
* `Setting.Corresponds` — lines of two scripts that come to the same in two settings
* `Setting.runFrom_of_corresponds`, `Setting.run_of_corresponds` — whole runs
* `Setting.run_of_step_eq` — runs of one script
-/

/-- How far a run has come, with its session and its requests put through functions. -/
def ProgressInto.map (φ : Session → Session) (f : Request → Request) (p : Progress) : Progress :=
  { p with session := φ p.session, requests := p.requests.map f }

@[simp] theorem ProgressInto.map_id (p : Progress) : p.map id id = p := by
  simp [ProgressInto.map]

namespace Setting

/-- Lines of two scripts that come to the same in two settings: neither can be read, or the second
    does in each session that has been put through a function what the first does in the session
    itself.  They have the same name in errors, unless they have nothing to say. -/
inductive Corresponds (s t : Setting) (φ : Session → Session) (f : Request → Request) :
    ScriptLine → ScriptLine → Prop
  | unreadable (obstacle : Obstacle) : Corresponds s t φ f (.error obstacle) (.error obstacle)
  | readable {line line' : String}
      (step_eq : ∀ session, t.step (φ session) line' = (s.step session line).map φ f)
      (name : commandName line' = commandName line ∨
        ∀ session, (s.step session line).outcome = .ok []) :
      Corresponds s t φ f (.ok line) (.ok line')

section Runs

variable {s t : Setting} {φ : Session → Session} {f : Request → Request}

/-- Steps that correspond compile to the same lines. -/
theorem compile_of_step_eq (hprecision : t.options.precision = s.options.precision)
    {session : Session}
    {line line' : String} (h : t.step (φ session) line' = (s.step session line).map φ f) :
    (t.compile (φ session) line').1 = (s.compile session line).1 := by
  change (t.step (φ session) line').compiled _ = (s.step session line).compiled _
  rw [h, hprecision]
  rfl

/-- Runs that correspond still do so a line further. -/
theorem progress_of_step_eq {p : Progress} {line line' : String}
    (h : t.step (φ p.session) line' = (s.step p.session line).map φ f) (sink : Sink) :
    t.progress (p.map φ f) [line'] sink = (s.progress p [line] sink).map φ f := by
  have hsession : (p.map φ f).session = φ p.session := rfl
  rw [progress_singleton, progress_singleton, hsession, h]
  cases hr : (s.step p.session line).request <;>
    simp [ProgressInto.after, ProgressInto.map, Step.map, hr]

/-- A line that has nothing to say compiles to nothing. -/
theorem compile_of_outcome_eq_nil {session : Session} {line : String}
    (h : (s.step session line).outcome = .ok []) : (s.compile session line).1 = .lines [] := by
  change (s.step session line).compiled _ = _
  simp [Step.compiled, h, Directive.renderAll?, Directive.writable]

/-- **Runs of lines that correspond** correspond themselves. -/
theorem runFrom_of_corresponds (hprecision : t.options.precision = s.options.precision)
    {one other : List ScriptLine} (h : List.Forall₂ (Corresponds s t φ f) one other)
    (p : Progress) :
    t.runFrom (p.map φ f) other = ((s.runFrom p one).1.map φ f, (s.runFrom p one).2) := by
  induction h generalizing p with
  | nil =>
    have hsink : (p.map φ f).sink = p.sink := rfl
    rw [runFrom, runFrom, Progress.finish_eq, Progress.finish_eq, hsink]
    cases p.sink.broken <;> rfl
  | cons hfirst _ ih =>
    cases hfirst with
    | unreadable obstacle => rfl
    | @readable line line' hstep hname =>
      have hprogress := progress_of_step_eq (hstep p.session)
      have hcompile : (t.compile (p.map φ f).session line').1 = (s.compile p.session line).1 :=
        compile_of_step_eq hprecision (hstep p.session)
      -- how the run goes on depends on what the line compiles to, and on the sink
      cases hc : (s.compile p.session line).1 with
      | refused e =>
        have hsame : commandName line' = commandName line := hname.resolve_right fun hnone => by
          rw [compile_of_outcome_eq_nil (hnone p.session)] at hc
          cases hc
        rw [s.runFrom_cons_of_refused hc, t.runFrom_cons_of_refused (hcompile.trans hc), hsame,
          ← hprogress]
        rfl
      | unwritable =>
        rw [s.runFrom_cons_of_unwritable hc, t.runFrom_cons_of_unwritable (hcompile.trans hc),
          ← hprogress]
        rfl
      | lines out =>
        obtain ⟨⟨sink, fits⟩, hw⟩ : ∃ written, p.sink.writeLines out = written := ⟨_, rfl⟩
        have hw' : (p.map φ f).sink.writeLines out = (sink, fits) := hw
        cases fits with
        | true =>
          rw [s.runFrom_cons_of_lines hc hw,
            t.runFrom_cons_of_lines (hcompile.trans hc) hw', hprogress, ih]
        | false =>
          have hsame : commandName line' = commandName line := hname.resolve_right fun hnone => by
            -- nothing always fits
            obtain rfl : [] = out :=
              Compiled.lines.inj ((compile_of_outcome_eq_nil (hnone p.session)).symm.trans hc)
            cases hw
          rw [s.runFrom_cons_of_full hc hw, t.runFrom_cons_of_full (hcompile.trans hc) hw', hsame,
            ← hprogress]
          rfl

/-- So runs from the beginning correspond to their end. -/
theorem run_of_corresponds (hprecision : t.options.precision = s.options.precision)
    {one other : List ScriptLine} (h : List.Forall₂ (Corresponds s t φ f) one other)
    (session : Session) (sink : Sink) :
    t.run (φ session) sink other =
      ((s.run session sink one).1.map φ f, (s.run session sink one).2) :=
  runFrom_of_corresponds hprecision h ⟨session, sink, [], 0⟩

/-- Runs of one script correspond if each of its lines comes to the same in the two settings. -/
theorem run_of_step_eq (hprecision : t.options.precision = s.options.precision)
    {script : List ScriptLine}
    (hstep : ∀ line, .ok line ∈ script → ∀ session,
      t.step (φ session) line = (s.step session line).map φ f) (session : Session) (sink : Sink) :
    t.run (φ session) sink script =
      ((s.run session sink script).1.map φ f, (s.run session sink script).2) := by
  have hlines : List.Forall₂ (Corresponds s t φ f) script script := by
    refine List.forall₂_same.mpr fun line hline => ?_
    cases line with
    | error obstacle => exact .unreadable obstacle
    | ok line => exact .readable (hstep line hline) (.inl rfl)
  exact run_of_corresponds hprecision hlines session sink

end Runs

end Setting

end NavScript
