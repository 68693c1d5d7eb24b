import NavScript.Proofs.Session.Run

namespace NavScript

open NavScript.Geometry

/-!
# Runs that break down

A run either writes its output or is stopped by an error that it reports, with two exceptions.  A
document with an end tag outside of all elements cannot be read at all, and a number cannot be
written with more places than the limit.  The options are accepted without a look at the count of
places, so that the second is met by the first line that has a number to write.

* `Reported` — nothing but errors that are reported
* `Setting.BreaksDown` — a line that a run breaks down on
* `Setting.breaksDown_run_iff` — when a run breaks down
-/

/-! ### Errors that are reported -/

/-- An error, if there is one, is reported instead of ending the program. -/
structure Reported {α : Type} (x : Except Error α) : Prop where
  of_error : ∀ e, x = .error e → e.isBreakdown = false

namespace Reported

variable {α β ε : Type}

/-- A success is reported. -/
theorem ok (a : α) : Reported (.ok a) := ⟨fun _ h => nomatch h⟩

/-- So is an error that ends no program. -/
theorem error {e : Error} (h : e.isBreakdown = false) : Reported (.error e : Except Error α) :=
  ⟨fun _ he => Except.error.inj he ▸ h⟩

/-- Steps one after the other are reported if each of them is. -/
theorem bind {x : Except Error α} {f : α → Except Error β} (hx : Reported x)
    (hf : ∀ a, Reported (f a)) : Reported (x >>= f) := by
  cases x with
  | error e => exact error (hx.of_error e rfl)
  | ok a => exact hf a

/-- What is done with a result does not matter. -/
theorem map {x : Except Error α} {f : α → β} (hx : Reported x) : Reported (x.map f) := by
  cases x with
  | error e => exact error (hx.of_error e rfl)
  | ok a => exact ok (f a)

/-- Errors put into other words are reported if those are. -/
theorem mapError {x : Except ε α} {f : ε → Error} (hf : ∀ e, (f e).isBreakdown = false) :
    Reported (x.mapError f) := by
  cases x with
  | error e => exact error (hf e)
  | ok a => exact ok a

/-- Steps for each of a list are reported if each is. -/
theorem mapM {f : α → Except Error β} (hf : ∀ a, Reported (f a)) (as : List α) :
    Reported (as.mapM f) := by
  induction as with
  | nil => exact ok []
  | cons a as ih =>
    rw [List.mapM_cons]
    exact (hf a).bind fun b => ih.bind fun bs => ok (b :: bs)

end Reported

/-- A missing argument is reported. -/
theorem reported_argument (keyword name : String) (args : List String) :
    Reported (Command.argument keyword name args) := by
  cases args with
  | nil => exact .error rfl
  | cons a rest => exact .ok a

/-- So is a scale that is none. -/
theorem reported_readScale (keyword text : String) : Reported (Command.readScale keyword text) := by
  unfold Command.readScale
  split
  · split
    · exact .ok _
    · exact .error rfl
  · exact .error rfl

/-- So is a line that is no command. -/
theorem reported_ofWords (keyword : String) (args : List String) :
    Reported (Command.ofWords keyword args) := by
  unfold Command.ofWords
  split
  · exact .ok _
  · split
    · exact (reported_argument ..).bind fun _ => (reported_argument ..).bind fun _ =>
        (reported_readScale ..).bind fun _ => .ok _
    · split
      · exact (reported_argument ..).map
      · exact .error rfl

/-- So is a name that nothing has, or more than one. -/
theorem reported_onlyMatch {α : Type} (kind : Kind) (key : String) (found : List α) :
    Reported (onlyMatch kind key found) := by
  unfold onlyMatch
  split
  · exact .ok _
  · exact .error rfl

/-- So is a path that cannot be read. -/
theorem PathElement.reported_read (p : PathElement) (owner : Owner) (t : Transform) :
    Reported (p.read owner t) := by
  unfold PathElement.read
  split
  · exact .error rfl
  · exact .mapError fun _ => rfl

/-- No path of a drawing ends the program. -/
theorem Drawing.reported_path (d : Drawing) (id : String) (t : Transform) :
    Reported (d.path id t) :=
  (reported_onlyMatch ..).bind fun p => p.reported_read _ _

/-- Nor do the paths of a layer. -/
theorem Drawing.reported_layerPaths (d : Drawing) (label : String) (t : Transform) :
    Reported (d.layerPaths label t) :=
  (reported_onlyMatch ..).bind fun layer => .mapM (fun p => p.reported_read _ _) layer.paths

/-- Nor do the labels of a layer. -/
theorem Drawing.reported_layerLabels (d : Drawing) (label : String) (t : Transform) :
    Reported (d.layerLabels label t) :=
  (reported_onlyMatch ..).bind fun layer => .mapM (fun _ => .mapError fun _ => rfl) layer.texts

/-- Nor does a path whose length is of no use. -/
theorem isBreakdown_ofArcLength (id : String) (fault : ArcLengthFault) :
    (Error.ofArcLength id fault).isBreakdown = false := by
  cases fault <;> rfl

namespace Setting

variable (s : Setting)

/-- So a part of a path is given or refused. -/
theorem reported_samplePerimeter (l : Loaded) (id : String) :
    Reported (s.samplePerimeter l id) := by
  have hsample : Reported (l.drawing.path id l.transform >>= fun path =>
      (sample path (s.trajectory.offset (length path))).mapError (.ofArcLength id)) :=
    (Drawing.reported_path ..).bind fun _ => .mapError (isBreakdown_ofArcLength id)
  unfold samplePerimeter
  dsimp only
  split
  · exact Reported.bind (.error rfl) fun _ => hsample
  · exact hsample

/-- So is an agent. -/
theorem reported_placeAgent (l : Loaded) (id : String) : Reported (placeAgent l id) :=
  (Drawing.reported_path ..).bind fun _ =>
    (Reported.mapError (isBreakdown_ofArcLength id)).bind fun _ => .ok _

/-- A command on a drawing reports its errors. -/
theorem reported_onDrawing (l : Loaded) (command : DrawingCommand) :
    Reported (s.onDrawing l command) := by
  cases command with
  | setArena label => exact (Drawing.reported_layerPaths ..).bind fun _ => .ok _
  | addLabels label => exact (Drawing.reported_layerLabels ..).bind fun _ => .ok _
  | followTrajectory id => exact (Drawing.reported_path ..).bind fun _ => .ok _
  | samplePerimeter id => exact (s.reported_samplePerimeter l id).bind fun _ => .ok _
  | placeAgent id => exact reported_placeAgent l id
  | setFence id => exact (Drawing.reported_path ..).bind fun _ => .ok _

/-! ### Lines -/

/-- Only a line that loads a document into a session without one meets an error that ends the
    program. -/
theorem isLoad_of_isBreakdown {session : Session} {line : String} {e : Error}
    (h : (s.step session line).outcome = .error e) (he : e.isBreakdown = true) :
    session.loaded = none ∧ IsLoad line := by
  have hreported : ¬ Reported (s.step session line).outcome := fun hr => by
    simp [hr.of_error e h] at he
  unfold step at hreported
  cases hw : wordsOfLine line with
  | nil => exact absurd (.ok []) (hw ▸ hreported)
  | cons keyword args =>
    rw [hw, stepWords] at hreported
    cases hc : Command.ofWords keyword args with
    | error e' =>
      rw [hc] at hreported
      exact absurd (.error ((reported_ofWords keyword args).of_error e' hc)) hreported
    | ok command =>
      rw [hc] at hreported
      cases command with
      | handOn => exact absurd (.ok _) hreported
      | onDrawing command =>
        cases hl : session.loaded with
        | none =>
          simp only [perform, hl] at hreported
          exact absurd (.error rfl) hreported
        | some l =>
          simp only [perform, hl] at hreported
          exact absurd (s.reported_onDrawing l command) hreported
      | loadSvg file scale =>
        cases hl : session.loaded with
        | some l =>
          simp only [perform, hl] at hreported
          exact absurd (.error rfl) hreported
        | none => exact ⟨rfl, by simp [IsLoad, hw, Command.keyword_of_loadSvg hc]⟩

/-- A line that a run breaks down on: it has a number to write, for which more places are asked than
    can be written, or it loads a document with an end tag outside of all elements. -/
def BreaksDown (session : Session) (line : String) : Prop :=
  (Decimal.placesLimit < s.options.precision ∧
    ∃ ds, (s.step session line).outcome = .ok ds ∧ ∃ d ∈ ds, d.numbers ≠ []) ∨
  (session.loaded = none ∧ IsLoad line ∧ (s.step session line).outcome = .error .strayEndTag)

end Setting

/-- What is written has too many places exactly if there is a number. -/
theorem Directive.renderAll?_eq_none_iff (places : Nat) (ds : List Directive) :
    Directive.renderAll? places ds = none ↔
      Decimal.placesLimit < places ∧ ∃ d ∈ ds, d.numbers ≠ [] := by
  simp [Directive.renderAll?, Directive.writable]

/-- The output of a step cannot be written exactly if there is a number in it and the places are too
    many. -/
theorem Step.compiled_eq_unwritable_iff (places : Nat) (step : Step) :
    step.compiled places = .unwritable ↔
      Decimal.placesLimit < places ∧ ∃ ds, step.outcome = .ok ds ∧ ∃ d ∈ ds, d.numbers ≠ [] := by
  unfold Step.compiled
  cases step.outcome with
  | error e => simp
  | ok ds =>
    cases h : Directive.renderAll? places ds with
    | none => simpa [h] using (Directive.renderAll?_eq_none_iff places ds).mp h
    | some lines =>
      have hne := mt (Directive.renderAll?_eq_none_iff places ds).mpr (by simp [h])
      simpa [h] using hne

/-! ### Runs -/

/-- What a line compiles to makes a run break down. -/
def Compiled.breaksDown : Compiled → Bool
  | .lines _ => false
  | .refused e => e.isBreakdown
  | .unwritable => true

/-- One error alone ends the program. -/
theorem Error.isBreakdown_iff (e : Error) : e.isBreakdown = true ↔ e = .strayEndTag := by
  cases e <;> simp [isBreakdown]

namespace Setting

variable (s : Setting)

/-- What a line compiles to breaks the run down exactly if a number of it cannot be written or an
    end tag of its drawing has no beginning. -/
theorem breaksDown_compile_iff (session : Session) (line : String) :
    (s.compile session line).1.breaksDown = true ↔ s.BreaksDown session line := by
  change ((s.step session line).compiled s.options.precision).breaksDown = true ↔ _
  cases hc : (s.step session line).compiled s.options.precision with
  | lines out =>
    obtain ⟨ds, hds, -⟩ := Step.exists_of_compiled_eq_lines hc
    have hne := mt (Step.compiled_eq_unwritable_iff s.options.precision (s.step session line)).mpr
      (by simp [hc])
    simp only [Compiled.breaksDown, BreaksDown, hds, reduceCtorEq, and_false, or_false, false_iff]
    simpa [hds] using hne
  | refused e =>
    have he := (Step.compiled_eq_refused_iff _ _ e).mp hc
    simp only [Compiled.breaksDown, BreaksDown, he, reduceCtorEq, false_and, exists_false,
      and_false, false_or, Except.error.injEq, Error.isBreakdown_iff]
    constructor
    · rintro rfl
      obtain ⟨hnone, hline⟩ := s.isLoad_of_isBreakdown he rfl
      exact ⟨hnone, hline, rfl⟩
    · exact fun h => h.2.2
  | unwritable =>
    have hnumbers := (Step.compiled_eq_unwritable_iff _ _).mp hc
    simp only [Compiled.breaksDown, true_iff]
    exact .inl hnumbers

/-- The lines before the one that a run breaks down on compile, to what fits into the sink. -/
theorem breaksDown_runFrom_iff (p : Progress) (script : List ScriptLine) :
    (s.runFrom p script).2.breaksDown = true ↔
      ∃ (before : List String) (outs : List (List String)) (last : Sink) (line : String)
          (behind : List ScriptLine), script = before.map .ok ++ .ok line :: behind ∧
        s.replies p.session before = outs.map .lines ∧
        p.sink.writeLines outs.flatten = (last, true) ∧
        s.BreaksDown (s.leave p.session before) line := by
  constructor
  · intro h
    induction script generalizing p with
    | nil =>
      rw [runFrom, Progress.finish_eq] at h
      split at h <;> cases h
    | cons first script ih =>
      cases first with
      | error obstacle => cases h
      | ok line =>
        cases hc : (s.compile p.session line).1 with
        | lines out =>
          cases hw : p.sink.writeLines out with
          | mk sink fits =>
            cases fits with
            | true =>
              rw [s.runFrom_cons_of_lines hc hw] at h
              obtain ⟨before, outs, last, line', behind, rfl, hreplies, hlast, hline⟩ := ih _ h
              refine ⟨line :: before, out :: outs, last, line', behind, rfl, ?_, ?_, hline⟩
              · rw [replies, hc]
                exact congrArg _ hreplies
              · rw [List.flatten_cons]
                exact Writer.writeLines_append_eq_true_iff.mpr ⟨sink, hw, hlast⟩
            | false =>
              have hcompile : s.compile p.session line = (.lines out, s.step p.session line) :=
                Prod.ext hc rfl
              rw [runFrom, hcompile] at h
              simp only [ProgressInto.after, hw] at h
              cases h
        | refused e =>
          rw [s.runFrom_cons_of_refused hc] at h
          refine ⟨[], [], p.sink, line, script, rfl, rfl, rfl, ?_⟩
          exact (s.breaksDown_compile_iff p.session line).mp (by rw [hc]; exact h)
        | unwritable =>
          refine ⟨[], [], p.sink, line, script, rfl, rfl, rfl, ?_⟩
          exact (s.breaksDown_compile_iff p.session line).mp (by rw [hc]; rfl)
  · rintro ⟨before, outs, last, line, behind, rfl, hreplies, hlast, hline⟩
    rw [s.runFrom_append hreplies hlast]
    have hbreak := (s.breaksDown_compile_iff _ _).mpr hline
    cases hc : (s.compile (s.leave p.session before) line).1 with
    | lines out =>
      rw [hc] at hbreak
      cases hbreak
    | refused e =>
      rw [hc] at hbreak
      rw [s.runFrom_cons_of_refused (p := s.progress p before last) hc]
      exact hbreak
    | unwritable =>
      rw [runFrom]
      simp only [progress, hc]
      rfl

/-- **When a run breaks down.**  A run that comes to a line that it cannot report an error for has
    compiled the lines before it and has written what they compile to.  Such a line loads a document
    with an end tag outside of all elements, or it has a number to write while the options, which
    are accepted with any count of places, ask for more places than can be written. -/
theorem breaksDown_run_iff (session : Session) (sink : Sink) (script : List ScriptLine) :
    (s.run session sink script).2.breaksDown = true ↔
      ∃ (before : List String) (outs : List (List String)) (last : Sink) (line : String)
          (behind : List ScriptLine), script = before.map .ok ++ .ok line :: behind ∧
        s.replies session before = outs.map .lines ∧
        sink.writeLines outs.flatten = (last, true) ∧
        s.BreaksDown (s.leave session before) line :=
  s.breaksDown_runFrom_iff ⟨session, sink, [], 0⟩ script

/-- A count of places beyond the limit is accepted, and loading a drawing breaks the run down. -/
theorem run_of_too_many_places :
    ∃ options, Options.ofText "\x7b\"precision\": 65536\x7d" = .ok options ∧
      (Setting.run ⟨options, "", .single, .asIs⟩ emptyDrawing .unlimited
        [.ok "load-svg a.svg 1"]).2 = .unwritable :=
  ⟨_, rfl, rfl⟩

end Setting

end NavScript
