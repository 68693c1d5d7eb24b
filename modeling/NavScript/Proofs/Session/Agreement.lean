import NavScript.Proofs.Places
import NavScript.Proofs.Session.Correspondence
import NavScript.Proofs.Session.Perimeter
import NavScript.Proofs.Session.Room
import NavScript.Proofs.Session.Setting

namespace NavScript

open NavScript.Geometry

/-!
# Runs that agree

Each part of the setting has its own place in what a run comes to.  The run of the batch shows in
the lines that sample a perimeter, the count of places in how numbers are written, and the options
of the flattener in what it is asked for.  In all other respects two runs agree.

* `Setting.run_congr` — runs whose lines come to the same
* `Setting.replies_withPlaces`, `Setting.run_withPlaces` — runs with two counts of places
* `Setting.step_forRun`, `Setting.step_withFlattening` — other runs of the batch, other options of
  the flattener
* `Setting.run_noninterference` — what each of the three leaves as it is
-/

/-- The progress with other requests in place of those that have been made. -/
def ProgressInto.mapRequests (f : Request → Request) (p : Progress) : Progress :=
  { p with requests := p.requests.map f }

@[simp] theorem ProgressInto.mapRequests_id (p : Progress) : p.mapRequests id = p := by
  simp [mapRequests]

namespace Setting

/-! ### Lines that come to the same -/

section Congr

variable {s t : Setting} {f : Request → Request}

/-- Two runs agree, but for what is asked of the flattener, if each of their lines comes to the
    same. -/
theorem run_congr (hprecision : t.options.precision = s.options.precision)
    {script : List ScriptLine}
    (hstep : ∀ line, .ok line ∈ script → ∀ session,
      t.step session line = (s.step session line).mapRequest f) (session : Session) (sink : Sink) :
    t.run session sink script =
      ((s.run session sink script).1.mapRequests f, (s.run session sink script).2) :=
  run_of_step_eq hprecision hstep session sink

end Congr

variable (s : Setting)

/-! ### Another run of the batch, other options of the flattener -/

/-- The run of the batch does not show in a line that does not sample a perimeter. -/
theorem step_forRun (t : Trajectory) {line : String}
    (hline : (wordsOfLine line).head? ≠ some "sample-perimeter-from-svg-path") (session : Session) :
    (s.forRun t).step session line = s.step session line := by
  -- of the commands on a drawing, one looks at the trajectory
  refine step_eq_of_same rfl rfl rfl (fun _ _ => rfl) fun l command _ hasks => ?_
  cases command with
  | samplePerimeter id =>
    obtain ⟨rest, hw⟩ := hasks
    exact absurd (congrArg List.head? hw) hline
  | _ => rfl

/-- The setting with other options for the flattener. -/
def withFlattening (program : String) (args : List String) (flatness : Float) : Setting :=
  { s with options :=
      { s.options with flattener := program, flattenerArgs := args, flatness := flatness } }

/-- Where drawings are taken as they are, the options of the flattener show in what it is asked for,
    and in nothing else. -/
theorem step_withFlattening (hasis : s.flattener = .asIs) (program : String) (args : List String)
    (flatness : Float) (session : Session) (line : String) :
    (s.withFlattening program args flatness).step session line =
      (s.step session line).mapRequest fun r => { r with flatness } := by
  have hrequest : ∀ files file, (s.withFlattening program args flatness).request files file =
      (s.request files file).map fun r => { r with flatness } := fun files file => by
    have hdir : (s.withFlattening program args flatness).baseDir = s.baseDir := rfl
    rw [request_eq, request_eq, hdir]
    cases files.readText (Files.join s.baseDir file) with
    | error obstacle => rfl
    | ok text =>
      change (Drawing.document text).map _ = ((Drawing.document text).map _).map _
      cases Drawing.document text <;> rfl
  -- the answer is the file that the request names, whatever else is in the request
  have hanswer : ∀ files r,
      (s.withFlattening program args flatness).flattener files { r with flatness } =
      s.flattener files r := fun files r => by
    change s.flattener files { r with flatness } = s.flattener files r
    rw [hasis]
    rfl
  refine step_congr (fun file scale _ _ => ?_) fun l command _ _ => by cases command <;> rfl
  exact load_congr (hrequest session.files file) (fun r _ => hanswer session.files r) rfl scale

/-! ### Another count of places -/

section Places

variable {s} {p q : Nat}

/-- The count of places does not matter for the session that lines leave, -/
theorem leave_withPlaces (session : Session) (lines : List String) :
    (s.withPlaces p).leave session lines = s.leave session lines := by
  induction lines generalizing session with
  | nil => rfl
  | cons line rest ih => rw [leave_cons, leave_cons, step_withPlaces, ih]

/-- nor for what they ask of the flattener, -/
theorem requests_withPlaces (session : Session) (lines : List String) :
    (s.withPlaces p).requests session lines = s.requests session lines := by
  induction lines generalizing session with
  | nil => rfl
  | cons line rest ih => rw [requests, requests, step_withPlaces, ih]

/-- nor for how far a run comes over lines that compile. -/
theorem progress_withPlaces (progress : Progress) (lines : List String) (sink : Sink) :
    (s.withPlaces p).progress progress lines sink = s.progress progress lines sink := by
  rw [Setting.progress, leave_withPlaces, requests_withPlaces]
  rfl

/-- Lines that compile with one count of places compile with another, each to as many lines with the
    same tokens. -/
theorem replies_withPlaces (hp : p ≤ Decimal.placesLimit) (hq : q ≤ Decimal.placesLimit)
    {session : Session} {lines : List String} {outs : List (List String)}
    (h : (s.withPlaces p).replies session lines = outs.map .lines) :
    ∃ outs', (s.withPlaces q).replies session lines = outs'.map .lines ∧
      List.Forall₂ (List.Forall₂ (SameTokens p q)) outs outs' := by
  induction lines generalizing session outs with
  | nil =>
    obtain rfl : outs = [] := by simpa [replies] using h
    exact ⟨[], rfl, .nil⟩
  | cons line rest ih =>
    cases outs with
    | nil => simp [replies] at h
    | cons out outs =>
      obtain ⟨hline, hrest⟩ := List.cons.inj h
      rw [step_withPlaces] at hrest
      obtain ⟨outs', houts', htokens⟩ := ih hrest
      -- the line has been understood, and its directives are written once more
      rw [compile_withPlaces s hp] at hline
      cases ho : (s.step session line).outcome with
      | error e =>
        rw [ho] at hline
        cases hline
      | ok ds =>
        rw [ho] at hline
        obtain rfl : ds.map (Directive.render p) = out := Compiled.lines.inj hline
        refine ⟨ds.map (Directive.render q) :: outs', ?_, .cons ?_ htokens⟩
        · rw [replies, compile_withPlaces s hq, ho, step_withPlaces, houts']
          rfl
        · rw [List.forall₂_map_left_iff, List.forall₂_map_right_iff, List.forall₂_same]
          exact fun d _ => d.sameTokens_render p q

/-- Where a run stops with one count of places it stops with another, for the same reason, and
    nothing is written any more. -/
theorem runFrom_withPlaces_of_stops (hp : p ≤ Decimal.placesLimit) (hq : q ≤ Decimal.placesLimit)
    (r : Progress) {rest : List ScriptLine} (h : (s.withPlaces p).Stops r.session rest)
    {sink : Sink} (hbroken : sink.broken = r.sink.broken) :
    (s.withPlaces q).runFrom { r with sink } rest =
      ({ ((s.withPlaces p).runFrom r rest).1 with sink }, ((s.withPlaces p).runFrom r rest).2) := by
  rcases h with rfl | ⟨obstacle, behind, rfl⟩ | ⟨line, behind, rfl, hne⟩
  · rw [runFrom, runFrom, Progress.finish_eq, Progress.finish_eq, hbroken]
    cases r.sink.broken <;> rfl
  · rfl
  · rw [compile_withPlaces s hp] at hne
    -- with few places all that has been understood is written, so the line has been refused
    cases ho : (s.step r.session line).outcome with
    | ok ds => exact absurd (congrArg _ ho) (hne _)
    | error e =>
      have hcp : ((s.withPlaces p).compile r.session line).1 = .refused e := by
        rw [compile_withPlaces s hp, ho, Compiled.of_error]
      have hcq : ((s.withPlaces q).compile { r with sink }.session line).1 = .refused e := by
        rw [compile_withPlaces s hq, ho, Compiled.of_error]
      rw [runFrom_cons_of_refused _ hcp, runFrom_cons_of_refused _ hcq, progress_withPlaces,
        progress_withPlaces]
      rfl

/-- A run that has come to where it stops has written what the lines before compile to. -/
theorem run_withPlaces (hp : p ≤ Decimal.placesLimit) {session : Session}
    {script rest : List ScriptLine} {before : List String} {outs : List (List String)}
    (hscript : script = before.map .ok ++ rest)
    (hreplies : (s.withPlaces p).replies session before = outs.map .lines)
    (hstops : (s.withPlaces q).Stops (s.leave session before) rest) (hq : q ≤ Decimal.placesLimit)
    (broken : Bool) (written : ByteArray) :
    let sink : Sink := ⟨none, broken, written ++ (outputText outs.flatten).toUTF8⟩
    let start : Progress := ⟨session, ⟨none, broken, written⟩, [], 0⟩
    let run := (s.withPlaces q).runFrom (s.progress start before start.sink) rest
    (s.withPlaces p).run session ⟨none, broken, written⟩ script = ({ run.1 with sink }, run.2) := by
  intro sink start run
  have hwrite := Sink.writeLines_of_room_eq_none ⟨none, broken, written⟩ rfl outs.flatten
  rw [run_eq_runFrom hscript hreplies hwrite, progress_withPlaces]
  exact runFrom_withPlaces_of_stops hq hp (s.progress start before start.sink) hstops rfl

end Places

/-- **What the parts of the setting leave as they are.**  Compare runs of one script from one
    session.  Runs with two trajectories are the same if no line samples a perimeter.  Runs with two
    counts of places, into a sink that takes everything, stop at the same line for the same reason,
    with the same session and the same requests to the flattener, and what lines compile to up to
    there is, line by line, the same but for the places of numbers.  Where drawings are taken as
    they are, runs with other options for the flattener write the same and end in the same way, with
    the same session. -/
theorem run_noninterference (session : Session) (script : List ScriptLine) :
    (∀ t sink, (∀ line, .ok line ∈ script →
        (wordsOfLine line).head? ≠ some "sample-perimeter-from-svg-path") →
      (s.forRun t).run session sink script = s.run session sink script) ∧
    (∀ p q broken written, p ≤ Decimal.placesLimit → q ≤ Decimal.placesLimit →
      let one := (s.withPlaces p).run session ⟨none, broken, written⟩ script
      let other := (s.withPlaces q).run session ⟨none, broken, written⟩ script
      other.1.session = one.1.session ∧ other.1.requests = one.1.requests ∧
        other.1.line = one.1.line ∧ other.2 = one.2 ∧
        ∃ before outs outs' rest, script = before.map .ok ++ rest ∧
          (s.withPlaces p).Stops (s.leave session before) rest ∧
          (s.withPlaces p).replies session before = outs.map .lines ∧
          (s.withPlaces q).replies session before = outs'.map .lines ∧
          List.Forall₂ (List.Forall₂ (SameTokens p q)) outs outs' ∧
          one.1.sink.written = written ++ (outputText outs.flatten).toUTF8 ∧
          other.1.sink.written = written ++ (outputText outs'.flatten).toUTF8) ∧
    (s.flattener = .asIs → ∀ program args flatness sink,
      let one := s.run session sink script
      let other := (s.withFlattening program args flatness).run session sink script
      other.1.session = one.1.session ∧ other.1.sink = one.1.sink ∧ other.1.line = one.1.line ∧
        other.2 = one.2) := by
  refine ⟨?_, ?_, ?_⟩
  · intro t sink hscript
    have hstep : ∀ line, .ok line ∈ script → ∀ session,
        (s.forRun t).step session line = (s.step session line).mapRequest id := by
      intro line hline session
      rw [Step.mapRequest_id, s.step_forRun t (hscript line hline)]
    have hrun := run_congr (s := s) (t := s.forRun t) rfl hstep session sink
    rwa [ProgressInto.mapRequests_id] at hrun
  · intro p q broken written hp hq one other
    obtain ⟨before, outs, rest, hscript, hreplies, hstops⟩ :=
      exists_compiled_prefix (s.withPlaces p) session script
    obtain ⟨outs', hreplies', htokens⟩ := replies_withPlaces hp hq hreplies
    rw [leave_withPlaces] at hstops
    -- both runs come to the lines that they stop in front of, and stop there as the first does
    have hone : one = _ := run_withPlaces hp hscript hreplies hstops hp broken written
    have hother : other = _ := run_withPlaces hq hscript hreplies' hstops hp broken written
    refine ⟨?_, ?_, ?_, ?_, before, outs, outs', rest, hscript, hstops, hreplies,
      hreplies', htokens, by rw [hone], by rw [hother]⟩
    all_goals rw [hone, hother]
  · intro hasis program args flatness sink one other
    have hrun : other = _ := run_congr (s := s) (t := s.withFlattening program args flatness) rfl
      (fun line _ session => s.step_withFlattening hasis program args flatness session line) session
      sink
    rw [hrun]
    exact ⟨rfl, rfl, rfl, rfl⟩

/-- A path is followed, an agent placed at its start, and a line refused: for another run of the
    batch, with fewer places and more of them, and with another program that is never asked. -/
theorem noninterference_of_segment :
    let script : List ScriptLine := [.ok "follow-trajectory-from-svg-path p",
      .ok "place-agent-at-start-of-svg-path p", .ok "bogus"]
    plain.flattener = .asIs ∧
      (plain.forRun ⟨2, 3⟩).run segmentSession .unlimited script =
        plain.run segmentSession .unlimited script ∧
      ((plain.withPlaces 3).run segmentSession .unlimited script).1.line =
        ((plain.withPlaces 1).run segmentSession .unlimited script).1.line ∧
      ((plain.withPlaces 3).run segmentSession .unlimited script).2 =
        ((plain.withPlaces 1).run segmentSession .unlimited script).2 ∧
      ((plain.withFlattening "flatten" ["-v"] 2.0).run segmentSession .unlimited script).1.sink =
        (plain.run segmentSession .unlimited script).1.sink := by
  intro script
  obtain ⟨hruns, hplaces, hflattening⟩ := plain.run_noninterference segmentSession script
  have hscript : ∀ line, .ok line ∈ script →
      (wordsOfLine line).head? ≠ some "sample-perimeter-from-svg-path" := by
    intro line hline
    have hlines : line = "follow-trajectory-from-svg-path p" ∨
        line = "place-agent-at-start-of-svg-path p" ∨ line = "bogus" := by
      simpa [script] using hline
    rcases hlines with rfl | rfl | rfl <;> decide
  obtain ⟨-, -, hline, hending, -⟩ := hplaces 1 3 false .empty (by decide) (by decide)
  obtain ⟨-, hsink, -, -⟩ := hflattening rfl "flatten" ["-v"] 2.0 .unlimited
  exact ⟨rfl, hruns ⟨2, 3⟩ .unlimited hscript, hline, hending, hsink⟩

end Setting

end NavScript
