import NavScript.Proofs.Session.Finite
import NavScript.Proofs.Session.Breakdown
import NavScript.Proofs.Session.Position
import NavScript.Proofs.Session.Setting

namespace NavScript

open NavScript.Geometry

/-!
# Lines that crash

No position that a line is computed with is out of range.  What remains is that a number cannot be
written, so that a line crashes for its count of places exactly if it has a number and would compile
with fewer places; and that a text cannot be read as a document at all.

* `Loaded.HasNumbers`, `Setting.WritesNumber` — the lines with a number in them
* `Setting.LoadStrays`, `Setting.Strays` — the lines that come upon an end tag outside of all
  elements
* `Setting.Crashes`, `Setting.crashes_iff` — when a line crashes
-/

/-! ### Numbers -/

/-- What the command says of the drawing has a number in it: for a layer, if there is something in
    the layer to be said. -/
def Loaded.HasNumbers (l : Loaded) : DrawingCommand → Prop
  | .setArena label => ∃ layer, l.drawing.layer label = .ok layer ∧ layer.paths ≠ []
  | .addLabels label => ∃ layer, l.drawing.layer label = .ok layer ∧ layer.texts ≠ []
  | .followTrajectory _ | .samplePerimeter _ | .placeAgent _ | .setFence _ => True

/-- The waypoints of a path with a vertex have a number. -/
theorem Directive.exists_waypoint {path : Path} (h : ∃ a rest, path = a :: rest) :
    ∃ d ∈ path.map Directive.goto, d.numbers ≠ [] := by
  obtain ⟨a, rest, rfl⟩ := h
  exact ⟨.goto a, List.mem_cons_self, List.cons_ne_nil _ _⟩

/-- A vertex has coordinates. -/
theorem Directive.coordinates_ne_nil {path : Path} (h : ∃ a rest, path = a :: rest) :
    Directive.coordinates path ≠ [] := by
  obtain ⟨a, rest, rfl⟩ := h
  exact List.cons_ne_nil _ _

/-- An arena has a number if it has a path, for every path has a vertex. -/
theorem Loaded.numbers_arena_iff {l : Loaded} {label : String} {paths : List Path}
    (h : l.drawing.layerPaths label l.transform = .ok paths) :
    (Directive.arena paths).numbers ≠ [] ↔
      ∃ layer, l.drawing.layer label = .ok layer ∧ layer.paths ≠ [] := by
  obtain ⟨layer, hlayer, hpaths⟩ := exists_of_bind_eq_ok h
  have hread := mapM_eq_ok_iff.mp hpaths
  simp only [hlayer, Except.ok.injEq, exists_eq_left', Directive.numbers]
  -- the paths go with the elements, so that there is a path exactly if there is an element
  generalize layer.paths = elements at hread ⊢
  cases hread with
  | nil => simp
  | cons hp _ => simp [Directive.coordinates_ne_nil (PathElement.exists_cons_of_read hp)]

/-- Labels have a number if there is a label. -/
theorem Loaded.numbers_labels_iff {l : Loaded} {label : String} {labels : List Label}
    (h : l.drawing.layerLabels label l.transform = .ok labels) :
    (∃ d ∈ labels.map fun l => Directive.addLabel l.position l.text, d.numbers ≠ []) ↔
      ∃ layer, l.drawing.layer label = .ok layer ∧ layer.texts ≠ [] := by
  obtain ⟨layer, hlayer, hlabels⟩ := exists_of_bind_eq_ok h
  have hread := mapM_eq_ok_iff.mp hlabels
  simp only [hlayer, Except.ok.injEq, exists_eq_left']
  generalize layer.texts = elements at hread ⊢
  cases hread with
  | nil => simp
  | cons _ _ => simp [Directive.numbers]

namespace Setting

variable (s : Setting)

/-- A command that succeeds has said a number exactly if it has numbers to say. -/
theorem numbers_of_onDrawing {l : Loaded} {command : DrawingCommand} {ds : List Directive}
    (h : s.onDrawing l command = .ok ds) : (∃ d ∈ ds, d.numbers ≠ []) ↔ l.HasNumbers command := by
  cases command with
  | setArena label =>
    obtain ⟨paths, hpaths, rfl⟩ := s.onDrawing_cases h
    simp only [List.mem_singleton, exists_eq_left]
    exact Loaded.numbers_arena_iff hpaths
  | addLabels label =>
    obtain ⟨labels, hlabels, rfl⟩ := s.onDrawing_cases h
    exact Loaded.numbers_labels_iff hlabels
  | followTrajectory id =>
    obtain ⟨path, hpath, rfl⟩ := s.onDrawing_cases h
    exact iff_of_true (Directive.exists_waypoint (Drawing.exists_cons_of_path hpath)) trivial
  | samplePerimeter id =>
    obtain ⟨path, hpath, rfl⟩ := s.onDrawing_cases h
    obtain ⟨-, whole, -, hsample⟩ := s.exists_of_samplePerimeter hpath
    exact iff_of_true (Directive.exists_waypoint (exists_cons_of_sample hsample)) trivial
  | placeAgent id =>
    obtain ⟨path, heading, hpath, -, rfl⟩ := s.onDrawing_cases h
    obtain ⟨a, rest, rfl⟩ := Drawing.exists_cons_of_path hpath
    exact iff_of_true ⟨.placeAgent a heading, List.mem_cons_self, List.cons_ne_nil _ _⟩ trivial
  | setFence id =>
    obtain ⟨path, hpath, rfl⟩ := s.onDrawing_cases h
    exact iff_of_true ⟨.fence id path, List.mem_cons_self,
      Directive.coordinates_ne_nil (Drawing.exists_cons_of_path hpath)⟩ trivial

/-- The line asks for a drawing, or for something with a number in it of the one that is loaded. -/
def WritesNumber (session : Session) (line : String) : Prop :=
  (∃ file scale, AsksToLoad line file scale) ∨
    ∃ l command, session.loaded = some l ∧ Asks line command ∧ l.HasNumbers command

/-- A line that is not refused has said a number exactly if it has one to write. -/
theorem numbers_of_outcome {session : Session} {line : String} {ds : List Directive}
    (h : (s.step session line).outcome = .ok ds) :
    (∃ d ∈ ds, d.numbers ≠ []) ↔ WritesNumber session line := by
  -- the words of the line decide which of the two sides of `WritesNumber` there can be
  rcases s.outcome_cases h with
    ⟨hw, rfl⟩ | ⟨keyword, args, hw, hk, rfl⟩ | ⟨args, file, scale, hw, hc, rfl⟩ |
      ⟨keyword, name, make, a, args, l, hw, hk, hl, hds⟩
  · simp [WritesNumber, AsksToLoad, Asks, hw]
  · obtain ⟨-, hload, hdrawing⟩ := Command.keyword_of_mem_simulatorKeywords keyword hk
    refine iff_of_false (by simp [Directive.numbers]) ?_
    rintro (⟨file, scale, text, rest, hw', -⟩ | ⟨l, command, -, ⟨rest, hw'⟩, -⟩)
    · exact hload (List.cons.inj (hw.symm.trans hw')).1
    · rw [(List.cons.inj (hw.symm.trans hw')).1] at hdrawing
      cases command <;> cases hdrawing
  · obtain ⟨text, rest, rfl, hread, hfinite⟩ := Command.ofWords_eq_loadSvg_iff.mp hc
    exact iff_of_true ⟨_, List.mem_singleton_self _, List.cons_ne_nil _ _⟩
      (.inl ⟨file, scale, text, rest, hw, hread, hfinite⟩)
  · have hasks : Asks line (make a) := asks_of_drawing? hw hk
    rw [s.numbers_of_onDrawing hds]
    constructor
    · exact fun hnumbers => .inr ⟨l, make a, hl, hasks, hnumbers⟩
    · rintro (⟨file, scale, text, rest, hw', -⟩ | ⟨l', command, hl', hasks', hnumbers⟩)
      · rw [(List.cons.inj (hw.symm.trans hw')).1] at hk
        cases hk
      · obtain rfl := Option.some.inj (hl.symm.trans hl')
        rwa [command_eq_of_asks hasks hasks']

/-! ### End tags outside of all elements -/

/-- Loading comes upon an end tag outside of all elements, in the text of the file or in what the
    flattener makes of it; or the flattener itself breaks down. -/
def LoadStrays (files : Files) (file : String) : Prop :=
  let name := Files.join s.baseDir file
  ∃ text, files.readText name = .ok text ∧
    (Markup.parse text = .error .strayEndTag ∨
      ∃ document, Markup.parse text = .ok document ∧
        (s.flattened files name document = .error .strayEndTag ∨
          ∃ text', s.flattened files name document = .ok text' ∧
            Markup.parse text' = .error .strayEndTag))

/-- The line asks for a drawing, there is none yet, and loading comes upon such an end tag. -/
def Strays (session : Session) (line : String) : Prop :=
  session.loaded = none ∧ ∃ file scale, AsksToLoad line file scale ∧ s.LoadStrays session.files file

theorem document_eq_strayEndTag_iff (text : String) :
    Drawing.document text = .error .strayEndTag ↔ Markup.parse text = .error .strayEndTag := by
  unfold Drawing.document
  cases Markup.parse text with
  | ok document => simp [Except.mapError]
  | error fault => cases fault <;> simp [Except.mapError]

/-- Loading breaks down on the text of the file, or on what the flattener makes of it. -/
theorem load_eq_strayEndTag_iff (files : Files) (file : String) (scale : Float) :
    (s.load files file scale).outcome = .error .strayEndTag ↔ s.LoadStrays files file := by
  rw [outcome_load, LoadStrays]
  -- each stage is looked at once the one before it has gone well
  cases files.readText (Files.join s.baseDir file) with
  | error obstacle => simp [Except.mapError, Except.bind, bind]
  | ok text =>
    simp only [Except.mapError, Except.bind, bind, Except.ok.injEq, exists_eq_left',
      ← document_eq_strayEndTag_iff]
    cases hdocument : Drawing.document text with
    | error e =>
      have hparse : ∀ document, Markup.parse text ≠ .ok document := fun document h => by
        simp [Drawing.document, h, Except.mapError] at hdocument
      simp [hparse]
    | ok document =>
      simp only [parse_of_document_eq_ok hdocument, reduceCtorEq, Except.ok.injEq, exists_eq_left',
        false_or]
      cases s.flattened files (Files.join s.baseDir file) document with
      | error e => simp
      | ok text' => cases hdocument' : Drawing.document text' <;> simp [Except.map, hdocument']

/-- A line that breaks down for another reason than its numbers asks for a drawing. -/
theorem asksToLoad_of_strayEndTag {session : Session} {line : String}
    (h : (s.step session line).outcome = .error .strayEndTag) :
    session.loaded = none ∧ ∃ file scale, AsksToLoad line file scale := by
  obtain ⟨hnone, hline⟩ := s.isLoad_of_isBreakdown h rfl
  refine ⟨hnone, ?_⟩
  unfold IsLoad at hline
  unfold step at h
  cases hw : wordsOfLine line with
  | nil => simp [hw] at hline
  | cons keyword args =>
    obtain rfl : keyword = "load-svg" := by simpa [hw] using hline
    rw [hw, stepWords] at h
    cases hc : Command.ofWords "load-svg" args with
    | error e =>
      -- the words are no command, and that is reported
      rw [hc] at h
      have hreported := (reported_ofWords "load-svg" args).of_error e hc
      rw [Except.error.inj h] at hreported
      cases hreported
    | ok command =>
      obtain ⟨file, scale, rfl⟩ := Command.exists_eq_loadSvg hc
      obtain ⟨text, rest, rfl, hread, hfinite⟩ := Command.ofWords_eq_loadSvg_iff.mp hc
      exact ⟨file, scale, text, rest, hw, hread, hfinite⟩

theorem strays_iff (session : Session) (line : String) :
    session.loaded = none ∧ IsLoad line ∧ (s.step session line).outcome = .error .strayEndTag ↔
      s.Strays session line := by
  constructor
  · rintro ⟨-, -, h⟩
    obtain ⟨hnone, file, scale, hasks⟩ := s.asksToLoad_of_strayEndTag h
    rw [s.step_of_asksToLoad hnone hasks, load_eq_strayEndTag_iff] at h
    exact ⟨hnone, file, scale, hasks, h⟩
  · rintro ⟨hnone, file, scale, hasks, h⟩
    rw [s.step_of_asksToLoad hnone hasks, load_eq_strayEndTag_iff]
    exact ⟨hnone, hasks.isLoad, h⟩

/-! ### Lines -/

/-- The program does not get through the line: a position is out of range, or what the line compiles
    to makes it break down. -/
def Crashes (session : Session) (line : String) : Prop :=
  match s.stepAt? session line with
  | none => True
  | some step => (step.compiled s.options.precision).breaksDown = true

/-- Since no position is out of range, a line crashes where it makes a run break down. -/
theorem crashes_iff_breaksDown (session : Session) (line : String) :
    s.Crashes session line ↔ s.BreaksDown session line := by
  rw [Crashes, stepAt?_eq, ← breaksDown_compile_iff]
  rfl

/-- A line that is written with few places has been understood, whatever the count of places is. -/
theorem exists_lines_withPlaces_iff {places : Nat} (h : places ≤ Decimal.placesLimit)
    (session : Session) (line : String) :
    (∃ out, ((s.withPlaces places).compile session line).1 = .lines out) ↔
      ∃ ds, (s.step session line).outcome = .ok ds := by
  simp only [s.compile_withPlaces h]
  cases (s.step session line).outcome <;> simp

/-- **When a line crashes.**  Whatever the line, the drawing and the trajectory are, no position is
    out of range.  A line crashes exactly if more places are asked for than can be written, the line
    compiles in the same session where fewer are asked for, and it has a number in it; or if it
    loads a drawing whose text has an end tag outside of all elements. -/
theorem crashes_iff {places : Nat} (h : places ≤ Decimal.placesLimit) (session : Session)
    (line : String) :
    s.stepAt? session line = some (s.step session line) ∧
      (s.Crashes session line ↔
        (Decimal.placesLimit < s.options.precision ∧
          (∃ out, ((s.withPlaces places).compile session line).1 = .lines out) ∧
          WritesNumber session line) ∨
        s.Strays session line) := by
  refine ⟨s.stepAt?_eq session line, ?_⟩
  rw [crashes_iff_breaksDown, BreaksDown, strays_iff, s.exists_lines_withPlaces_iff h]
  refine or_congr_left (and_congr_right fun _ => ?_)
  constructor
  · rintro ⟨ds, hds, hnumbers⟩
    exact ⟨⟨ds, hds⟩, (s.numbers_of_outcome hds).mp hnumbers⟩
  · rintro ⟨⟨ds, hds⟩, hwrites⟩
    exact ⟨ds, hds, (s.numbers_of_outcome hds).mpr hwrites⟩

/-- With one place more than can be written, the waypoints of a segment cannot be written. -/
theorem crashes_of_waypoints :
    6 ≤ Decimal.placesLimit ∧
      (plain.withPlaces 65536).Crashes segmentSession "follow-trajectory-from-svg-path p" := by
  have hp : 6 ≤ Decimal.placesLimit := by decide
  have hmany : Decimal.placesLimit < (plain.withPlaces 65536).options.precision := by decide
  have hlines : ∃ out, (((plain.withPlaces 65536).withPlaces 6).compile segmentSession
      "follow-trajectory-from-svg-path p").1 = .lines out :=
    ⟨["goto 1.000000 -2.000000", "goto 4.000000 -6.000000"], rfl⟩
  have hasks : Asks "follow-trajectory-from-svg-path p" (.followTrajectory "p") := ⟨[], rfl⟩
  have hwrites : WritesNumber segmentSession "follow-trajectory-from-svg-path p" :=
    .inr ⟨_, .followTrajectory "p", rfl, hasks, trivial⟩
  have hcrash := ((plain.withPlaces 65536).crashes_iff hp segmentSession
    "follow-trajectory-from-svg-path p").2
  exact ⟨hp, hcrash.mpr (.inl ⟨hmany, hlines, hwrites⟩)⟩

/-- With as few places as there are by default, a line crashes all the same if it loads a document
    whose root is closed by an entity. -/
theorem crashes_of_stray_end_tag :
    ¬ Decimal.placesLimit < plain.options.precision ∧
      plain.Crashes (.start strayFiles) "load-svg a.svg 1" := by
  have hfew : ¬ Decimal.placesLimit < plain.options.precision := by decide
  have hasks : AsksToLoad "load-svg a.svg 1" "a.svg" 1.0 := ⟨"1", [], rfl, rfl, rfl⟩
  have hstrays : plain.Strays (.start strayFiles) "load-svg a.svg 1" :=
    ⟨rfl, "a.svg", 1.0, hasks, strayText, readText_strayFiles, .inl parse_strayText⟩
  have hbreaks : plain.BreaksDown (.start strayFiles) "load-svg a.svg 1" :=
    .inr ((plain.strays_iff (.start strayFiles) "load-svg a.svg 1").mpr hstrays)
  have hcrash := plain.crashes_iff_breaksDown (.start strayFiles) "load-svg a.svg 1"
  exact ⟨hfew, hcrash.mpr hbreaks⟩

end Setting

end NavScript
