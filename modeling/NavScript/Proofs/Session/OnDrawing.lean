import NavScript.Proofs.PathData.Limits
import NavScript.Proofs.Directive
import NavScript.Proofs.Session.Transcript

namespace NavScript

open NavScript.Geometry

/-!
# Lines that work on the drawing

Six keywords work on the drawing that has been loaded, each with the label or identifier behind it.
What such a line compiles to depends on nothing but the drawing and the setting, and of the four
commands that name a path, three say the same of it in their own words.

* `DrawingCommand.keyword`, `DrawingCommand.argument`, `Asks` — the lines that ask for a command
* `Setting.compile_of_asks` — what such a line compiles to once a drawing is loaded
* `Drawing.exists_cons_of_path` — a path has a vertex
* `Setting.path_commands_agree` — waypoints, fence and agent of one path
-/

/-! ### The words of a command -/

namespace DrawingCommand

/-- The keyword that asks for a command. -/
def keyword : DrawingCommand → String
  | setArena _ => "set-arena-from-svg-layer"
  | addLabels _ => "add-labels-from-svg-layer"
  | followTrajectory _ => "follow-trajectory-from-svg-path"
  | samplePerimeter _ => "sample-perimeter-from-svg-path"
  | placeAgent _ => "place-agent-at-start-of-svg-path"
  | setFence _ => "set-fence-from-svg-path"

/-- The label or identifier behind the keyword. -/
def argument : DrawingCommand → String
  | setArena label | addLabels label => label
  | followTrajectory id | samplePerimeter id | placeAgent id | setFence id => id

end DrawingCommand

/-- The line asks for the command.  Words behind the argument are ignored. -/
def Asks (line : String) (command : DrawingCommand) : Prop :=
  ∃ rest, Setting.wordsOfLine line = command.keyword :: command.argument :: rest

/-- The keyword of a command and its argument are read as the command, whatever follows them. -/
theorem Command.ofWords_keyword (command : DrawingCommand) (rest : List String) :
    Command.ofWords command.keyword (command.argument :: rest) = .ok (.onDrawing command) := by
  cases command <;> rfl

/-- A line asks for one command. -/
theorem command_eq_of_asks {line : String} {a b : DrawingCommand} (ha : Asks line a)
    (hb : Asks line b) : a = b := by
  obtain ⟨rest, ha⟩ := ha
  obtain ⟨rest', hb⟩ := hb
  have hc := Command.ofWords_keyword a rest
  obtain ⟨hkeyword, hargs⟩ := List.cons.inj (ha.symm.trans hb)
  rw [hkeyword, hargs, Command.ofWords_keyword b rest'] at hc
  exact (Command.onDrawing.inj (Except.ok.inj hc)).symm

/-! ### What such a line compiles to -/

/-- What directives are written as, or why there are none, where the places are not too many. -/
def Compiled.of (places : Nat) : Except Error (List Directive) → Compiled
  | .error e => .refused e
  | .ok ds => .lines (ds.map (Directive.render places))

@[simp] theorem Compiled.of_error (places : Nat) (e : Error) :
    Compiled.of places (.error e) = .refused e := rfl

@[simp] theorem Compiled.of_ok (places : Nat) (ds : List Directive) :
    Compiled.of places (.ok ds) = .lines (ds.map (Directive.render places)) := rfl

/-- With places that can be written, a step compiles to what its outcome does. -/
theorem Step.compiled_eq_of {places : Nat} (h : places ≤ Decimal.placesLimit) (step : Step) :
    step.compiled places = .of places step.outcome := by
  cases ho : step.outcome with
  | error e => exact (step.compiled_eq_refused_iff places e).mpr ho
  | ok ds => exact (step.compiled_eq_lines_iff h _).mpr ⟨ds, ho, rfl⟩

namespace Setting

variable (s : Setting) {session : Session} {l : Loaded} {line : String} {command : DrawingCommand}

/-- A line that asks for something of a drawing gets it where one is loaded. -/
theorem outcome_of_asks (hl : session.loaded = some l) (h : Asks line command) :
    (s.step session line).outcome = s.onDrawing l command := by
  obtain ⟨rest, hw⟩ := h
  simp only [step, hw, stepWords, Command.ofWords_keyword, perform, hl]
  rfl

/-- And it compiles to that. -/
theorem compile_of_asks (hp : s.options.precision ≤ Decimal.placesLimit)
    (hl : session.loaded = some l) (h : Asks line command) :
    (s.compile session line).1 = .of s.options.precision (s.onDrawing l command) := by
  change (s.step session line).compiled s.options.precision = _
  rw [Step.compiled_eq_of hp, s.outcome_of_asks hl h]

end Setting

/-! ### Fences -/

/-- A fence is one polygon. -/
theorem Directive.render_fence_eq_polygon (places : Nat) (name : String) (ring : Path) :
    (fence name ring).render places =
      "set-fence " ++ name ++ " MULTIPOLYGON(" ++ polygon places ring ++ ")" := by
  rw [render_fence, multipolygon_eq, List.map_singleton, String.intercalate_singleton]
  apply String.toList_injective
  simp

/-- The polygon has the pairs of its path. -/
theorem Directive.render_fence_eq_pairs (places : Nat) (name : String) (ring : Path) :
    (fence name ring).render places =
      "set-fence " ++ name ++ " MULTIPOLYGON(((" ++ ",".intercalate (ring.map (pair places)) ++
        ")))" := by
  rw [render_fence_eq_polygon, polygon]
  apply String.toList_injective
  simp

/-! ### Paths of a drawing -/

/-- A path that can be read has a vertex. -/
theorem PathElement.exists_cons_of_read {p : PathElement} {owner : Owner} {t : Transform}
    {path : Path} (h : p.read owner t = .ok path) : ∃ a rest, path = a :: rest := by
  unfold PathElement.read at h
  split at h
  · cases h
  · obtain ⟨pairs, hpairs, hlength⟩ := PathData.length_eq_of_path (of_mapError_eq_ok h)
    exact List.exists_cons_of_length_pos (by omega)

/-- A path that is found has a vertex. -/
theorem Drawing.exists_cons_of_path {d : Drawing} {id : String} {t : Transform} {path : Path}
    (h : d.path id t = .ok path) : ∃ a rest, path = a :: rest := by
  obtain ⟨p, -, h⟩ := exists_of_bind_eq_ok h
  exact PathElement.exists_cons_of_read h

namespace Setting

variable (s : Setting) (l : Loaded) {id : String}

/-- A path that cannot be had is missing for all commands in the same way. -/
theorem onDrawing_of_path_eq_error {e : Error} (h : l.drawing.path id l.transform = .error e) :
    s.onDrawing l (.followTrajectory id) = .error e ∧ s.onDrawing l (.setFence id) = .error e ∧
      s.onDrawing l (.placeAgent id) = .error e := by
  simp only [onDrawing, placeAgent, h]
  exact ⟨rfl, rfl, rfl⟩

/-- What the commands make of a path. -/
theorem onDrawing_of_path_eq_ok {path : Path} (h : l.drawing.path id l.transform = .ok path) :
    s.onDrawing l (.followTrajectory id) = .ok (path.map .goto) ∧
      s.onDrawing l (.setFence id) = .ok [.fence id path] ∧
      s.onDrawing l (.placeAgent id) =
        ((heading path).mapError (.ofArcLength id)).map fun heading =>
          path.head?.toList.map (.placeAgent · heading) := by
  simp only [onDrawing, placeAgent, h]
  exact ⟨rfl, rfl, rfl⟩

/-! ### Three commands on one path -/

/-- **Waypoints, fence and agent agree.**  Once a drawing is loaded, either a path is refused with
    one and the same error as waypoints, as a fence and as the start of an agent; or it has
    vertices, its waypoints and its fence write the same pairs of numbers, and the agent is placed
    at the first of them, looking along the first segment, unless that vertex is the only one. -/
theorem path_commands_agree (hp : s.options.precision ≤ Decimal.placesLimit) {session : Session}
    (hl : session.loaded = some l) {follow fence place : String}
    (hfollow : Asks follow (.followTrajectory id)) (hfence : Asks fence (.setFence id))
    (hplace : Asks place (.placeAgent id)) :
    (∃ e, l.drawing.path id l.transform = .error e ∧
      (s.compile session follow).1 = .refused e ∧ (s.compile session fence).1 = .refused e ∧
      (s.compile session place).1 = .refused e) ∨
    ∃ a rest, l.drawing.path id l.transform = .ok (a :: rest) ∧
      let pairs := (a :: rest).map (pair s.options.precision)
      (s.compile session follow).1 = .lines (pairs.map ("goto " ++ ·)) ∧
      (s.compile session fence).1 =
        .lines ["set-fence " ++ id ++ " MULTIPOLYGON(((" ++ ",".intercalate pairs ++ ")))"] ∧
      (s.compile session place).1 =
        match rest with
        | [] => .refused (.degeneratePath id 1)
        | b :: _ => .lines ["place-agent " ++ pair s.options.precision a ++ " " ++
            Decimal.fixed s.options.precision (Float.atan2 (b.y - a.y) (b.x - a.x))] := by
  rw [s.compile_of_asks hp hl hfollow, s.compile_of_asks hp hl hfence,
    s.compile_of_asks hp hl hplace]
  cases hpath : l.drawing.path id l.transform with
  | error e =>
    obtain ⟨hgoto, hring, hagent⟩ := s.onDrawing_of_path_eq_error l hpath
    rw [hgoto, hring, hagent]
    exact .inl ⟨e, rfl, rfl, rfl, rfl⟩
  | ok path =>
    obtain ⟨a, rest, rfl⟩ := Drawing.exists_cons_of_path hpath
    obtain ⟨hgoto, hring, hagent⟩ := s.onDrawing_of_path_eq_ok l hpath
    rw [hgoto, hring, hagent]
    refine .inr ⟨a, rest, rfl, ?_, ?_, ?_⟩
    · rw [Compiled.of_ok, List.map_map, List.map_map]
      rfl
    · rw [Compiled.of_ok, List.map_singleton, Directive.render_fence_eq_pairs]
    · cases rest with
      | nil => rfl
      | cons b rest => rfl

/-- A session that has loaded a drawing with one path, which is a segment. -/
def segmentSession : Session :=
  ⟨⟨[], []⟩, some ⟨⟨[], [⟨some "p", some "M 1 2 4 6"⟩]⟩, ⟨1.0⟩⟩⟩

set_option maxRecDepth 4096 in
/-- An agent at the start of the segment looks along all of it. -/
theorem path_commands_of_segment :
    plain.options.precision ≤ Decimal.placesLimit ∧
      Asks "follow-trajectory-from-svg-path p" (.followTrajectory "p") ∧
      Asks "set-fence-from-svg-path p" (.setFence "p") ∧
      Asks "place-agent-at-start-of-svg-path p" (.placeAgent "p") ∧
      (plain.compile segmentSession "follow-trajectory-from-svg-path p").1 =
        .lines ["goto 1.000000 -2.000000", "goto 4.000000 -6.000000"] ∧
      (plain.compile segmentSession "set-fence-from-svg-path p").1 =
        .lines ["set-fence p MULTIPOLYGON(((1.000000 -2.000000,4.000000 -6.000000)))"] ∧
      (plain.compile segmentSession "place-agent-at-start-of-svg-path p").1 =
        .lines ["place-agent 1.000000 -2.000000 " ++
          Decimal.fixed 6 (Float.atan2 (-6.0 - -2.0) (4.0 - 1.0))] := by
  have hp : plain.options.precision ≤ Decimal.placesLimit := by decide
  have hpath : (⟨[], [⟨some "p", some "M 1 2 4 6"⟩]⟩ : Drawing).path "p" ⟨1.0⟩ =
      .ok [⟨1.0, -2.0⟩, ⟨4.0, -6.0⟩] := rfl
  have hfollow : Asks "follow-trajectory-from-svg-path p" (.followTrajectory "p") := ⟨[], rfl⟩
  have hfence : Asks "set-fence-from-svg-path p" (.setFence "p") := ⟨[], rfl⟩
  have hplace : Asks "place-agent-at-start-of-svg-path p" (.placeAgent "p") := ⟨[], rfl⟩
  have hl : segmentSession.loaded = some ⟨⟨[], [⟨some "p", some "M 1 2 4 6"⟩]⟩, ⟨1.0⟩⟩ := rfl
  rcases plain.path_commands_agree _ hp hl hfollow hfence hplace with
    ⟨e, he, -⟩ | ⟨a, rest, hok, hgotos, hring, hagent⟩
  · cases hpath.symm.trans he
  · obtain ⟨rfl, rfl⟩ := List.cons.inj (Except.ok.inj (hpath.symm.trans hok))
    exact ⟨hp, hfollow, hfence, hplace, hgotos, hring, hagent⟩

end Setting

end NavScript
