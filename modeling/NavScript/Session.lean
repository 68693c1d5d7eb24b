import NavScript.Command
import NavScript.Directive
import NavScript.Drawing.Lookup
import NavScript.Flattener
import NavScript.Options

namespace NavScript

open NavScript.Geometry

/-!
# Sessions

A session compiles script lines one after the other.  A line leaves for the next the drawing that it
loaded, and the files as its flattener left them; everything else is fixed when the session begins.

* `Setting` — what is fixed
* `Session` — what a line leaves for the next
* `Setting.perform` — the directives of a command
* `Setting.compile` — the lines that the simulator gets for a script line
-/

/-- What is fixed for a session. -/
structure Setting where
  options : Options
  /-- The directory that file names of drawings are seen from. -/
  baseDir : String
  trajectory : Trajectory
  flattener : Flattener

/-- A drawing with the transform into the arena. -/
structure Loaded where
  drawing : Drawing
  transform : Transform

/-- What a line leaves for the next: the files, and the drawing, once one is loaded. -/
structure Session where
  files : Files
  loaded : Option Loaded

/-- A session that has loaded nothing. -/
def Session.start (files : Files) : Session := ⟨files, none⟩

/-- What a command comes to: its directives or why it is refused, the session after it, and what the
    flattener was asked for, if it was. -/
structure Step where
  outcome : Except Error (List Directive)
  after : Session
  request : Option Request

/-- A step that leaves the session as it is and asks nothing of the flattener. -/
def Step.keeping (session : Session) (outcome : Except Error (List Directive)) : Step :=
  ⟨outcome, session, none⟩

namespace Setting

/-! ### Loading -/

/-- The request for a drawing: its file, and the identifiers of the paths in it. -/
def request (s : Setting) (files : Files) (file : String) : Except Error Request := do
  let file := Files.join s.baseDir file
  let text ← (files.readText file).mapError fun obstacle => .io (.reading file) obstacle
  let ids ← Drawing.idsOfText text
  return ⟨file, ids, s.options.flatness⟩

/-- A drawing given by its text, at a scale. -/
def drawn (scale : Float) (text : Except Error String) : Except Error Loaded := do
  let drawing ← Drawing.ofText (← text)
  return ⟨drawing, ⟨scale⟩⟩

/-- A drawing loaded where there was none. -/
def load (s : Setting) (files : Files) (file : String) (scale : Float) : Step :=
  match s.request files file with
  | .error e => .keeping ⟨files, none⟩ (.error e)
  | .ok r =>
    let (text, files) := s.flattener files r
    match drawn scale text with
    | .error e => ⟨.error e, ⟨files, none⟩, some r⟩
    | .ok loaded =>
      ⟨.ok [.arenaSize (s.options.arenaSize * scale)], ⟨files, some loaded⟩, some r⟩

/-! ### Commands on a drawing -/

/-- The part of a path that the session's trajectory covers. -/
def samplePerimeter (s : Setting) (l : Loaded) (id : String) : Except Error Path := do
  -- the trajectory is looked at before the path
  if !s.trajectory.valid then throw (.outOfRange (.trajectory s.trajectory))
  let path ← l.drawing.path id l.transform
  let target := s.trajectory.offset (length path)
  (sample path target).mapError (.ofArcLength id)

/-- An agent at the first vertex of a path, looking along it. -/
def placeAgent (l : Loaded) (id : String) : Except Error (List Directive) := do
  let path ← l.drawing.path id l.transform
  let heading ← (heading path).mapError (.ofArcLength id)
  return path.head?.toList.map (.placeAgent · heading)

/-- The directives of a command on a drawing. -/
def onDrawing (s : Setting) (l : Loaded) : DrawingCommand → Except Error (List Directive)
  | .setArena label => do
    let paths ← l.drawing.layerPaths label l.transform
    return [.arena paths]
  | .addLabels label => do
    let labels ← l.drawing.layerLabels label l.transform
    return labels.map fun label => .addLabel label.position label.text
  | .followTrajectory id => do
    let path ← l.drawing.path id l.transform
    return path.map .goto
  | .samplePerimeter id => do
    let path ← s.samplePerimeter l id
    return path.map .goto
  | .placeAgent id => placeAgent l id
  | .setFence id => do
    let path ← l.drawing.path id l.transform
    return [.fence id path]

/-- The command of a line performed, the line being given by its keyword and arguments. -/
def perform (s : Setting) (session : Session) (keyword : String) (args : List String) :
    Command → Step
  | .handOn => .keeping session (.ok [.handedOn (keyword :: args)])
  | .loadSvg file scale =>
    match session.loaded with
    | some _ => .keeping session (.error .repeatedLoad)
    | none => s.load session.files file scale
  | .onDrawing command =>
    match session.loaded with
    | some l => .keeping session (s.onDrawing l command)
    | none => .keeping session (.error (.beforeLoad keyword))

/-! ### Lines -/

/-- The words that a script line says something with: none when it is a comment. -/
def wordsOfLine (line : String) : List String :=
  if line.toList.head? == some '#' then [] else Text.wordsOf line

/-- A script line given by its words; a line without words says nothing. -/
def stepWords (s : Setting) (session : Session) : List String → Step
  | [] => .keeping session (.ok [])
  | keyword :: args =>
    match Command.ofWords keyword args with
    | .error e => .keeping session (.error e)
    | .ok command => s.perform session keyword args command

/-- A script line. -/
def step (s : Setting) (session : Session) (line : String) : Step :=
  s.stepWords session (wordsOfLine line)

end Setting

/-- The lines that a script line compiles to, or why there are none: it is refused, or its numbers
    have more places than can be written. -/
inductive Compiled where
  | lines (lines : List String)
  | refused (error : Error)
  | unwritable

/-- The lines of a step, its numbers with the given count of places. -/
def Step.compiled (places : Nat) (step : Step) : Compiled :=
  match step.outcome with
  | .error e => .refused e
  | .ok directives =>
    match Directive.renderAll? places directives with
    | some lines => .lines lines
    | none => .unwritable

/-- What a script line compiles to, with the step behind it. -/
def Setting.compile (s : Setting) (session : Session) (line : String) : Compiled × Step :=
  let step := s.step session line
  (step.compiled s.options.precision, step)

end NavScript
