import NavScript.Session

namespace NavScript

open NavScript.Geometry

/-!
# The checks of a line

A line is checked for one thing after the other: its keyword and arguments, the session that it
comes in, the file or the elements that it names, and what it asks of them.

* `Check`, `FirstFailure` — checks made one after the other, and the error of the first that fails
* `Command.checks` — the words of a line
* `Setting.loadChecks` — loading a drawing
* `Setting.loadedChecks` — working on one that has been loaded
* `Setting.checks` — all checks of a line, in order
-/

/-! ### Checks -/

/-- A check: the errors that it can fail with, of which there are none where it is passed. -/
abbrev Check := Error → Prop

/-- Of checks made one after the other, the first that fails gives the error. -/
inductive FirstFailure : List Check → Option Error → Prop
  | passed : FirstFailure [] none
  | fails {check : Check} {checks : List Check} {e : Error} (h : check e) :
    FirstFailure (check :: checks) (some e)
  | passes {check : Check} {checks : List Check} {r : Option Error} (h : ∀ e, ¬ check e)
    (hrest : FirstFailure checks r) : FirstFailure (check :: checks) r

/-! ### The checks of the words -/

namespace Command

/-- The keywords that a line can begin with. -/
def keywords : List String :=
  simulatorKeywords ++
    ["load-svg", "set-arena-from-svg-layer", "add-labels-from-svg-layer",
      "follow-trajectory-from-svg-path", "sample-perimeter-from-svg-path",
      "place-agent-at-start-of-svg-path", "set-fence-from-svg-path"]

/-- The arguments that a keyword requires. -/
def parameters : String → List String
  | "load-svg" => ["file", "scale"]
  | "set-arena-from-svg-layer" | "add-labels-from-svg-layer" => ["layer"]
  | "follow-trajectory-from-svg-path" | "sample-perimeter-from-svg-path"
  | "place-agent-at-start-of-svg-path" | "set-fence-from-svg-path" => ["path"]
  | _ => []

/-- The scale is the numeral of a finite number. -/
def IsScale (text : String) : Prop :=
  ∃ x, Decimal.read? text = some x ∧ x.isFinite

/-- The checks of a keyword and its arguments: the keyword is known, no argument is missing, and the
    scale is a finite number. -/
def checks (keyword : String) (args : List String) : List Check :=
  [fun e => keyword ∉ keywords ∧ e = .unknownCommand keyword,
    fun e => ∃ name, (parameters keyword)[args.length]? = some name ∧
      e = .badArguments keyword (.missing name),
    fun e => keyword = "load-svg" ∧ ∃ text, args[1]? = some text ∧ ¬ IsScale text ∧
      e = .badArguments keyword (.scale text)]

end Command

/-! ### The checks of loading -/

/-- A text that cannot be read as a document: it is not well-formed, or it has an end tag outside of
    all elements. -/
def IllFormed (text : String) (e : Error) : Prop :=
  (Markup.parse text = .error .malformed ∧ e = .markup) ∨
    (Markup.parse text = .error .strayEndTag ∧ e = .strayEndTag)

namespace Setting

/-- What the flattener answers for a file that has been read as a document. -/
def flattened (s : Setting) (files : Files) (name : String) (document : List Markup.Node) :
    Except Error String :=
  (s.flattener files ⟨name, pathIds document, s.options.flatness⟩).1

/-- The checks of loading: no drawing is loaded yet, the file can be read as text, the text is a
    document, the flattener does its work, and what it gives is a document. -/
def loadChecks (s : Setting) (session : Session) (file : String) : List Check :=
  let name := Files.join s.baseDir file
  [fun e => session.loaded ≠ none ∧ e = .repeatedLoad,
    fun e => ∃ obstacle, session.files.readText name = .error obstacle ∧
      e = .io (.reading name) obstacle,
    fun e => ∃ text, session.files.readText name = .ok text ∧ IllFormed text e,
    fun e => ∃ text document, session.files.readText name = .ok text ∧
      Markup.parse text = .ok document ∧ s.flattened session.files name document = .error e,
    fun e => ∃ text document text', session.files.readText name = .ok text ∧
      Markup.parse text = .ok document ∧ s.flattened session.files name document = .ok text' ∧
      IllFormed text' e]

end Setting

/-! ### The checks of commands on a drawing -/

/-- A path whose path data is missing or cannot be read. -/
def PathElement.Malformed (t : Transform) (p : PathElement) : Prop :=
  ∀ d path, p.d = some d → PathData.path d t ≠ .ok path

/-- An attribute that is a numeral, which may have blanks around it. -/
def IsNumeral (value : Option String) : Prop :=
  ∃ text x, value = some text ∧ Decimal.readChars? (Text.trim text.toList) = some x

/-- A text without a span, or without two coordinates that are numerals. -/
def TextElement.Malformed (e : TextElement) : Prop :=
  ¬ (IsNumeral e.x ∧ IsNumeral e.y ∧ e.span ≠ none)

/-- Exactly one thing matches. -/
def matchCheck (kind : Kind) (key : String) (found : Nat) : Check :=
  fun e => found ≠ 1 ∧ e = .lookup kind key found

/-- No element is malformed. -/
def elementCheck (malformed : Prop) : Check :=
  fun e => malformed ∧ ∃ what defect, e = .malformed what defect

namespace Loaded

variable (l : Loaded)

/-- The label matches one layer. -/
def layerCheck (label : String) : Check :=
  matchCheck .layer label (l.drawing.layersNamed label).length

/-- The identifier matches one path, and this path is not malformed. -/
def pathChecks (id : String) : List Check :=
  [matchCheck .path id (l.drawing.pathsNamed id).length,
    elementCheck (∃ p ∈ l.drawing.pathsNamed id, p.Malformed l.transform)]

/-- The path has more than one vertex. -/
def segmentCheck (id : String) : Check :=
  fun e => ∃ v, l.drawing.path id l.transform = .ok [v] ∧ e = .degeneratePath id 1

end Loaded

namespace Setting

/-- The length of the path is finite. -/
def lengthCheck (s : Setting) (l : Loaded) (id : String) : Check :=
  fun e => ∃ path, l.drawing.path id l.transform = .ok path ∧ ¬ (length path).isFinite ∧
    e = .outOfRange (.sampleLength (s.trajectory.offset (length path)) (length path))

/-- The checks of a command on the drawing that has been loaded: for a layer, that it is found, and
    that all of it can be read that the command needs; for a path the same, and behind that, where
    an agent is placed or the path is sampled, that the path has a segment; a sample is only taken
    for a run of the batch and from a path of finite length. -/
def loadedChecks (s : Setting) (l : Loaded) : DrawingCommand → List Check
  | .setArena label => [l.layerCheck label,
      elementCheck (∃ layer ∈ l.drawing.layersNamed label, ∃ p ∈ layer.paths,
        p.Malformed l.transform)]
  | .addLabels label => [l.layerCheck label,
      elementCheck (∃ layer ∈ l.drawing.layersNamed label, ∃ e ∈ layer.texts, e.Malformed)]
  | .followTrajectory id | .setFence id => l.pathChecks id
  | .placeAgent id => l.pathChecks id ++ [l.segmentCheck id]
  | .samplePerimeter id =>
    (fun e => s.trajectory.valid = false ∧ e = .outOfRange (.trajectory s.trajectory)) ::
      (l.pathChecks id ++ [l.segmentCheck id, s.lengthCheck l id])

/-- The checks of a command on a drawing: one is loaded, and those of the command. -/
def drawingChecks (s : Setting) (session : Session) (keyword : String) (command : DrawingCommand) :
    List Check :=
  (fun e => session.loaded = none ∧ e = .beforeLoad keyword) ::
    match session.loaded with
    | none => []
    | some l => s.loadedChecks l command

/-- The checks of what a keyword does with its first argument: it loads a drawing, works on the one
    that is loaded, or is handed on. -/
def commandChecks (s : Setting) (session : Session) (keyword : String) : List String → List Check
  | [] => []
  | argument :: _ =>
    if keyword = "load-svg" then s.loadChecks session argument
    else
      match Command.drawing? keyword with
      | some (_, make) => s.drawingChecks session keyword (make argument)
      | none => []

/-- The checks of a line that has words, in order. -/
def checks (s : Setting) (session : Session) (keyword : String) (args : List String) : List Check :=
  Command.checks keyword args ++ s.commandChecks session keyword args

end Setting

end NavScript
