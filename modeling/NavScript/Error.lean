import NavScript.Obstacle
import NavScript.Status
import NavScript.PathData.Points
import NavScript.Geometry.ArcLength
import NavScript.Geometry.Trajectory
import NavScript.Decimal.Shortest

namespace NavScript

open NavScript.Geometry

/-!
# Errors

Every way in which a script, its drawing or its options can be refused, as a cause with the data
that its wording needs.

* `Error` — the causes
* `Error.message` — a cause in words
* `Error.cause` — the obstacle behind it, where there is one
* `ScriptError` — a cause with the script line it stopped
-/

/-! ### Parts of a cause -/

/-- What a drawing is searched for. -/
inductive Kind where
  | layer
  | path
  deriving DecidableEq, Repr

/-- The kind in words. -/
def Kind.name : Kind → String
  | .layer => "layer"
  | .path => "path"

/-- What a path without an identifier belongs to. -/
inductive Owner where
  | document
  | layer (label : String)
  deriving DecidableEq, Repr

/-- The owner in words. -/
def Owner.name : Owner → String
  | .document => "document"
  | .layer label => s!"layer '{label}'"

/-- A malformed part of a drawing. -/
inductive Subject where
  | pathData
  | path (id : String)
  | unnamedPath (owner : Owner)
  | text (label : String)
  deriving DecidableEq, Repr

/-- The part in words. -/
def Subject.name : Subject → String
  | .pathData => "path data"
  | .path id => s!"path '{id}'"
  | .unnamedPath owner => s!"unnamed path in {owner.name}"
  | .text label => s!"text in layer '{label}'"

/-- What is wrong with a part of a drawing. -/
inductive Defect where
  | missingAttribute (name : String)
  | notANumber (name value : String)
  | missingSpan
  | pathData (fault : PathData.Fault)
  deriving DecidableEq, Repr

/-- The defect in words. -/
def Defect.message : Defect → String
  | .missingAttribute name => s!"missing '{name}' attribute"
  | .notANumber name value => s!"'{name}' attribute '{value}' is not a number"
  | .missingSpan => "no <tspan> child"
  | .pathData fault => fault.message

/-- A quantity that lies outside its range. -/
inductive Quantity where
  | trajectory (t : Trajectory)
  | sampleLength (target length : Float)
  | flatness (value : Float)
  | arenaSize (value : Float)
  | other (text : String)

/-- The quantity in words. -/
def Quantity.name : Quantity → String
  | .trajectory t => s!"trajectory {t.current} of {t.total}"
  | .sampleLength target length =>
    s!"sample length {Decimal.shortest target} for path of length {Decimal.shortest length}"
  | .flatness value => s!"flatness {Decimal.shortest value}"
  | .arenaSize value => s!"arena_size {Decimal.shortest value}"
  | .other text => text

/-- What is wrong with the arguments of a command. -/
inductive ArgumentFault where
  | missing (name : String)
  | scale (text : String)
  deriving DecidableEq, Repr

/-- The fault in words. -/
def ArgumentFault.message : ArgumentFault → String
  | .missing name => s!"missing <{name}>"
  | .scale text => s!"scale '{text}' is not a number"

/-- What was being done when an obstacle was met. -/
inductive Activity where
  | reading (file : String)
  | readingOptions (file : String)
  | readingScript
  | runningFlattener (program : String)
  | readingFlattener (program : String)
  | writingOutput
  | flushingOutput
  deriving DecidableEq, Repr

/-- The activity in words. -/
def Activity.name : Activity → String
  | .reading file => s!"reading {file}"
  | .readingOptions file => s!"reading options {file}"
  | .readingScript => "reading script"
  | .runningFlattener program => s!"running flattener '{program}'"
  | .readingFlattener program => s!"reading output of flattener '{program}'"
  | .writingOutput => "writing output"
  | .flushingOutput => "flushing output"

/-! ### Causes -/

/-- Why a line, a drawing or an options text is refused. -/
inductive Error where
  /-- A label or identifier that does not match exactly once. -/
  | lookup (kind : Kind) (key : String) (found : Nat)
  | malformed (what : Subject) (defect : Defect)
  /-- A command that reads the drawing before one is loaded. -/
  | beforeLoad (keyword : String)
  /-- A second drawing. -/
  | repeatedLoad
  | unknownCommand (keyword : String)
  | outOfRange (what : Quantity)
  | badArguments (keyword : String) (fault : ArgumentFault)
  | degeneratePath (id : String) (vertices : Nat)
  | flattenerFailed (program : String) (status : Status) (stderr : String)
  | io (doing : Activity) (obstacle : Obstacle)
  /-- A text that is no well-formed document. -/
  | markup
  /-- A document with an end tag outside of all elements, on which reading breaks down. -/
  | strayEndTag
  /-- A text that is no options record. -/
  | options

namespace Error

/-- The cause in words. -/
def message : Error → String
  | lookup kind key found =>
    s!"could not find {kind.name} '{key}' (found {found} matches, expected exactly 1)"
  | malformed what defect => s!"malformed {what.name}: {defect.message}"
  | beforeLoad keyword => s!"'{keyword}' used before load-svg"
  | repeatedLoad => "'load-svg' repeated, a document is already loaded"
  | unknownCommand keyword => s!"unknown command '{keyword}'"
  | outOfRange what => s!"{what.name} out of range"
  | badArguments keyword fault => s!"bad arguments to '{keyword}': {fault.message}"
  | degeneratePath id vertices =>
    s!"path '{id}' has {vertices} vertices, at least 2 are required"
  | flattenerFailed program status stderr =>
    s!"flattener '{program}' exited with {status.message}: {stderr}"
  | io doing _ => doing.name
  | markup => "invalid SVG document"
  | strayEndTag => "end tag outside of all elements"
  | options => "invalid options"

/-- A cause that ends the program instead of being reported. -/
def isBreakdown : Error → Bool
  | strayEndTag => true
  | _ => false

/-- The obstacle behind a cause. -/
def cause : Error → Option Obstacle
  | io _ obstacle => some obstacle
  | _ => none

/-- The cause of a fault in measuring the path with the given identifier. -/
def ofArcLength (id : String) : ArcLengthFault → Error
  | .tooFewVertices count => degeneratePath id count
  | .outOfRange target length => outOfRange (.sampleLength target length)

end Error

/-- A cause with the number of the script line that it stopped, counted from one, and that line's
    command when it could be read. -/
structure ScriptError where
  line : Nat
  command : Option String
  error : Error

/-- The line and command in words. -/
def ScriptError.message (e : ScriptError) : String :=
  let command := e.command.getD "<unreadable>"
  s!"line {e.line}: '{command}' failed"

end NavScript
