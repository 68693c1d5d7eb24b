import NavScript.Session
import NavScript.Text.Lines

namespace NavScript

/-!
# Running a script

A script is compiled line by line into a sink, up to the first line that is refused or cannot be
written.  A refused line writes nothing; what earlier lines wrote stays written.

* `scriptLines` — the lines of a script, each readable or not
* `Writer` — what can be written to
* `Sink` — a writer with room for so many bytes
* `Ending`, `Ending.breaksDown` — how a run ends
* `Setting.runInto`, `Setting.run` — a whole script
-/

/-! ### Scripts -/

/-- A line as it can be read: its text, or what stands in the way of it. -/
abbrev ScriptLine := Except Obstacle String

/-- The lines of a script given by its bytes. -/
def scriptLines (bytes : List UInt8) : List ScriptLine :=
  (Text.lines bytes).map fun line => (Text.Utf8.decode line).mapError fun _ => .notText

/-! ### Writers -/

/-- What output can be written to: text after text, each of which may not fit, and flushed, which
    may be refused. -/
class Writer (W : Type) where
  write : W → String → W × Bool
  flush : W → W × Bool

/-- Lines written one after the other, each with a line feed, up to the first that does not fit. -/
def Writer.writeLines {W : Type} [Writer W] (w : W) : List String → W × Bool
  | [] => (w, true)
  | line :: rest =>
    match Writer.write w (line ++ "\n") with
    | (w, true) => writeLines w rest
    | (w, false) => (w, false)

/-- Where output goes: how many more bytes it takes, without a limit if none is given, whether it
    refuses to be flushed, and what has been written. -/
structure Sink where
  room : Option Nat
  broken : Bool
  written : ByteArray

namespace Sink

/-- A sink that takes everything. -/
def unlimited : Sink := ⟨none, false, .empty⟩

/-- More bytes written, and whether all of them fit.  What fits of them is kept. -/
def write (s : Sink) (bytes : ByteArray) : Sink × Bool :=
  match s.room with
  | none => ({ s with written := s.written ++ bytes }, true)
  | some room =>
    if bytes.size ≤ room then
      ({ s with room := some (room - bytes.size), written := s.written ++ bytes }, true)
    else ({ s with room := some 0, written := s.written ++ bytes.extract 0 room }, false)

instance : Writer Sink where
  write s text := s.write text.toUTF8
  flush s := (s, !s.broken)

/-- Lines written to a sink. -/
abbrev writeLines (s : Sink) (lines : List String) : Sink × Bool :=
  Writer.writeLines s lines

end Sink

/-! ### Runs -/

/-- How far a run has come: its session, the output, the requests to the flattener, last first, and
    the number of lines read. -/
structure ProgressInto (W : Type) where
  session : Session
  sink : W
  requests : List Request
  line : Nat

/-- How far a run into a sink has come. -/
abbrev Progress := ProgressInto Sink

/-- How a run ends: it has written everything, a line has stopped it, or a number had more places
    than can be written.  Not every error that stops a run is reported. -/
inductive Ending where
  | done
  | stopped (error : ScriptError)
  | unwritable

/-- The run does not come to an end of its own, with nothing or an error to report: a number cannot
    be written, or the error is one that ends the program. -/
def Ending.breaksDown : Ending → Bool
  | .done => false
  | .stopped e => e.error.isBreakdown
  | .unwritable => true

/-- A line's command as errors name it: its first word. -/
def commandName (line : String) : Option String :=
  (Text.wordsOf line).head?

section Runs

variable {W : Type}

/-- The progress after a step, whose output has not been written yet. -/
def ProgressInto.after (p : ProgressInto W) (step : Step) : ProgressInto W :=
  { p with session := step.after, requests := step.request.toList ++ p.requests }

variable [Writer W]

/-- The end of a script: the sink is flushed. -/
def ProgressInto.finish (p : ProgressInto W) : ProgressInto W × Ending :=
  match Writer.flush p.sink with
  | (sink, true) => ({ p with sink }, .done)
  | (sink, false) => ({ p with sink }, .stopped ⟨p.line, none, .io .flushingOutput .sinkBroken⟩)

/-- The remaining lines of a script. -/
def Setting.runFrom (s : Setting) (p : ProgressInto W) : List ScriptLine → ProgressInto W × Ending
  | [] => p.finish
  | .error obstacle :: _ =>
    let p := { p with line := p.line + 1 }
    (p, .stopped ⟨p.line, none, .io .readingScript obstacle⟩)
  | .ok line :: rest =>
    let (compiled, step) := s.compile p.session line
    -- a drawing stays loaded even where the line's output does not fit
    let p := { p with line := p.line + 1 }.after step
    match compiled with
    | .unwritable => (p, .unwritable)
    | .refused e => (p, .stopped ⟨p.line, commandName line, e⟩)
    | .lines lines =>
      match Writer.writeLines p.sink lines with
      | (sink, true) => s.runFrom { p with sink } rest
      | (sink, false) =>
        ({ p with sink },
          .stopped ⟨p.line, commandName line, .io .writingOutput .sinkFull⟩)

/-- A whole script, compiled from a given session on into whatever it is written to. -/
def Setting.runInto (s : Setting) (session : Session) (sink : W) (script : List ScriptLine) :
    ProgressInto W × Ending :=
  s.runFrom ⟨session, sink, [], 0⟩ script

end Runs

/-- A whole script, compiled into a sink from a given session on. -/
def Setting.run (s : Setting) (session : Session) (sink : Sink) (script : List ScriptLine) :
    Progress × Ending :=
  s.runInto session sink script

end NavScript
