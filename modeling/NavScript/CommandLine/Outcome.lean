import NavScript.CommandLine.Arguments
import NavScript.CommandLine.Buffer
import NavScript.CommandLine.StandardInput

namespace NavScript.CommandLine

/-!
# What the program does

The program converts a script to its output, reports what stopped it, and ends with a status.

* `Failure` — what can stop it, with what is behind it
* `Failure.causes` — a failure traced back to its last cause
* `Outcome` — status, output and reports
* `settingOf` — the setting that arguments and options make
* `openScript` — the script to convert
* `Invocation.outcomeWith`, `Invocation.outcome` — what becomes of an invocation
-/

/-! ### Failures and their causes -/

/-- What the readers of documents and of options have to say of the text that an error is about. -/
abbrev Wording := Error → String

/-- Their judgement without its grounds, which are in words of their own. -/
def Wording.general : Wording
  | .options => "no options record"
  | _ => "no well-formed document"

/-- What is behind an error: what the reader of a text has to say of it, or the obstacle that was
    met, where there is one. -/
def underlying (wording : Wording) (e : Error) : Option String :=
  match e with
  | .markup | .options => some (wording e)
  | _ => e.cause.map Obstacle.message

/-- What can stop the program, and what can be behind that: an error at a line of the script, an
    error by itself, a script that cannot be opened, or what someone else has to say. -/
inductive Failure where
  | atLine (e : ScriptError)
  | error (e : Error)
  | opening (script : String) (obstacle : Obstacle)
  | remark (text : String)

namespace Failure

/-- The failure in words. -/
def message : Failure → String
  | .atLine e => e.message
  | .error e => e.message
  | .opening script obstacle => s!"opening {script}: {obstacle.message}"
  | .remark text => text

/-- What is behind a failure.  A remark has nothing behind it, and the words for a script that
    cannot be opened have the obstacle in them. -/
def source (wording : Wording) : Failure → Option Failure
  | .atLine e => some (.error e.error)
  | .error e => (underlying wording e).map .remark
  | .opening .. | .remark _ => none

/-- How many failures there can be behind one. -/
def depth : Failure → Nat
  | .atLine _ => 2
  | .error _ => 1
  | .opening .. | .remark _ => 0

theorem depth_lt_of_source {wording : Wording} {f cause : Failure}
    (h : f.source wording = some cause) :
    cause.depth < f.depth := by
  cases f with
  | atLine e =>
    obtain rfl := Option.some.inj h
    exact Nat.lt_succ_self 1
  | error e =>
    obtain ⟨text, -, rfl⟩ := Option.map_eq_some_iff.mp h
    exact Nat.one_pos
  | opening script obstacle => cases h
  | remark text => cases h

/-- What a failure is caused by, cause after cause. -/
def causes (wording : Wording) (f : Failure) : List String :=
  match h : f.source wording with
  | none => []
  | some cause =>
    have := depth_lt_of_source h
    cause.message :: cause.causes wording
termination_by f.depth

end Failure

/-! ### Outcomes -/

/-- How the program ends. -/
structure Outcome where
  status : Nat
  output : ByteArray
  /-- The messages for the errors, each on a line of its own. -/
  reports : List String

namespace Outcome

/-- An end with nothing to report. -/
def success (output : ByteArray) : Outcome := ⟨0, output, []⟩

/-- A failure, reported with what caused it. -/
def failure (wording : Wording) (output : ByteArray) (f : Failure) : Outcome :=
  ⟨1, output, ("error: " ++ f.message) :: (f.causes wording).map ("  caused by: " ++ ·)⟩

end Outcome

/-! ### Options -/

/-- The options of a file. -/
def optionsOfFile (files : Files) (name : String) : Except Error Options := do
  let text ← (files.readText name).mapError fun obstacle => .io (.readingOptions name) obstacle
  Options.ofText text

/-- What is left of the standard input when the options have been read. -/
def behindOptions (input : StandardInput) (args : Arguments) : StandardInput :=
  match args.config with
  | some name => input.readAt name
  | none => input

/-- The options that the arguments name: those of a file or the defaults, and a flattener of the
    arguments' own in place of theirs. -/
def options (files : Files) (args : Arguments) : Except Error Options := do
  let options ← match args.config with
    | some name => optionsOfFile files name
    | none => .ok {}
  return { options with flattener := args.flattener.getD options.flattener }

/-! ### The script -/

/-- The name stands for the standard input. -/
def isStandardInput (script : String) : Bool :=
  Files.trimEnd script.toList.reverse == ['-']

/-- The lines of a script.  A directory can be opened, but not its first line read. -/
def openScript (files : Files) (input : StandardInput) (script : String) :
    Except Obstacle (List ScriptLine) :=
  if isStandardInput script then .ok (scriptLines input.stream.script)
  else
    match (input.among files).entry script with
    | .ok .directory => .ok [.error .isADirectory]
    | .ok entry =>
      if input.isAt script then .ok (scriptLines input.stream.scriptByName)
      else entry.contents.map scriptLines
    | .error obstacle => .error obstacle

/-- What is left of the standard input for others when the script is read. -/
def behindScript (input : StandardInput) (script : String) : StandardInput :=
  if isStandardInput script || input.isAt script then input.readAsScript else input

/-- The directory of a script, from which it names its drawings. -/
def baseDir (script : String) : String :=
  if isStandardInput script then "" else Files.parent script

/-! ### Conversions -/

/-- The flattener: none, or the program of the options. -/
def flattener (programs : Programs) (input : StandardInput) (args : Arguments) (options : Options) :
    Flattener :=
  input.flattening fun left =>
    if args.noFlatten then .asIs
    else .external (left.apart programs) options.flattener options.flattenerArgs

/-- The setting of a conversion. -/
def settingOf (programs : Programs) (input : StandardInput) (args : Arguments) (options : Options) :
    Setting :=
  ⟨options, baseDir args.script, args.trajectory, flattener programs input args options⟩

/-- The status of a program that has broken down. -/
def breakdownStatus : Nat := 101

/-- What becomes of a run. -/
def Outcome.ofRun (wording : Wording) (output : ByteArray) : Ending → Outcome
  | .done => .success output
  | .stopped e =>
    if e.error.isBreakdown then ⟨breakdownStatus, output, [e.error.message]⟩
    else .failure wording output (.atLine e)
  | .unwritable => ⟨breakdownStatus, output, ["Formatting argument out of range"]⟩

/-- A script converted.  The output goes through a buffer, which is given up when the run has ended,
    however that was. -/
def convert (wording : Wording) (files : Files) (programs : Programs) (input : StandardInput)
    (args : Arguments) : Outcome :=
  match options (input.among files) args with
  | .error e => .failure wording .empty (.error e)
  | .ok options =>
    let input := behindOptions input args
    match openScript files input args.script with
    | .error obstacle => .failure wording .empty (.opening args.script obstacle)
    | .ok script =>
      let input := behindScript input args.script
      let (progress, ending) := (settingOf programs input args options).runInto
        (.start (input.among files)) Buffer.empty script
      .ofRun wording progress.sink.output ending

/-- The program's name and version. -/
def versionText : String := "arenascript-cli 0.1.0\n"

/-- How the program is called. -/
def usageText : String :=
  "Usage: arenascript [OPTIONS] <SCRIPT> [CURRENT_TRAJECTORY] [TOTAL_TRAJECTORIES]\n"

/-- What its arguments mean. -/
def helpText : String :=
  "Expand SVG-backed commands in a navigation script into plain simulator commands\n\n" ++
  usageText ++
  "\nArguments:\n" ++
  "  <SCRIPT>              Script to convert, `-` for stdin\n" ++
  "  [CURRENT_TRAJECTORY]  1-indexed trajectory of this run, used by " ++
  "sample-perimeter-from-svg-path [default: 1]\n" ++
  "  [TOTAL_TRAJECTORIES]  Number of trajectories in the batch [default: 1]\n" ++
  "\nOptions:\n" ++
  "      --config <CONFIG>        JSON options file\n" ++
  "      --flattener <FLATTENER>  Flattening program, overrides the options file\n" ++
  "      --no-flatten             Read SVG files as they are; they must not contain curves\n" ++
  "  -v, --verbose...             More log output on stderr (-v info, -vv debug, -vvv trace)\n" ++
  "  -h, --help                   Print help\n" ++
  "  -V, --version                Print version\n"

/-- What becomes of an invocation, given the files, the programs and the standard input, and what
    the readers say of the text that they refuse, if they refuse one. -/
def Invocation.outcomeWith (wording : Wording) (files : Files) (programs : Programs)
    (input : StandardInput) : Invocation → Outcome
  | .convert args => CommandLine.convert wording files programs input args
  | .help => .success helpText.toUTF8
  | .version => .success versionText.toUTF8
  | .refused => ⟨2, .empty, ["error: invalid arguments", "", usageText]⟩

/-- What becomes of an invocation with a pipe as its standard input, the readers' words being left
    out. -/
def Invocation.outcome (files : Files) (programs : Programs) (input : List UInt8)
    (invocation : Invocation) : Outcome :=
  invocation.outcomeWith .general files programs (.ofPipe input)

end NavScript.CommandLine
