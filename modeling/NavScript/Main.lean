import NavScript.CommandLine.Outcome
import NavScript.Shell.Toolbox

namespace NavScript.CommandLine

/-!
# The program

Everything that an invocation can need is read first; what becomes of it is then a matter of
`Invocation.outcomeWith` alone, which is written out last.

* `entryOf` — a file as it is found
* `gather` — all files that a conversion needs, and the standard input
* `main` — the program
-/

/-- An error in reading a file, by the system's number for it. -/
def obstacleOf : IO.Error → Obstacle
  | .noFileOrDirectory .. => .notFound
  | .permissionDenied .. => .permissionDenied
  | .inappropriateType _ code _ => if code = 21 then .isADirectory else .notADirectory
  | _ => .notFound

/-- A file as it is found. -/
def entryOf (name : String) : IO (Except Obstacle Entry) := do
  try
    let bytes ← IO.FS.readBinFile name
    return .ok (.file bytes.toList)
  catch e =>
    match obstacleOf e with
    | .isADirectory => return .ok .directory
    | obstacle => return .error obstacle

/-- The files found under the names that were looked for. -/
def filesOf (found : List (String × Except Obstacle Entry)) : Files :=
  found.foldl (fun files (name, entry) =>
    match entry with
    | .ok entry => files.place name entry
    | .error .permissionDenied => files.place name .locked
    | .error .notADirectory =>
      let parent := Files.parent name
      if (files.entry parent).isOk then files else files.place parent .locked
    | .error _ => files) { entries := [] }

/-- The name leads to the standard input. -/
def isInputName (name : String) : Bool :=
  (StandardInput.ofPipe []).places.contains (Files.placeOf name)

/-- The files found under names, apart from the standard input. -/
def findAll (names : List String) : IO (List (String × Except Obstacle Entry)) :=
  (names.filter (!isInputName ·)).mapM fun name => return (name, ← entryOf name)

/-- The drawing that a line loads, seen from the script's directory. -/
def drawingOf? (base : String) (line : ScriptLine) : Option String :=
  match line.toOption.map Text.wordsOf with
  | some ("load-svg" :: file :: _) => some (Files.join base file)
  | _ => none

/-- All bytes of a stream. -/
partial def readAll (stream : IO.FS.Stream) (done : ByteArray) : IO ByteArray := do
  let chunk ← stream.read 65536
  if chunk.isEmpty then return done
  readAll stream (done ++ chunk)

/-- The standard input, of which the given bytes have been read: a pipe has nothing left for who
    opens it by its name, and a file has everything. -/
def reopened (rest : List UInt8) : IO StandardInput := do
  match ← entryOf "/dev/stdin" with
  | .ok (.file []) | .ok .directory | .ok .locked | .ok .device | .error _ => return .ofPipe rest
  | .ok (.file whole) =>
    let passed := whole.take (whole.length - rest.length)
    return { StandardInput.ofPipe rest with stream := .file passed rest }

/-- All files that a conversion needs, and the standard input: its options, its script and the
    drawings in that. -/
def gather (args : Arguments) : IO (Files × StandardInput) := do
  let readInput : IO (List UInt8) := return (← readAll (← IO.getStdin) .empty).toList
  let names := args.script :: args.config.toList
  let isNamed := names.any isInputName
  let isRead := isStandardInput args.script || isNamed
  let rest ← if isRead then readInput else pure []
  let input ← if isNamed then reopened rest else pure (.ofPipe rest)
  let found ← findAll names
  let script := (openScript (filesOf found) input args.script).toOption.getD []
  -- the drawings are known only now, and one of them can be in the standard input
  let drawings := script.filterMap (drawingOf? (baseDir args.script))
  let input ←
    if drawings.any isInputName then reopened (← if isRead then pure rest else readInput)
    else pure input
  return (filesOf (found ++ (← findAll drawings)), input)

/-- The files and the standard input that an invocation needs. -/
def prepare : Invocation → IO (Files × StandardInput)
  | .convert args => gather args
  | _ => return (filesOf [], .ofPipe [])

end NavScript.CommandLine

open NavScript NavScript.CommandLine in
/-- The program. -/
def main (args : List String) : IO UInt32 := do
  let invocation := Invocation.ofArgs args
  let (files, input) ← prepare invocation
  let outcome := invocation.outcomeWith .general files Shell.toolbox input
  (← IO.getStdout).write outcome.output
  for report in outcome.reports do
    IO.eprintln report
  return UInt32.ofNat outcome.status
