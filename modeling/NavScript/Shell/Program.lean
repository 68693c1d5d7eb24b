import NavScript.Shell.Opening
import NavScript.Tool.Catalogue

namespace NavScript.Shell

open NavScript.Text

/-!
# Programs

A program is found by its name in the directories that are searched for programs, or where its name
leads when there is a slash in it.

* `Program` — what a name can lead to
* `Running.locate` — the program of a name, or why there is none
* `Running.runTool` — a tool run
-/

/-- A program that has to do with other programs. -/
inductive Starter where
  /-- It runs a program among other variables. -/
  | env
  /-- It runs a program with what it reads as its arguments. -/
  | xargs
  /-- It runs a program as it would run by itself, behind so many operands of its own. -/
  | plain (operands : Nat)
  /-- It sends signals. -/
  | kill
  /-- It names the files that programs are in. -/
  | which
  deriving DecidableEq

/-- What a name can lead to: a tool, a shell, a program that has to do with others, or a file that
    can be run. -/
inductive Program where
  | tool (t : Tool)
  | shell
  | starter (s : Starter)
  | script (text : String)

/-- The programs that have to do with others. -/
def starters : List (String × Starter) :=
  [("env", .env), ("xargs", .xargs), ("nohup", .plain 0), ("nice", .plain 0), ("setsid", .plain 0),
    ("timeout", .plain 1), ("kill", .kill), ("which", .which)]

/-- The program of a name that every system has. -/
def systemProgram? (name : String) : Option Program :=
  if name == "sh" || name == "dash" then some .shell
  else ((starters.lookup name).map Program.starter).or ((Tool.named? name).map Program.tool)

/-- The places where a system has its programs. -/
def programDirectories : List Place :=
  [["/", "bin"], ["/", "usr", "bin"]]

/-- The directories that are searched for programs where nothing else is said. -/
def defaultPath : String := "/usr/local/sbin:/usr/local/bin:/usr/sbin:/usr/bin:/sbin:/bin"

namespace State

/-- The program in the file of a name. -/
def programAt (s : State) (name : String) : Except Obstacle Program := do
  let full := s.fullName name
  let files := s.world.files
  match files.find full with
  | .ok (place, some (.file bytes)) =>
    if files.runnable.contains place then return .script (Narrow.ofBytes bytes)
    else .error .permissionDenied
  | .ok (_, some _) => .error .permissionDenied
  | .ok (place, none) =>
    let known := if programDirectories.contains place.dropLast then
      place.getLast?.bind systemProgram? else none
    match known with
    | some program => return program
    | none => .error .notFound
  | .error o => .error o

/-- The directories that are searched for programs. -/
def path (s : State) : List String :=
  ((s.valueOf? "PATH").getD defaultPath).splitOn ":"

/-- A name searched for in directories, with the name under which it has been found. -/
def search (s : State) (name : String) (refused : Bool) :
    List String → Except Obstacle (String × Program)
  | [] => .error (if refused then .permissionDenied else .notFound)
  | directory :: rest =>
    let candidate := if directory.isEmpty then name else directory ++ "/" ++ name
    match s.programAt candidate with
    | .ok program => .ok (candidate, program)
    | .error .permissionDenied =>
      match s.world.files.entry (s.fullName candidate) with
      | .ok .directory => s.search name refused rest
      | _ => s.search name true rest
    | .error _ => s.search name refused rest

/-- The program of a name, with the name of its file. -/
def locate (s : State) (name : String) : Except Obstacle (String × Program) :=
  if name.toList.contains '/' then (s.programAt name).map (name, ·)
  else if name.isEmpty then .error .notFound
  else s.search name false s.path

/-- The entry under a name, programs among them. -/
def entryOf (s : State) (name : String) : Except Obstacle Entry :=
  match s.world.files.entry (s.fullName name) with
  | .ok entry => .ok entry
  | .error o => if (s.programAt name).isOk then .ok (.file [0]) else .error o

/-- A name can be run, or searched as a directory. -/
def canRun (s : State) (name : String) : Bool :=
  (s.programAt name).isOk || match s.entryOf name with
    | .ok .directory => true
    | _ => false

end State

namespace Running

/-- A tool run with arguments. -/
def runTool (t : Tool) (args : List String) : Running Status := do
  let s ← get
  let input : Except Obstacle String :=
    match s.descriptors.lookup 0 with
    | none => .error .notOpen
    | some .directory => .error .isADirectory
    | some c => .ok (s.world.input c)
  let r := t ⟨args, input, s.world.files, s.directory, s.environment⟩
  set { s with world := { s.world with files := r.files } }
  if let some rest := r.input then
    modify fun s => { s with world := s.world.setInput (s.channel 0) rest }
  for (isError, text) in r.writes.reverse do
    modify (·.write (if isError then 2 else 1) text)
  return .exited r.status

end Running

end NavScript.Shell
