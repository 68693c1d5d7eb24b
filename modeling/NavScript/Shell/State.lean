import NavScript.Shell.Grammar
import NavScript.Status
import NavScript.Tool.Basic

namespace NavScript.Shell

open NavScript.Text

/-!
# The state of a shell

A shell has variables, functions, positional parameters and options of its own; it shares the files
and the streams of bytes with the programs around it.  All its texts are narrow.

* `World` — what is shared
* `State` — a shell
* `Running` — a step of a shell, or why it ends there
* `Task` — what a step can ask for on the way
-/

/-! ### What is shared -/

/-- What a descriptor leads to: bytes handed over in memory, a file that is written at its end, a
    directory, or nothing. -/
inductive Channel where
  | stream (number : Nat)
  | file (place : Place)
  | directory
  | nowhere
  deriving DecidableEq

/-- What a shell shares with the programs around it: the files, the streams by their numbers, the
    signals sent and not yet received, each with the number of the shell that it is sent to, and the
    next number to give out. -/
structure World where
  files : Files
  streams : List (Nat × String)
  signals : List (Nat × Nat)
  next : Nat

namespace World

/-- The bytes in a stream. -/
def stream (w : World) (number : Nat) : String :=
  (w.streams.lookup number).getD ""

/-- A stream with other bytes in it. -/
def setStream (w : World) (number : Nat) (bytes : String) : World :=
  { w with streams := (number, bytes) :: w.streams.filter (·.1 != number) }

/-- Bytes written to a channel. -/
def write (w : World) (c : Channel) (bytes : String) : World :=
  match c with
  | .stream number => w.setStream number (w.stream number ++ bytes)
  | .file place =>
    match w.files.at? place with
    | some (.file before) =>
      { w with files := w.files.put place (.file (before ++ Narrow.toBytes bytes)) }
    | _ => w
  | .directory | .nowhere => w

/-- The bytes that a channel can be read for. -/
def input (w : World) : Channel → String
  | .stream number => w.stream number
  | _ => ""

/-- A channel of which only some bytes are left to be read. -/
def setInput (w : World) (c : Channel) (rest : String) : World :=
  match c with
  | .stream number => w.setStream number rest
  | _ => w

end World

/-! ### Shells -/

/-- A variable: its value, if it has one, whether programs get it, and whether it is fixed. -/
structure Variable where
  value : Option String
  exported : Bool
  fixed : Bool

/-- The commands that are passed over on the way out of loops or functions. -/
inductive Skipping where
  | nothing
  | breaking (loops : Nat)
  | continuing (loops : Nat)
  | returning
  deriving DecidableEq

/-- A shell.  `line` and `caller` are what complaints name: the line of the command and the part of
    the shell that runs. -/
structure State where
  world : World
  name : String
  arguments : List String
  bindings : List (String × Variable)
  functions : List (String × Command)
  options : List Char
  status : Nat
  /-- The status of the last substitution. -/
  substituted : Nat
  directory : String
  descriptors : List (Nat × Channel)
  documents : List (Nat × Word)
  /-- What is to be done when a signal comes, or, under the number zero, when the shell ends. -/
  traps : List (Nat × String)
  /-- The signals that have come whose actions have not run yet. -/
  caught : List Nat
  skipping : Skipping
  line : Nat
  caller : Option String
  /-- The number by which signals reach the shell, and the one that it and the shells begun by it
      give out as theirs. -/
  process : Nat
  givenProcess : Nat
  /-- The commands left to themselves, by their numbers, with the status that each ended with. -/
  background : List (Nat × Nat)
  loopDepth : Nat
  /-- What the variables of the functions that run were before, innermost function first. -/
  saved : List (List (String × Option Variable))
  /-- The argument that options are being read from, and how much of it has been read. -/
  optionPlace : Nat × Nat

/-- Why a shell ends where it is. -/
inductive Abort where
  /-- It has been told to. -/
  | exit
  /-- A fault ends it, or the part of it that is at fault. -/
  | failure
  /-- A signal has ended it, or a program has taken its place and has ended. -/
  | over (status : Status)

/-- A step of a shell, or why it ends there. -/
abbrev Running := ExceptT Abort (StateM State)

/-- The options of shells, by letter and by name. -/
def optionNames : List (Char × String) :=
  [('e', "errexit"), ('f', "noglob"), ('I', "ignoreeof"), ('i', "interactive"), ('m', "monitor"),
    ('n', "noexec"), ('s', "stdin"), ('x', "xtrace"), ('v', "verbose"), ('V', "vi"), ('E', "emacs"),
    ('C', "noclobber"), ('a', "allexport"), ('b', "notify"), ('u', "nounset")]

namespace State

/-! ### Variables -/

/-- The value of a variable. -/
def valueOf? (s : State) (name : String) : Option String :=
  (s.bindings.lookup name).bind Variable.value

/-- A variable put in place of what had its name. -/
def putVariable (s : State) (name : String) (v : Variable) : State :=
  { s with bindings := (name, v) :: s.bindings.filter (·.1 != name) }

/-- An option is set. -/
def has (s : State) (option : Char) : Bool :=
  s.options.contains option

/-- The characters that fields are cut at. -/
def separators (s : State) : List Char :=
  ((s.valueOf? "IFS").getD " \t\n").toList

/-- The variables that programs get, by name. -/
def environment (s : State) : List (String × String) :=
  (s.bindings.filterMap fun (name, v) =>
    if v.exported then v.value.map (name, ·) else none).reverse

/-- What a descriptor leads to. -/
def channel (s : State) (descriptor : Nat) : Channel :=
  (s.descriptors.lookup descriptor).getD .nowhere

/-- A descriptor that leads somewhere else. -/
def setChannel (s : State) (descriptor : Nat) (c : Channel) : State :=
  { s with descriptors := (descriptor, c) :: s.descriptors.filter (·.1 != descriptor) }

/-- A descriptor closed. -/
def close (s : State) (descriptor : Nat) : State :=
  { s with descriptors := s.descriptors.filter (·.1 != descriptor) }

/-- The number that a shell ends with, of which only the lowest byte is left. -/
def ending (s : State) : Status :=
  .exited (s.status % 256)

/-- Bytes written to a descriptor. -/
def write (s : State) (descriptor : Nat) (bytes : String) : State :=
  { s with world := s.world.write (s.channel descriptor) bytes }

/-- A name as files are looked up under it. -/
def fullName (s : State) (name : String) : String :=
  if name.isEmpty then "" else Files.join (Narrow.toText s.directory) (Narrow.toText name)

/-- A new stream with the given bytes in it. -/
def openStream (s : State) (bytes : String) : Nat × State :=
  let w := s.world
  (w.next, { s with world := { w.setStream w.next bytes with next := w.next + 1 } })

end State

namespace Running

/-! ### Writing and complaining -/

/-- Bytes written to the output. -/
def say (text : String) : Running Unit :=
  modify (·.write 1 text)

/-- Bytes written to the errors. -/
def report (text : String) : Running Unit :=
  modify (·.write 2 text)

/-- The status of the last command set. -/
def setStatus (status : Nat) : Running Unit :=
  modify fun s => { s with status }

/-- A complaint, which names the shell, the line and the part that complains. -/
def complain (message : String) : Running Unit := do
  let s ← get
  let caller := match s.caller with
    | some caller => caller ++ ": "
    | none => ""
  report s!"{s.name}: {s.line}: {caller}{message}\n"

/-- The status of what is at fault. -/
def faultStatus : Nat := 2

/-- A complaint about a fault that ends what runs. -/
def fail {α : Type} (message : String) : Running α := do
  complain message
  setStatus faultStatus
  throw .failure

/-! ### Variables -/

/-- A variable set to a value. -/
def setVariable (name value : String) : Running Unit := do
  let s ← get
  match s.bindings.lookup name with
  | some v =>
    if v.fixed then fail s!"{name}: is read only"
    else set (s.putVariable name { v with value := some value })
  | none => set (s.putVariable name ⟨some value, s.has 'a', false⟩)

/-- A part and then a step that is taken whatever the part came to. -/
def ensuring {α : Type} (step : Running Unit) (part : Running α) : Running α := do
  let a ← tryCatch part fun abort => do
    step
    throw abort
  step
  return a

/-- A part of a shell that complaints are to name. -/
def named {α : Type} (caller : String) (part : Running α) : Running α := do
  let before := (← get).caller
  modify fun s => { s with caller := some caller }
  ensuring (modify fun s => { s with caller := before }) part

end Running

/-! ### Tasks -/

/-- How a command is run.  In the surroundings of a test its failure is no fault, and as the last
    command of a shell it may take the shell's place. -/
structure Mode where
  tested : Bool
  last : Bool

/-- What running one part of a program can ask for on the way. -/
inductive Task where
  | command (c : Command) (mode : Mode)
  /-- The output of a command. -/
  | capture (c : Command)
  /-- A program given by its text. -/
  | text (program : String) (mode : Mode)
  /-- A program of the given name and arguments in the place of the shell. -/
  | become (words : List String)

/-- A way of doing tasks; the answer is the output of a command where that is asked for. -/
abbrev Runner := Task → Running String

end NavScript.Shell
