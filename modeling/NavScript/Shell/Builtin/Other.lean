import NavScript.Shell.Builtin.Basic
import NavScript.Tool.Test

namespace NavScript.Shell.Builtin

open NavScript.Shell.Running
open NavScript.Text

/-!
# Other builtins

* `echo`, `printf` — printing
* `test`, `bracket` — tests
* `cd`, `pwd` — the directory
* `describe` — what a name stands for
-/

/-! ### Printing -/

/-- Printing with escapes. -/
def echo : Builtin := fun args => do
  if ((← get).descriptors.lookup 1).isNone then
    complain "echo: I/O error"
    return 1
  say (Tool.echoText args)
  return 0

/-- Printing by a format. -/
def printf : Builtin := fun args => do
  let (_, operands) ← flags "" args
  match operands with
  | [] => fail "usage: printf format [arg ...]"
  | format :: values =>
    let p := Tool.Printing.ofFormat .shell format values
    for complaint in p.complaints.reverse do complain complaint
    say p.out
    if p.broken then
      setStatus faultStatus
      throw .failure
    return if p.complaints.isEmpty then 0 else 1

/-! ### Tests -/

/-- A test. -/
def test : Builtin := fun args => do
  let s ← get
  match Tool.Test.value s.entryOf s.canRun args with
  | .ok true => return 0
  | .ok false => return 1
  | .error fault => fail fault.message

/-- A test in brackets, of which the arguments hold the closing one. -/
def bracket : Builtin := fun args =>
  if args.getLast? == some "]" then test args.dropLast else fail "missing ]"

/-! ### The directory -/

/-- The directory of a name, without dots in it. -/
def plainDirectory (full : String) : String :=
  let parts := (Files.components full).foldl (fun done part =>
    if part == "." then done else if part == ".." then done.dropLast else done ++ [part]) []
  "/" ++ "/".intercalate parts

/-- Another directory. -/
def cd : Builtin := fun args => do
  let (_, operands) ← flags "LP" args
  let s ← get
  let wanted := match operands with
    | [] => (s.valueOf? "HOME").getD ""
    | "-" :: _ => (s.valueOf? "OLDPWD").getD ""
    | name :: _ => name
  let full := if wanted.isEmpty then s.directory else Files.join s.directory wanted
  match s.world.files.entry (Narrow.toText full) with
  | .ok .directory =>
    let directory := plainDirectory full
    setExported "OLDPWD" s.directory
    setExported "PWD" directory
    modify fun s => { s with directory }
    if operands.head? == some "-" then say (directory ++ "\n")
    return 0
  | _ => fail s!"can't cd to {wanted}"

/-- The directory. -/
def pwd : Builtin := fun args => do
  let _ ← flags "LP" args
  say ((← get).directory ++ "\n")
  return 0

/-! ### Names -/

/-- The other builtins. -/
def plainNames : List String :=
  ["alias", "bg", "cd", "chdir", "command", "echo", "false", "fg", "getopts", "hash", "jobs",
    "kill", "local", "printf", "pwd", "read", "test", "[", "true", "type", "ulimit", "umask",
    "unalias", "wait"]

/-- What a name stands for, said in full or as a command; a name that stands for nothing fails. -/
def describe (full : Bool) (name : String) : Running Nat := do
  let s ← get
  let tell (kind : String) : Running Nat := do
    say (if full then s!"{name}{kind}\n" else s!"{name}\n")
    return 0
  if reservedWords.contains name then tell " is a shell keyword"
  else if name.toList.contains '/' then
    if (s.entryOf name).isOk then tell s!" is {name}"
    else
      if full then say s!"{name}: not found\n"
      return 127
  else if (s.functions.lookup name).isSome then tell " is a shell function"
  else if Reading.specialNames.contains name then tell " is a special shell builtin"
  else if plainNames.contains name then tell " is a shell builtin"
  else
    match s.locate name with
    | .ok (file, _) =>
      say (if full then s!"{name} is {file}\n" else s!"{file}\n")
      return 0
    | .error _ =>
      if full then say s!"{name}: not found\n"
      return 127

/-- What names stand for. -/
def type : Builtin := fun args => do
  let mut status := 0
  for name in args do
    if (← describe true name) != 0 then status := 127
  return status

/-- Programs looked up. -/
def hash : Builtin := fun args => do
  let (_, names) ← flags "rv" args
  let mut status := 0
  for name in names do
    if (← get).locate name matches .error _ then
      complain s!"{name}: not found"
      status := 1
  return status

/-! ### Limits and times -/

/-- The access that new files do not give. -/
def umask : Builtin := fun args => do
  let (options, operands) ← flags "S" args
  if operands.isEmpty then
    say (if options.isEmpty then "0022\n" else "u=rwx,g=rx,o=rx\n")
  return 0

/-- The limits of programs, of which there are none. -/
def ulimit : Builtin := fun args => do
  if !args.any fun arg => arg.startsWith "-c" then
    if args.length < 2 then say "unlimited\n"
  else if args.length < 2 then say "0\n"
  return 0

/-- The time that has been used, which is none. -/
def times : Builtin := fun _ => do
  say "0m0.000000s 0m0.000000s\n0m0.000000s 0m0.000000s\n"
  return 0

/-- Nothing done, with a status. -/
def nothing (status : Nat) : Builtin := fun _ => return status

end NavScript.Shell.Builtin
