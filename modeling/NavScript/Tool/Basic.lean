import NavScript.Files.Basic
import NavScript.Text.Narrow

namespace NavScript

open NavScript.Text

/-!
# Tools

A tool is a small program that needs nothing but its arguments, its input and the files.  It writes
to its output and to its errors, may change files, and ends with a number.  All its texts are
narrow.

* `Call` — what a tool is given
* `Result` — what a tool comes to
* `Work` — what a tool does, step by step
-/

namespace Tool

/-- What a tool is given: its arguments, its input or the obstacle in the way of reading that, the
    files, the directory that their names are seen from, and the variables of its surroundings. -/
structure Call where
  args : List String
  input : Except Obstacle String
  files : Files
  directory : String
  environment : List (String × String)

/-- What a tool comes to: its status, what it wrote, the files afterwards, and what is left of its
    input, if it looked at that. -/
structure Result where
  status : Nat
  /-- What was written, last first; `true` stands for the errors. -/
  writes : List (Bool × String)
  files : Files
  input : Option String

end Tool

/-- A tool. -/
abbrev Tool := Tool.Call → Tool.Result

namespace Tool

/-- A tool at work: what it was given and what it has come to so far. -/
structure Job where
  call : Call
  result : Result

/-- A step of a tool's work. -/
abbrev Work := StateM Job

/-- The tool that does some work and then ends with success, unless the work said otherwise. -/
def of (work : List String → Work Unit) : Tool := fun call =>
  ((work call.args).run ⟨call, ⟨0, [], call.files, none⟩⟩).2.result

namespace Work

/-- A text written to the output. -/
def say (text : String) : Work Unit :=
  modify fun j => { j with result := { j.result with writes := (false, text) :: j.result.writes } }

/-- A text written to the errors. -/
def complain (text : String) : Work Unit :=
  modify fun j => { j with result := { j.result with writes := (true, text) :: j.result.writes } }

/-- The number to end with. -/
def setStatus (status : Nat) : Work Unit :=
  modify fun j => { j with result := { j.result with status } }

/-- A complaint after which the tool ends with the given number. -/
def fail (status : Nat) (text : String) : Work Unit := do
  complain text
  setStatus status

/-- The files as they are now. -/
def files : Work Files := do
  return (← get).result.files

/-- A change of the files, or what stands in the way of it. -/
def change (f : Files → Except Obstacle Files) : Work (Except Obstacle Unit) := do
  match f (← files) with
  | .ok files =>
    modify fun j => { j with result := { j.result with files } }
    return .ok ()
  | .error obstacle => return .error obstacle

/-- The name under which files are looked up: seen from the tool's directory. -/
def fullName (name : String) : Work String := do
  let directory := (← get).call.directory
  return if name.isEmpty then "" else Files.join (Narrow.toText directory) (Narrow.toText name)

/-- The input that nothing has taken yet, which is then taken. -/
def takeInput : Work String := do
  let j ← get
  let input := j.result.input.getD (j.call.input.toOption.getD "")
  set { j with result := { j.result with input := some "" } }
  return input

/-- A part of the input given back. -/
def giveBack (input : String) : Work Unit :=
  modify fun j => { j with result := { j.result with input := some input } }

/-- The contents of a file; the name `-` stands for the input. -/
def contents (name : String) : Work (Except Obstacle String) := do
  if ["-", "/dev/stdin", "/dev/fd/0", "/proc/self/fd/0"].contains name then
    match (← get).call.input with
    | .ok _ => return .ok (← takeInput)
    | .error o => return .error o
  return ((← files).read (← fullName name)).map Narrow.ofBytes

/-- What stands under a name. -/
def entry (name : String) : Work (Except Obstacle Entry) := do
  return (← files).entry (← fullName name)

/-- A file with new contents. -/
def write (name text : String) : Work (Except Obstacle Unit) := do
  let name ← fullName name
  change fun files => files.write name (Narrow.toBytes text)

end Work

/-! ### Names in messages -/

/-- The characters of a name that needs no quotes in a message. -/
def isPlain (c : Char) : Bool :=
  c.isAlphanum || "_-./+,:@%^]\x7b\x7d".toList.contains c

/-- A text in quotes.  Double quotes stand around a single one. -/
def quote (name : String) : String :=
  if name.toList.contains '\'' then
    if name.toList.any fun c => c == '"' || c == '$' || c == '\\' || c == Char.ofNat 0x60 then
      "'" ++ String.join (name.toList.map fun c => if c == '\'' then "'\\''" else c.toString) ++ "'"
    else "\"" ++ name ++ "\""
  else "'" ++ name ++ "'"

/-- A name as messages show it, in quotes where it needs them. -/
def shown (name : String) : String :=
  if !name.isEmpty && name.toList.all isPlain then name else quote name

/-! ### Lines -/

/-- A text cut behind each line feed. -/
def linesOf (text : String) : List String :=
  let ended := text.splitOn "\n"
  match ended.reverse with
  | [] => []
  | last :: before =>
    (before.reverse.map (· ++ "\n")) ++ (if last.isEmpty then [] else [last])

/-- A line without its line feed. -/
def lineBody (line : String) : String :=
  if line.endsWith "\n" then String.ofList line.toList.dropLast else line

/-- Words between blanks, in which quotes and backslashes hold blanks together: those that have
    ended, last first, the characters of the one that has begun, if one has, and the quote that is
    open. -/
structure WordCutting where
  ended : List String
  begun : Option (List Char)
  opened : Option Char
  escaped : Bool

/-- A character more. -/
def WordCutting.step (w : WordCutting) (c : Char) : WordCutting :=
  let more := { w with begun := some (c :: w.begun.getD []), escaped := false }
  if w.escaped then more
  else
    match w.opened with
    | some mark => if c == mark then { w with opened := none } else more
    | none =>
      if c == '\\' then { w with escaped := true }
      else if c == '\'' || c == '"' then
        { w with begun := some (w.begun.getD []), opened := some c }
      else if c == ' ' || (9 ≤ c.toNat && c.toNat ≤ 13) then
        match w.begun with
        | some cs => { w with ended := String.ofList cs.reverse :: w.ended, begun := none }
        | none => w
      else more

/-- The words of a text between blanks, in which quotes and backslashes hold blanks together. -/
def wordsOf (text : String) : List String :=
  ((text.push ' ').toList.foldl WordCutting.step ⟨[], none, none, false⟩).ended.reverse

end Tool

end NavScript
