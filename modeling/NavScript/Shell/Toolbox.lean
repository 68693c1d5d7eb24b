import NavScript.Shell.Run
import NavScript.Flattener

namespace NavScript.Shell

open NavScript.Text

/-!
# The toolbox

The programs that flatteners are made of: a shell and the small tools beside it.

* `toolbox` — the programs
-/

/-- The surroundings in which a program starts: among the files, with nothing to read. -/
def surroundings (files : Files) : State where
  world := { files, streams := [], signals := [], next := 1000 }
  name := ""
  arguments := []
  bindings := [("PATH", ⟨some defaultPath, true, false⟩), ("HOME", ⟨some "/root", true, false⟩)]
  functions := []
  options := []
  status := 0
  substituted := 0
  directory := "/" ++ "/".intercalate (Files.working.drop 1)
  descriptors := [(0, .nowhere), (1, .stream 1), (2, .stream 2)]
  documents := []
  traps := []
  caught := []
  skipping := .nothing
  line := 0
  caller := none
  process := 999
  givenProcess := 998
  background := []
  loopDepth := 0
  saved := []
  optionPlace := (1, 0)

/-- A text that no program can be given. -/
def holdsNul (text : String) : Bool :=
  text.toList.contains (Char.ofNat 0)

/-- The longest argument that a program can be given, in bytes. -/
def argumentLimit : Nat := 131071

/-- The room for all arguments of a program, in bytes. -/
def argumentsLimit : Nat := 2088960

/-- The arguments are too long for a program. -/
def areTooLong (words : List String) : Bool :=
  words.any (fun word => argumentLimit < word.utf8ByteSize)
    || argumentsLimit < words.foldl (fun size word => size + (word.utf8ByteSize + 9)) 0

/-- Why a program cannot be searched for by a name. -/
def nameObstacle? (name : String) : Option Obstacle :=
  if !name.toList.contains '/' && Files.componentLimit < name.utf8ByteSize then some .nameTooLong
  else none

/-- The programs. -/
def toolbox : Programs := fun files name args =>
  let words := name :: args
  if words.any holdsNul then (.error .nulInArgument, files)
  else
    let s := surroundings files
    match (nameObstacle? name).map Except.error |>.getD (s.locate (Narrow.ofText name)) with
    | .error obstacle => (.error obstacle, files)
    | .ok _ =>
      if areTooLong words then (.error .argumentsTooLong, files)
      else
        let task := Running.run Running.depthLimit (.become (words.map Narrow.ofText))
        let (status, after) := Running.toEnd (Running.run Running.depthLimit) (discard task) s
        let w := after.world
        (.ok ⟨status, Narrow.toBytes (w.stream 1), Narrow.toBytes (w.stream 2)⟩, w.files)

end NavScript.Shell
