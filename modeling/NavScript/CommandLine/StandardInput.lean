import NavScript.Flattener

namespace NavScript.CommandLine

/-!
# The standard input

The standard input is what a script called `-` is read from, and it is found among the files too.
Some names lead every program to its own standard input, and there can be others that lead all of
them to this one.  A file is found there as a whole, by everyone and however often.  Of a pipe
everyone finds what nobody has taken yet.

* `Stream` — the bytes of a standard input
* `StandardInput` — a standard input with its names
* `StandardInput.among` — the files with the standard input among them
* `StandardInput.readAt`, `StandardInput.readAsScript` — what is left of it
* `StandardInput.flattening` — a flattener beside it
-/

/-! ### The bytes -/

/-- The bytes of a standard input.  Of a file some have been passed over before the program begins.
    Of a pipe some are taken by the reader of a script that is read from it, and the rest is there
    for anyone else who reads from it meanwhile; there is none if nobody does. -/
inductive Stream where
  | file (passed rest : List UInt8)
  | pipe (taken rest : List UInt8)

namespace Stream

/-- What is found by someone who opens it under a name. -/
def contents : Stream → List UInt8
  | .file passed rest => passed ++ rest
  | .pipe taken rest => taken ++ rest

/-- What is left when someone has read it under a name. -/
def drained : Stream → Stream
  | .file passed rest => .file passed rest
  | .pipe _ _ => .pipe [] []

/-- What the script consists of that is read from it. -/
def script : Stream → List UInt8
  | .file _ rest => rest
  | .pipe taken _ => taken

/-- What the script consists of that is read from it under a name. -/
def scriptByName : Stream → List UInt8
  | .file passed rest => passed ++ rest
  | .pipe taken _ => taken

/-- What is left for others when a script is read from it. -/
def besideScript : Stream → Stream
  | .file passed rest => .file passed rest
  | .pipe _ rest => .pipe [] rest

end Stream

/-! ### The names -/

/-- A standard input: its bytes, and the names under which it is found. -/
structure StandardInput where
  stream : Stream
  /-- The names that lead every program to its own standard input. -/
  own : List String
  /-- The names that lead every program to this one. -/
  shared : List String

namespace StandardInput

/-- The names of the standard input that every system has. -/
def systemNames : List String := ["/dev/stdin", "/dev/fd/0", "/proc/self/fd/0"]

/-- A pipe that nobody but the reader of a script reads from meanwhile, under the names that every
    system has. -/
def ofPipe (bytes : List UInt8) : StandardInput := ⟨.pipe bytes [], systemNames, []⟩

variable (input : StandardInput)

/-- The places where every program finds its own standard input. -/
def ownPlaces : List Place := input.own.map Files.placeOf

/-- The places where every program finds this one. -/
def sharedPlaces : List Place :=
  (input.shared.map Files.placeOf).filter fun place => !input.ownPlaces.contains place

/-- The places where this program finds it. -/
def places : List Place := input.ownPlaces ++ input.sharedPlaces

/-- A name under which this program finds it. -/
def isAt (name : String) : Bool := input.places.contains (Files.placeOf name)

/-- The files with the standard input among them. -/
def among (files : Files) : Files :=
  ((input.own ++ input.shared).foldl (fun files name => files.place name (.file [])) files).fill
    input.places input.stream.contents

/-- What is left when the file under a name has been read. -/
def readAt (name : String) : StandardInput :=
  if input.isAt name then { input with stream := input.stream.drained } else input

/-- What is left for others when the script is read from it. -/
def readAsScript : StandardInput :=
  { input with stream := input.stream.besideScript }

/-! ### Flatteners beside it -/

/-- Programs that have a standard input of their own, with nothing in it. -/
def apart (programs : Programs) : Programs := fun files program args =>
  let (finished, files) := programs (files.fill input.ownPlaces []) program args
  (finished, files.fill input.ownPlaces input.stream.contents)

/-- A flattener at work.  By the time that it is asked for a drawing, that has been read once. -/
def flattening (f : StandardInput → Flattener) : Flattener := fun files r =>
  let left := input.readAt r.file
  f left (files.fill left.places left.stream.contents) r

end StandardInput

end NavScript.CommandLine
