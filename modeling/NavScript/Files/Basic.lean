import NavScript.Files.Path
import NavScript.Obstacle

namespace NavScript

/-!
# Files

What a run sees of the file system: files and directories by the places where they stand.  Names are
looked up component by component from the working directory, or from the root.

* `Entry`, `Place`, `Files` — what stands where
* `Files.read`, `Files.readText` — the contents of a file
* `Files.write`, `Files.fill`, `Files.remove` — changes
* `Files.ofList` — the working directory given by the names and contents in it
-/

/-- A file with its contents, a file that may not be read, a directory, or a device that is empty
    and takes everything. -/
inductive Entry where
  | file (bytes : List UInt8)
  | locked
  | directory
  | device

/-- The contents that can be read. -/
def Entry.contents : Entry → Except Obstacle (List UInt8)
  | .file bytes => .ok bytes
  | .locked => .error .permissionDenied
  | .directory => .error .isADirectory
  | .device => .ok []

/-- The entry with other contents, if it is a file that holds any. -/
def Entry.filled (bytes : List UInt8) : Entry → Entry
  | .file _ => .file bytes
  | entry => entry

/-- Where something stands: the components that lead there from the working directory, or from the
    root when the first of them is a slash. -/
abbrev Place := List String

/-- What stands where, apart from what every system has, and which of the files can be run. -/
structure Files where
  entries : List (Place × Entry)
  runnable : List Place := []

namespace Files

/-! ### Places -/

/-- The root. -/
def root : Place := ["/"]

/-- The components of a name, which is a directory when it ends in a slash. -/
def components (name : String) : List String :=
  ((name.toList.splitOn '/').filter (!·.isEmpty)).map String.ofList

/-- The place of the working directory as seen from the root, which is taken to be a temporary
    one. -/
def working : Place := ["/", "tmp", "work"]

/-- The directory above a place. -/
def above : Place → Place
  | [] => working.dropLast
  | [top] => if [top] == root then root else []
  | place => place.dropLast

/-- A place, which the working directory begins where it is on the way. -/
def fromWorking (place : Place) : Place :=
  if place == working then [] else place

/-- The directories that every system has. -/
def systemDirectories : List Place :=
  (["bin", "boot", "dev", "etc", "home", "lib", "mnt", "opt", "proc", "root", "run", "sbin", "srv",
    "sys", "tmp", "usr", "var"].map fun name => ["/", name])
    ++ ["bin", "lib", "local", "sbin", "share"].map fun name => ["/", "usr", name]

/-- What every system has: its directories, and a device that takes everything. -/
def system : List (Place × Entry) :=
  (["/", "dev", "null"], .device) :: systemDirectories.map (·, .directory)

/-- What stands at a place. -/
def at? (files : Files) (place : Place) : Option Entry :=
  if place == [] || place == root then some .directory
  else (files.entries.lookup place).or (system.lookup place)

/-! ### Looking names up -/

/-- The longest component that can be looked up, in bytes. -/
def componentLimit : Nat := 255

/-- The longest name that can be looked up, in bytes. -/
def nameLimit : Nat := 4095

/-- The place of a component seen from a directory, and what stands there, if anything does. -/
def step (files : Files) (here : Place) (part : String) : Except Obstacle (Place × Option Entry) :=
  if part == "" || part == "." then .ok (here, some .directory)
  else if part == ".." then .ok (above here, some .directory)
  else if componentLimit < part.utf8ByteSize then .error .nameTooLong
  else
    let place := fromWorking (here ++ [part])
    .ok (place, files.at? place)

/-- The place reached along components, all but the last of which must be directories. -/
def walk (files : Files) (here : Place) : List String → Except Obstacle (Place × Option Entry)
  | [] => .ok (here, some .directory)
  | [part] => files.step here part
  | part :: next :: rest => do
    match ← files.step here part with
    | (here, some .directory) => files.walk here (next :: rest)
    | (_, some _) => .error .notADirectory
    | (_, none) => .error .notFound

/-- The place of a name, and what stands there, if anything does. -/
def find (files : Files) (name : String) : Except Obstacle (Place × Option Entry) :=
  if name.toList.contains (Char.ofNat 0) then .error .nulInName
  else if name.isEmpty then .error .notFound
  else if nameLimit < name.utf8ByteSize then .error .nameTooLong
  else files.walk (if isAbsolute name then root else [])
    ((name.toList.splitOn '/').map String.ofList)

/-- The entry under a name. -/
def entry (files : Files) (name : String) : Except Obstacle Entry := do
  match ← files.find name with
  | (_, some entry) => return entry
  | (_, none) => .error .notFound

/-- The contents of a file. -/
def read (files : Files) (name : String) : Except Obstacle (List UInt8) := do
  (← files.entry name).contents

/-- The contents of a file as text. -/
def readText (files : Files) (name : String) : Except Obstacle String := do
  let bytes ← files.read name
  (Text.Utf8.decode bytes).mapError fun _ => .notText

/-- The names in a directory, in the order of their characters. -/
def names (files : Files) (place : Place) : List String :=
  let inside (p : Place) : Option String :=
    match p.getLast? with
    | some name => if p.dropLast == place && p != root then some name else none
    | none => none
  ((files.entries ++ system).filterMap fun e => inside e.1).eraseDups.mergeSort fun a b => a ≤ b

/-! ### Changes -/

/-- An entry put at a place, in place of what stood there. -/
def put (files : Files) (place : Place) (entry : Entry) : Files :=
  { files with entries := (place, entry) :: files.entries.filter (·.1 != place) }

/-- Nothing left at a place. -/
def drop (files : Files) (place : Place) : Files :=
  { files with
    entries := files.entries.filter (·.1 != place)
    runnable := files.runnable.filter (· != place) }

/-- A file with the given contents, new or in place of an old one. -/
def write (files : Files) (name : String) (bytes : List UInt8) : Except Obstacle Files := do
  match ← files.find name with
  | (_, some .directory) => .error .isADirectory
  | (_, some .locked) => .error .permissionDenied
  | (_, some .device) => return files
  | (place, _) => return files.put place (.file bytes)

/-- A new directory. -/
def makeDirectory (files : Files) (name : String) : Except Obstacle Files := do
  match ← files.find (String.ofList (trimEnd name.toList.reverse).reverse) with
  | (_, some _) => .error .alreadyExists
  | (place, none) => return files.put place .directory

/-- What stands at a place, seen after the files at certain places have got other contents. -/
def filledAt (places : List Place) (bytes : List UInt8) (place : Place) (entry : Entry) : Entry :=
  if place ∈ places then entry.filled bytes else entry

/-- The files with other contents in those that stand at certain places. -/
def fill (files : Files) (places : List Place) (bytes : List UInt8) : Files :=
  { files with entries := files.entries.map fun e => (e.1, filledAt places bytes e.1 e.2) }

/-- A file removed. -/
def remove (files : Files) (name : String) : Except Obstacle Files := do
  match ← files.find name with
  | (_, some .directory) => .error .isADirectory
  | (place, some _) => return files.drop place
  | (_, none) => .error .notFound

/-- A directory removed, in which nothing may be left. -/
def removeDirectory (files : Files) (name : String) : Except Obstacle Files := do
  match ← files.find name with
  | (place, some .directory) =>
    if (files.names place).isEmpty then return files.drop place else .error .notEmpty
  | (_, some _) => .error .notADirectory
  | (_, none) => .error .notFound

/-- A file that can be run from now on, or no longer. -/
def setRunnable (files : Files) (name : String) (on : Bool) : Except Obstacle Files := do
  match ← files.find name with
  | (place, some _) =>
    let others := files.runnable.filter (· != place)
    return { files with runnable := if on then place :: others else others }
  | (_, none) => .error .notFound

/-! ### A directory given by its contents -/

/-- The place that a name leads to where all of its directories exist. -/
def placeOf (name : String) : Place :=
  (components name).foldl (fun here part =>
    if part == "." then here else if part == ".." then above here else fromWorking (here ++ [part]))
    (if isAbsolute name then root else [])

/-- A file or directory put under a name, with the directories that lead there. -/
def place (files : Files) (name : String) (entry : Entry) : Files :=
  let place := placeOf name
  let leading := (List.range (place.length - 1)).map fun n => place.take (n + 1)
  let files : Files := leading.foldl (fun files p =>
    if (files.at? p).isSome then files else files.put p .directory) files
  files.put place entry

/-- The files of the given names and contents; a name that ends in a slash is a directory. -/
def ofList (contents : List (String × List UInt8)) : Files :=
  contents.foldl (fun files (name, bytes) =>
    files.place name (if name.toList.getLast? == some '/' then .directory else .file bytes))
    { entries := [] }

end Files

end NavScript
