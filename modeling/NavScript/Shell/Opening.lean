import NavScript.Shell.Expansion
import NavScript.Shell.Signal

namespace NavScript.Shell

open NavScript.Text

/-!
# Opening descriptors

A redirection makes a descriptor lead to a file, to where another descriptor leads, or to a text of
the program.  All targets of a command's redirections are found before the first of them is opened,
and when one cannot be opened the command does not run.

* `Running.openFile` — a file opened
* `Running.redirect` — redirections opened one after the other
* `Running.redirected` — a part with redirections around it
-/

/-- A redirection whose target has been found. -/
structure Redirected where
  descriptor : Nat
  how : Opening
  target : String

/-- The descriptor that a name among the devices stands for. -/
def deviceDescriptor? (name : String) : Option Nat :=
  match name with
  | "/dev/stdin" => some 0
  | "/dev/stdout" => some 1
  | "/dev/stderr" => some 2
  | name =>
    match Files.components name with
    | ["dev", "fd", number] => if Files.isAbsolute name then number.toNat? else none
    | _ => none

/-- Why a file cannot be opened, as shells say it. -/
def openingWords (missing : String) (o : Obstacle) : String :=
  match o with
  | .notFound | .notADirectory => missing
  | o => o.words

namespace Running

/-- The complaint about a file that cannot be read. -/
def unreadable {α : Type} (name : String) (o : Obstacle) : Running α :=
  fail (s!"cannot open {name}: " ++ openingWords "No such file" o)

/-- The complaint about a file that cannot be written. -/
def unwritable {α : Type} (name : String) (o : Obstacle) : Running α :=
  fail (s!"cannot create {name}: " ++ openingWords "Directory nonexistent" o)

/-- A file opened for reading. -/
def openForReading (name : String) : Running Channel := do
  let s ← get
  match s.world.files.entry (s.fullName name) with
  | .ok .directory => return .directory
  | .ok .device => return .nowhere
  | .ok entry =>
    match entry.contents with
    | .ok bytes =>
      let (number, s) := s.openStream (Narrow.ofBytes bytes)
      set s
      return .stream number
    | .error o => unreadable name o
  | .error o => unreadable name o

/-- A file opened for writing, behind what it holds or in place of that. -/
def openForWriting (append force : Bool) (name : String) : Running Channel := do
  let s ← get
  let full := s.fullName name
  let files := s.world.files
  match files.find full with
  | .error o => unwritable name o
  | .ok (place, found) =>
    let keeps := match found with
      | some (.file _) => append
      | _ => false
    if keeps then return .file place
    if found.isSome && s.has 'C' && !append && !force then
      if let some (.file _) := found then unwritable name .alreadyExists
    match files.write full [] with
    | .error o => unwritable name o
    | .ok files =>
      set { s with world := { s.world with files } }
      return match found with
        | some .device => .nowhere
        | _ => .file place

/-- The channel of a descriptor that must be open. -/
def openChannel (descriptor : Nat) : Running Channel := do
  match (← get).descriptors.lookup descriptor with
  | some c => return c
  | none => fail s!"{descriptor}: Bad file descriptor"

/-- A file opened. -/
def openFile (how : Opening) (name : String) : Running Channel := do
  match deviceDescriptor? name with
  | some descriptor =>
    match (← get).descriptors.lookup descriptor with
    | some c => return c
    | none => if how == .reading then unreadable name .notFound else unwritable name .notFound
  | none =>
    if name == "/dev/tty" then
      let verb := if how == .reading then "open" else "create"
      fail s!"cannot {verb} /dev/tty: No such device or address"
    match how with
    | .reading => openForReading name
    | .writing => openForWriting false false name
    | .replacing => openForWriting false true name
    | .appending => openForWriting true false name
    | _ =>
      let s ← get
      if (s.world.files.entry (s.fullName name)).isOk then openForReading name
      else openForWriting false false name

/-- A redirection opened. -/
def openOne (run : Runner) (r : Redirected) : Running Unit := do
  match r.how with
  | .duplicate =>
    if r.target == "-" then modify (·.close r.descriptor)
    else
      let c ← openChannel (r.target.toNat?.getD 0)
      modify (·.setChannel r.descriptor c)
  | .document number =>
    let word := ((← get).documents.lookup number).getD []
    let text ← single run word
    let (stream, s) := (← get).openStream text
    set (s.setChannel r.descriptor (.stream stream))
  | how =>
    let c ← openFile how r.target
    modify (·.setChannel r.descriptor c)

/-- The target of a redirection. -/
def targetOf (run : Runner) : Redirection → Running Redirected
  | .mk descriptor how word => do
    let target ← single run word
    if how == .duplicate && target != "-" && !(target.length == 1 && target.toList.all Char.isDigit)
    then fail "Syntax error: Bad fd number"
    return ⟨descriptor, how, target⟩

/-- Redirections opened one after the other, and whether that went well. -/
def redirect (run : Runner) (rs : List Redirection) : Running Bool := do
  let targets ← rs.mapM (targetOf run)
  try
    for r in targets do openOne run r
    return true
  catch
    | .failure => return false
    | abort => throw abort

/-- A part with redirections around it, which does not run when one of them cannot be opened.  What
    the descriptors were before they are again. -/
def redirected (run : Runner) (rs : List Redirection) (part : Running Unit) : Running Unit := do
  let before := (← get).descriptors
  ensuring (modify fun s => { s with descriptors := before }) do
    if ← redirect run rs then part

end Running

end NavScript.Shell
