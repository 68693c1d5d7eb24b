import NavScript.Shell.Builtin.Control
import NavScript.Shell.Builtin.Other
import NavScript.Shell.Builtin.Variables

namespace NavScript.Shell

/-!
# Simple commands

A simple command is a name with arguments, which may have assignments and redirections around it.
The name is that of a function, of a builtin or of a program.

* `Target` — what a name stands for
* `Running.simple` — a simple command
-/

/-! ### What names stand for -/

/-- The builtins that need nothing but their arguments. -/
def builtins : List (String × Builtin) :=
  [(":", Builtin.nothing 0), ("break", Builtin.leaveLoop .breaking),
    ("continue", Builtin.leaveLoop .continuing), ("exit", Builtin.leave),
    ("export", Builtin.exporting), ("readonly", Builtin.fixing), ("return", Builtin.leaveFunction),
    ("set", Builtin.set), ("shift", Builtin.shift), ("times", Builtin.times),
    ("trap", Builtin.trap), ("unset", Builtin.unset), ("alias", Builtin.nothing 0),
    ("unalias", Builtin.nothing 0), ("bg", Builtin.resume), ("fg", Builtin.resume),
    ("cd", Builtin.cd), ("chdir", Builtin.cd), ("echo", Builtin.echo), ("false", Builtin.nothing 1),
    ("getopts", Builtin.getopts), ("hash", Builtin.hash), ("jobs", Builtin.jobs),
    ("kill", Builtin.kill), ("local", Builtin.locals), ("printf", Builtin.printf),
    ("pwd", Builtin.pwd), ("read", Builtin.read), ("test", Builtin.test), ("[", Builtin.bracket),
    ("true", Builtin.nothing 0), ("type", Builtin.type), ("ulimit", Builtin.ulimit),
    ("umask", Builtin.umask), ("wait", Builtin.wait)]

/-- A fault in a builtin of this name ends the shell, and what is assigned for it stays assigned. -/
def isSpecialBuiltin (name : String) : Bool :=
  Reading.specialNames.contains name || name == "local"

/-- What a name stands for. -/
inductive Target where
  | builtin (b : Builtin)
  /-- A program read from a text. -/
  | text
  /-- A program read from a file. -/
  | file
  /-- A program in the place of the shell. -/
  | replacement
  /-- A description of what names stand for. -/
  | description
  | function (body : Command)
  | program

/-- The shell does it by itself. -/
def Target.isBuiltin : Target → Bool
  | .function _ | .program => false
  | _ => true

/-- What a name stands for; functions may be passed over. -/
def State.target (s : State) (functions : Bool) (name : String) : Target :=
  match if functions then s.functions.lookup name else none with
  | some body => .function body
  | none =>
    match name with
    | "eval" => .text
    | "." => .file
    | "exec" => .replacement
    | "command" => .description
    | name =>
      match builtins.lookup name with
      | some b => .builtin b
      | none => .program

/-! ### Words -/

/-- The builtins whose arguments can be assignments, which are not cut into fields. -/
def declares (name : String) : Bool :=
  ["export", "readonly", "local", "alias"].contains name

/-- The words behind `command` when it only passes functions over; nothing when it describes. -/
def behindCommand? : List String → Option (List String)
  | [] => some []
  | "--" :: rest => some rest
  | "-p" :: rest => behindCommand? rest
  | word :: rest =>
    if word.startsWith "-" && word != "-" then none else some (word :: rest)

/-- The words that a command comes to, and whether functions are passed over; `fuel` bounds the
    words that say so. -/
def plainCommand : (fuel : Nat) → (functions : Bool) → List String → Bool × List String
  | fuel + 1, functions, "command" :: rest =>
    match behindCommand? rest with
    | some [] => (functions, ["command"])
    | some words => plainCommand fuel false words
    | none => (functions, "command" :: rest)
  | _, functions, words => (functions, words)

/-- A line that shows a command before it runs. -/
def traceLine (s : State) (assigned : List (String × String)) (words : List String) : String :=
  (s.valueOf? "PS4").getD "+ "
    ++ " ".intercalate ((assigned.map fun a => s!"{a.1}={a.2}") ++ words) ++ "\n"

namespace Running

/-- An argument of a builtin that assigns: what looks like an assignment is one field. -/
def declared (run : Runner) (word : Word) : Running (List String) := do
  match assignment? word with
  | some (name, value) => return [name ++ "=" ++ (← single run value)]
  | none => fieldsOf run word

/-- The fields of a command's words. -/
def commandFields (run : Runner) : List Word → Running (List String)
  | [] => return []
  | word :: rest => do
    match ← fieldsOf run word with
    | [] => commandFields run rest
    | name :: more =>
      if declares name then
        let args ← rest.mapM (declared run)
        return name :: more ++ args.flatten
      else return name :: more ++ (← fields run rest)

/-- Assignments in front of a command, added in reverse to `done`. -/
def assign (run : Runner) (put : String → String → Running Unit) (done : List (String × String)) :
    List (String × Word) → Running (List (String × String))
  | [] => return done.reverse
  | (name, word) :: rest => do
    let value ← single run word
    put name value
    assign run put ((name, value) :: done) rest

/-! ### Running targets -/

/-- The complaint about a program that cannot be run, and the status for that. -/
def notRun (name : String) (o : Obstacle) : Running Unit := do
  match o with
  | .notFound | .notADirectory =>
    complain s!"{name}: not found"
    setStatus 127
  | .nameTooLong =>
    complain s!"{name}: {o.words}"
    setStatus 127
  | o =>
    complain s!"{name}: {o.words}"
    setStatus 126

/-- A program run, in the place of the shell when nothing is left for that to do. -/
def runProgram (run : Runner) (mode : Mode) (words : List String) : Running Unit := do
  let s ← get
  match s.locate (words.headD "") with
  | .error o => notRun (words.headD "") o
  | .ok _ =>
    let become : Running Unit := do
      let _ ← run (.become words)
    if mode.last && s.traps.isEmpty then become else waited (← apart run id become)

/-- A function run with arguments. -/
def call (run : Runner) (mode : Mode) (body : Command) (args : List String) : Running Unit := do
  let s ← get
  let restore : Running Unit := modify fun t =>
    { t with arguments := s.arguments, loopDepth := s.loopDepth, optionPlace := s.optionPlace }
  set { s with arguments := args, loopDepth := 0, optionPlace := (1, 0) }
  ensuring restore do
    let _ ← run (.command body ⟨mode.tested, false⟩)
  modify fun t => { t with skipping := if t.skipping == .returning then .nothing else t.skipping }

/-- The text of a file that commands are to be read from, and its name.  A name without a slash is
    searched for like a program. -/
def programText (name : String) : Running (String × String) := do
  let s ← get
  let read (name : String) : Except Obstacle String :=
    (s.world.files.read (s.fullName name)).map Text.Narrow.ofBytes
  if name.toList.contains '/' then
    match read name with
    | .ok text => return (name, text)
    | .error o => unreadable name o
  else
    match s.path.findSome? fun directory =>
      let full := if directory.isEmpty then name else directory ++ "/" ++ name
      ((read full).toOption).map (full, ·) with
    | some found => return found
    | none => fail s!"{name}: not found"

/-- Commands read from a file. -/
def source (run : Runner) (args : List String) : Running Unit := do
  match args with
  | [] => setStatus 0
  | name :: _ =>
    let (full, text) ← programText name
    named full do
      let _ ← run (.text text ⟨false, false⟩)
      modify fun s =>
        { s with skipping := if s.skipping == .returning then .nothing else s.skipping }

/-- What names stand for, as a builtin says it. -/
def description (args : List String) : Running Unit := do
  let (options, names) ← flags "pvV" args
  match names with
  | [] => setStatus 0
  | name :: _ =>
    let full := options.any (·.1 == 'V')
    setStatus (← Builtin.describe full name)

/-- A target run with arguments. -/
def runTarget (run : Runner) (mode : Mode) (target : Target) (words : List String) :
    Running Unit := do
  let name := words.headD ""
  let args := words.drop 1
  match target with
  | .builtin b => named name do setStatus (← b args)
  | .text => named name do
    let _ ← run (.text (" ".intercalate args) ⟨mode.tested, false⟩)
  | .file => named name (source run (if args.head? == some "--" then args.drop 1 else args))
  | .replacement => named name do
    match if args.head? == some "--" then args.drop 1 else args with
    | [] => setStatus 0
    | words =>
      let _ ← run (.become words)
  | .description => named name (description args)
  | .function body => call run mode body args
  | .program => runProgram run mode words

/-- A part in which a fault ends the whole shell, or only the part. -/
def contained (special : Bool) (part : Running Unit) : Running Unit := do
  try part
  catch abort =>
    match abort with
    | .failure => if special then throw abort
    | abort => throw abort

/-- The descriptors put back where a part has been run among others, unless they are to stay. -/
def withDescriptors (stay : Bool) (before : List (Nat × Channel)) (part : Running Unit) :
    Running Unit := do
  ensuring (if stay then return else modify fun s => { s with descriptors := before }) part

/-- A simple command. -/
def simple (run : Runner) (mode : Mode) (line : Nat) (assignments : List (String × Word))
    (words : List Word) (rs : List Redirection) : Running Unit := do
  modify fun s => { s with line, substituted := 0 }
  let given ← commandFields run words
  let (functions, words) := plainCommand given.length true given
  let prefixed := given.length != words.length
  let name := words.headD ""
  let s ← get
  let special := !prefixed && isSpecialBuiltin name
  let isExec := name == "exec" && !words.isEmpty
  let before := s.descriptors
  let report := s.channel 2
  let put (name value : String) : Running Unit := do
    if words.isEmpty || special then
      if isExec && 1 < words.length then setExported name value else setVariable name value
    else
      save name
      setExported name value
  let part : Running Unit := do
    if !(← redirect run rs) then
      if special then throw .failure
    else
      let assigned ← assign run put [] assignments
      let s ← get
      if s.has 'x' && !(assigned.isEmpty && given.isEmpty) then
        modify fun s => { s with world := s.world.write report (traceLine s assigned given) }
      if words.isEmpty then setStatus (← get).substituted
      else
        let target := s.target functions name
        contained (special || !target.isBuiltin) (runTarget run mode target words)
  let whole := withDescriptors (isExec && words.length == 1) before part
  if words.isEmpty || special then whole else saving whole

end Running

end NavScript.Shell
