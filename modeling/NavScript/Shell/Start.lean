import NavScript.Shell.Evaluation
import NavScript.Tool.Arguments

namespace NavScript.Shell

open NavScript.Text

/-!
# Programs started

A program runs in the place of the shell that starts it.  Some programs start others in turn.

* `Running.start` — a program run
* `Running.become` — a program found and run
-/

namespace Running

/-! ### Shells -/

/-- A shell at its beginning, in the surroundings of another. -/
def fresh (s : State) (name : String) (started : Nat) : State :=
  let given := s.environment.filter fun v => isVariableName v.1 && v.1 != "IFS"
  let imported := given.map fun (name, value) => (name, Variable.mk (some value) true false)
  let own := [("PATH", defaultPath), ("OPTIND", "1")].filter fun v => (given.lookup v.1).isNone
  { s with
    name
    arguments := []
    bindings := [("PWD", Variable.mk (some s.directory) true false),
        ("PPID", Variable.mk (some (toString started)) false false)]
      ++ own.map (fun (name, value) => (name, Variable.mk (some value) false false))
      ++ imported.filter (·.1 != "PWD")
    functions := []
    options := []
    status := 0
    substituted := 0
    documents := []
    traps := []
    caught := []
    skipping := .nothing
    line := 0
    caller := none
    givenProcess := s.process
    background := []
    loopDepth := 0
    saved := []
    optionPlace := (1, 0) }

/-- The text of a script that a shell has been given. -/
def scriptText (name : String) : Running String := do
  let s ← get
  match (s.world.files.read (s.fullName name)).map Narrow.ofBytes with
  | .ok text => return text
  | .error .isADirectory => return ""
  | .error o => unreadable name o

/-- What a shell runs that has been started with arguments. -/
def begin (run : Runner) (args : List String) : Running Unit := do
  let (asksText, _, operands) ← Builtin.takeOptions true (args.length + 1) false args
  let readsInput := (← get).has 's'
  let setParameters (operands : List String) : Running Unit := do
    match operands with
    | name :: arguments => modify fun s => { s with name, arguments }
    | [] => return
  let runInput : Running Unit := do
    modify fun s => { s with options := 's' :: s.options.filter (· != 's') }
    let s ← get
    let input := s.channel 0
    let text := s.world.input input
    set { s with world := s.world.setInput input "" }
    let _ ← run (.text text ⟨false, false⟩)
  match asksText, operands with
  | true, [] => fail "-c requires an argument"
  | true, text :: operands =>
    setParameters operands
    let _ ← run (.text text ⟨false, !readsInput⟩)
    if readsInput then runInput
  | false, [] => runInput
  | false, name :: arguments =>
    if readsInput then
      modify fun s => { s with arguments := operands }
      runInput
    else
      let text ← scriptText name
      modify fun s => { s with name, arguments }
      let _ ← run (.text text ⟨false, false⟩)

/-- A shell of a name, started with arguments by the shell of a number. -/
def runShell (run : Runner) (name : String) (args : List String) : Running Status := do
  let s ← get
  let (status, after) := toEnd run (begin run args) (fresh s name s.givenProcess)
  set { s with world := after.world }
  return status

/-! ### Programs that start others -/

/-- A program in the place of one that starts it, which complains by itself when there is none. -/
def startOther (run : Runner) (complaint : String → String) (words : List String) :
    Running Status := do
  let name := words.headD ""
  match (← get).locate name with
  | .ok _ =>
    let _ ← run (.become words)
    return .success
  | .error o =>
    report s!"{complaint name}: {o.words}\n"
    return .exited (if o == .notFound || o == .notADirectory then 127 else 126)

/-- The complaint about arguments, with the number to end with. -/
def badArguments (name complaint : String) (status : Nat) : Running Status := do
  report (Tool.usageComplaint name complaint)
  return .exited status

/-- The options of a program that runs another among other variables. -/
def environmentOptions : Tool.Options :=
  { Tool.Options.make "iu:0vC:S:"
      [("ignore-environment", 'i', .none), ("unset", 'u', .required), ("null", '0', .none),
        ("chdir", 'C', .required), ("split-string", 'S', .required), ("debug", 'v', .none)] with
    inOrder := true }

/-- A program run among other variables, or those variables listed. -/
def runEnvironment (run : Runner) (args : List String) : Running Status := do
  match environmentOptions.read args with
  | .error complaint => badArguments "env" complaint 125
  | .ok items =>
    let operands := (Tool.values items 'S').flatMap (fun text => Tool.wordsOf text)
      ++ Tool.operands items
    let clears := Tool.has items 'i' || operands.head? == some "-"
    let operands := if operands.head? == some "-" then operands.drop 1 else operands
    let given := operands.takeWhile fun text => text.toList.contains '='
    let words := operands.dropWhile fun text => text.toList.contains '='
    let s ← get
    let kept := if clears then [] else s.environment.filter fun v =>
      !(Tool.values items 'u').contains v.1
    let assigned := given.map fun text =>
      let (name, value) := splitAssignment text
      (name, value.getD "")
    let all := assigned.foldl (fun (all : List (String × String)) (name, value) =>
      if (all.lookup name).isSome then all.map fun v => if v.1 == name then (name, value) else v
      else all ++ [(name, value)]) kept
    match Tool.value? items 'C' with
    | some directory => modify fun s => { s with directory := Files.join s.directory directory }
    | none => Pure.pure ()
    modify fun s => { s with
      bindings := all.reverse.map fun (name, value) => (name, Variable.mk (some value) true false) }
    if words.isEmpty then
      let ending := if Tool.has items '0' then (Char.ofNat 0).toString else "\n"
      say (String.join (all.map fun (name, value) => s!"{name}={value}{ending}"))
      return .success
    else startOther run (fun name => s!"env: {Tool.quote name}") words

/-- The options of programs that run others as they would run by themselves. -/
def plainOptions : Tool.Options :=
  { Tool.Options.make "n:s:k:cfwpv"
      [("adjustment", 'n', .required), ("signal", 's', .required), ("kill-after", 'k', .required),
        ("preserve-status", 'p', .none), ("foreground", 'f', .none)] with
    inOrder := true }

/-- A program run as it would run by itself. -/
def runPlain (run : Runner) (name : String) (own : Nat) (args : List String) : Running Status := do
  match plainOptions.read args with
  | .error complaint => badArguments name complaint 125
  | .ok items =>
    let words := (Tool.operands items).drop own
    let complaint (other : String) :=
      if name == "nice" || name == "setsid" then s!"{name}: {Tool.quote other}"
      else s!"{name}: failed to run command {Tool.quote other}"
    if words.isEmpty && name == "timeout" then
      report "Try 'timeout --help' for more information.\n"
      return .exited 125
    else if words.isEmpty then badArguments name "missing operand" 125
    else startOther run complaint words

/-- The options of a program that runs another with what it reads. -/
def batchOptions : Tool.Options :=
  { Tool.Options.make "0I:n:L:d:rtP:xs:E:"
      [("null", '0', .none), ("max-args", 'n', .required), ("replace", 'I', .optional),
        ("no-run-if-empty", 'r', .none), ("delimiter", 'd', .required),
        ("max-lines", 'L', .required), ("verbose", 't', .none), ("max-procs", 'P', .required)] with
    inOrder := true }

/-- Lists of so many items. -/
def batches {α : Type} (size : Nat) (items : List α) : List (List α) :=
  (List.range ((items.length + size - 1) / size)).map fun n => (items.drop (n * size)).take size

/-- Commands run one after the other, each in a place of its own; the status of all. -/
def runAll (run : Runner) (status : Nat) : List (List String) → Running Status
  | [] => return .exited status
  | words :: rest => do
    let name := words.headD ""
    match (← get).locate name with
    | .error o =>
      report s!"xargs: {name}: {o.words}\n"
      return .exited (if o == .notFound || o == .notADirectory then 127 else 126)
    | .ok _ =>
      match ← apart run id do
        let _ ← run (.become words)
      with
      | .exited 0 => runAll run status rest
      | .exited 255 =>
        report s!"xargs: {name}: exited with status 255; aborting\n"
        return .exited 124
      | .exited _ => runAll run 123 rest
      | .killed signal =>
        report s!"xargs: {name}: terminated by signal {signal}\n"
        return .exited 125

/-- A program run with what is read as its arguments. -/
def runBatches (run : Runner) (args : List String) : Running Status := do
  match batchOptions.read args with
  | .error complaint => badArguments "xargs" complaint 1
  | .ok items =>
    let s ← get
    let input := s.channel 0
    let text := s.world.input input
    set { s with world := s.world.setInput input "" }
    let replaced := Tool.value? items 'I'
    let cutAt (c : Char) := ((text.splitOn c.toString).reverse.dropWhile (·.isEmpty)).reverse
    let found :=
      if Tool.has items '0' then cutAt (Char.ofNat 0)
      else
        match (Tool.value? items 'd').map (Tool.unescape .separate) with
        | some (delimiter, _) => cutAt (delimiter.toList.headD ' ')
        | none =>
          if replaced.isSome then
            (((text.splitOn "\n").map fun line => String.ofList (line.toList.dropWhile isSpaceChar))
              ).filter (!·.isEmpty)
          else Tool.wordsOf text
    let words := if (Tool.operands items).isEmpty then ["echo"] else Tool.operands items
    match replaced, Tool.value? items 'n' with
    | some mark, _ =>
      runAll run 0 (found.map fun item => words.map fun word => word.replace mark item)
    | none, some size =>
      runAll run 0 ((batches (max 1 (size.toNat?.getD 1)) found).map (words ++ ·))
    | none, none =>
      if found.isEmpty && Tool.has items 'r' then return .success
      runAll run 0 [words ++ found]

/-! ### Signals and files -/

/-- Signals sent by a program. -/
def runKill (args : List String) : Running Status := do
  try return .exited (← Builtin.kill args)
  catch
    | .failure => return .exited 1
    | abort => throw abort

/-- The files that programs are in. -/
def runWhich (args : List String) : Running Status := do
  let names := args.filter fun arg => !arg.startsWith "-"
  let mut status := 0
  for name in names do
    match (← get).locate name with
    | .ok (file, _) => say (file ++ "\n")
    | .error _ => status := 1
  return .exited (if names.isEmpty then 1 else status)

/-! ### Any program -/

/-- The words that run a script: the program that its first line names, and the script. -/
def scriptWords (text : String) (words : List String) : List String :=
  match text.toList with
  | '#' :: '!' :: rest =>
    let line := String.ofList (rest.takeWhile (· != '\n'))
    match Tool.wordsOf line with
    | [] => "sh" :: words
    | program :: [] => program :: words
    | program :: more => program :: " ".intercalate more :: words
  | _ => "/bin/sh" :: words

/-- A program run; the words are its name and its arguments. -/
def start (run : Runner) (program : Program) (words : List String) : Running Status := do
  let name := words.headD ""
  let args := words.drop 1
  match program with
  | .tool t => runTool t args
  | .shell => runShell run name args
  | .script text =>
    let words := scriptWords text words
    match (← get).locate (words.headD "") with
    | .error o =>
      notRun name o
      return .exited (← get).status
    | .ok _ =>
      let _ ← run (.become words)
      return .success
  | .starter .env => runEnvironment run args
  | .starter .xargs => runBatches run args
  | .starter (.plain own) => runPlain run name own args
  | .starter .kill => runKill args
  | .starter .which => runWhich args

/-- A program in the place of the shell. -/
def become (run : Runner) (words : List String) : Running Unit := do
  match (← get).locate (words.headD "") with
  | .error o =>
    notRun (words.headD "") o
    throw .exit
  | .ok (file, program) =>
    let words := match program with
      | .script _ => file :: words.drop 1
      | _ => words
    let status ← start run program words
    throw (.over status)

end Running

end NavScript.Shell
