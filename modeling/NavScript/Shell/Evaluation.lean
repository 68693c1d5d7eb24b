import NavScript.Shell.Simple

namespace NavScript.Shell

/-!
# Commands of all kinds

A command sets the status of its shell.  While the shell is on its way out of a loop or a function
the commands that follow are passed over.

* `Running.evaluate` — a command
* `Running.capture` — the output of a command
* `Running.readText` — the commands of a text
-/

namespace Running

/-! ### Loops -/

/-- The end of a round of a loop: what is left to be passed over concerns the loops around it. -/
def endRound : Running Skipping := do
  let s ← get
  match s.skipping with
  | .breaking loops =>
    set { s with skipping := if 1 < loops then .breaking (loops - 1) else .nothing }
    return s.skipping
  | .continuing loops =>
    if 1 < loops then
      set { s with skipping := .continuing (loops - 1) }
      return .breaking loops
    else
      set { s with skipping := .nothing }
      return s.skipping
  | skipping => return skipping

/-- A loop goes on behind a round that ended in this way. -/
def goesOn : Skipping → Bool
  | .nothing | .continuing _ => true
  | .breaking _ | .returning => false

/-- A part that is a loop. -/
def looping (part : Running Nat) : Running Unit := do
  modify fun s => { s with loopDepth := s.loopDepth + 1 }
  let status ← part
  modify fun s => { s with loopDepth := s.loopDepth - 1 }
  setStatus status

/-- The number of rounds that are thought of as endless. -/
def endless : Nat := 1000000000

/-- The rounds of a loop with a test, of which at most `fuel` are run; the status of the last
    one. -/
def rounds (run : Runner) (tested whileFailing : Bool) (test body : Command) :
    (fuel : Nat) → (status : Nat) → Running Nat
  | 0, status => return status
  | fuel + 1, status => do
    let _ ← run (.command test ⟨true, false⟩)
    let failed := (← get).status != 0
    let found := (← get).status
    match ← endRound with
    | .continuing _ => rounds run tested whileFailing test body fuel status
    | .breaking _ => return status
    | .returning => return found
    | .nothing =>
      if failed != whileFailing then return status
      let _ ← run (.command body ⟨tested, false⟩)
      let status := (← get).status
      if goesOn (← endRound) then rounds run tested whileFailing test body fuel status
      else return status

/-- The rounds of a loop over words; the status of the last one. -/
def roundsOver (run : Runner) (tested : Bool) (name : String) (body : Command) (status : Nat) :
    List String → Running Nat
  | [] => return status
  | word :: rest => do
    setVariable name word
    let _ ← run (.command body ⟨tested, false⟩)
    let status := (← get).status
    if goesOn (← endRound) then roundsOver run tested name body status rest else return status

/-! ### Selections -/

/-- One of the patterns stands for the subject. -/
def anyAccepts (run : Runner) (subject : List Char) : List Word → Running Bool
  | [] => return false
  | word :: rest => do
    if (← pattern run word).accepts subject then return true
    anyAccepts run subject rest

/-- The first branch with a pattern that stands for the subject. -/
def branch? (run : Runner) (subject : List Char) : List (List Word × Command) →
    Running (Option Command)
  | [] => return none
  | (patterns, body) :: rest => do
    if ← anyAccepts run subject patterns then return some body
    branch? run subject rest

/-! ### Shells of their own -/

/-- The stages of a pipeline, each in a shell of its own, from the given input on.  Each reads what
    the one before it wrote. -/
def pipeline (run : Runner) (tested : Bool) (input : Option Channel) : List Command → Running Unit
  | [] => return
  | c :: rest => do
    let (number, s) := (← get).openStream ""
    set s
    let prepare (s : State) : State :=
      let s := match input with
        | some channel => s.setChannel 0 channel
        | none => s
      if rest.isEmpty then s else s.setChannel 1 (.stream number)
    waited (← apart run prepare do
      let _ ← run (.command c ⟨tested, true⟩))
    pipeline run tested (some (.stream number)) rest

/-- A command left to itself, which reads nothing. -/
def leaveAlone (run : Runner) (c : Command) : Running Unit := do
  let process := (← get).world.next
  let status ← apart run (·.setChannel 0 .nowhere) do
    let _ ← run (.command c ⟨false, true⟩)
  let code := match status with
    | .exited code => code
    | .killed signal => 128 + signal
  modify fun s => { s with background := (process, code) :: s.background }
  setStatus 0

/-- The output of a command. -/
def capture (run : Runner) (c : Command) : Running String := do
  let (number, s) := (← get).openStream ""
  set s
  let before := s.status
  let status ← apart run (·.setChannel 1 (.stream number)) do
    match c with
    | .empty => setStatus 0
    | c =>
      let _ ← run (.command c ⟨false, true⟩)
  waited status
  modify fun s => { s with substituted := s.status, status := before }
  let text := (← get).world.stream number
  return String.ofList (text.toList.filter (· != Char.ofNat 0))

/-! ### Texts -/

/-- The commands of what is left of a source, at most `fuel` lines of them; the status of the
    last. -/
def readFrom (run : Runner) (mode : Mode) : (fuel : Nat) → (status : Nat) → Source → Running Nat
  | 0, status, _ => return status
  | fuel + 1, status, source => do
    match nextCommand source with
    | .error fault =>
      modify fun s => { s with line := fault.line }
      fail fault.message
    | .ok (none, _) => return status
    | .ok (some c, source) =>
      modify fun s => { s with documents := source.documents ++ s.documents }
      let isLast := mode.last && source.atEnd
      let _ ← run (.command c { mode with last := isLast })
      let s ← get
      let status := if c matches .empty then status else s.status
      if s.skipping != .nothing then return status
      readFrom run mode fuel status { source with documents := [] }

/-- The commands of a text. -/
def readText (run : Runner) (mode : Mode) (text : String) : Running Unit := do
  let next := (((← get).documents.map (·.1 + 1)).max?).getD 0
  setStatus (← readFrom run mode (text.length + 2) 0 (Source.ofText text next))

/-! ### Commands -/

/-- A failure of a command outside of a test ends a shell that is told so. -/
def checkStatus (mode : Mode) : Running Unit := do
  let s ← get
  if s.has 'e' && !mode.tested && s.status != 0 then throw .exit

/-- A command by its kind. -/
def byKind (run : Runner) (mode : Mode) (c : Command) : Running Unit := do
  match c with
  | .empty => return
  | .simple line assignments words rs =>
    simple run mode line assignments words rs
    checkStatus mode
  | .pipeline commands =>
    pipeline run mode.tested none commands
    checkStatus mode
  | .negation c =>
    let _ ← run (.command c ⟨true, false⟩)
    modify fun s => { s with status := if s.status = 0 then 1 else 0 }
  | .andThen first second =>
    let _ ← run (.command first ⟨true, false⟩)
    let s ← get
    if s.status = 0 && s.skipping == .nothing then
      let _ ← run (.command second mode)
  | .orElse first second =>
    let _ ← run (.command first ⟨true, false⟩)
    let s ← get
    if s.status != 0 && s.skipping == .nothing then
      let _ ← run (.command second mode)
  | .sequence first second =>
    let _ ← run (.command first ⟨mode.tested, false⟩)
    if (← get).skipping == .nothing then
      let _ ← run (.command second mode)
  | .background line c =>
    modify fun s => { s with line }
    leaveAlone run c
    checkStatus mode
  | .subshell line body rs =>
    modify fun s => { s with line }
    let inside : Running Unit := do
      if !(← redirect run rs) then throw .failure
      let _ ← run (.command body ⟨mode.tested, true⟩)
    if mode.last && (← get).traps.isEmpty then inside
    else waited (← apart run id inside)
    checkStatus mode
  | .redirected line body rs =>
    modify fun s => { s with line }
    redirected run rs do
      let _ ← run (.command body ⟨mode.tested, false⟩)
  | .condition test yes no =>
    let _ ← run (.command test ⟨true, false⟩)
    let s ← get
    if s.skipping == .nothing then
      match if s.status = 0 then yes else no with
      | .empty => setStatus 0
      | body =>
        let _ ← run (.command body mode)
  | .loop whileFailing test body =>
    looping (rounds run mode.tested whileFailing test body endless 0)
  | .each line name items body =>
    modify fun s => { s with line }
    let words ← match items with
      | some items => fields run items
      | none => Pure.pure (← get).arguments
    looping (roundsOver run mode.tested name body 0 words)
  | .selection line subject branches =>
    modify fun s => { s with line }
    let subject ← single run subject
    match ← branch? run subject.toList branches with
    | none | some .empty => setStatus 0
    | some body =>
      let _ ← run (.command body mode)
  | .definition _ name body =>
    modify fun s =>
      { s with functions := (name, body) :: s.functions.filter (·.1 != name), status := 0 }

/-- A command, with the actions for the signals that have come around it.  Behind the last command
    of a shell the shell ends. -/
def evaluate (run : Runner) (mode : Mode) (c : Command) : Running Unit := do
  if !(← get).has 'n' then
    settle run
    byKind run mode c
    settle run
  if mode.last then throw .exit

end Running

end NavScript.Shell
