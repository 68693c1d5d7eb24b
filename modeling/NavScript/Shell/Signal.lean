import NavScript.Shell.State

namespace NavScript.Shell

/-!
# Signals

A signal ends the shell that it reaches, unless the shell has been told what to do instead.  An
action waits until the command that runs has come to its end.

* `conditionNumber?`, `conditionName` — signals by name and number
* `Running.receive` — the signals that have reached a shell
* `Running.settle` — the actions that wait
* `Running.waited` — the end of a program that the shell waited for
-/

/-! ### Names -/

/-- The number above those of all signals. -/
def signalLimit : Nat := 65

/-- The name of a signal, or of the shell's end, which counts as number zero. -/
def conditionName (number : Nat) : String :=
  if number = 0 then "EXIT"
  else if number = 16 then "16"
  else (signalName? number).getD (toString number)

/-- The number that digits write, and nothing for other texts. -/
def digitsValue? (text : String) : Option Nat :=
  if !text.isEmpty && text.toList.all Char.isDigit then text.toNat? else none

/-- The number of a signal given by that or by its name; the first one to be considered is given. -/
def conditionNumber? (first : Nat) (text : String) : Option Nat :=
  match digitsValue? text with
  | some n => if n < signalLimit then some n else none
  | none =>
    let wanted := text.toUpper
    ((List.range signalLimit).drop first).find? fun n => conditionName n == wanted

/-- The signals that end nothing. -/
def isHarmless (signal : Nat) : Bool :=
  [17, 18, 19, 20, 21, 22, 23, 28].contains signal

/-- The signal that nothing can be done about. -/
def killSignal : Nat := 9

/-- The words for an end by a signal, of which two are passed over in silence. -/
def killedWords? (signal : Nat) : Option String :=
  if signal = 2 || signal = 13 then none
  else
    some (([(1, "Hangup"), (3, "Quit"), (4, "Illegal instruction"), (5, "Trace/breakpoint trap"),
      (6, "Aborted"), (7, "Bus error"), (8, "Floating point exception"), (9, "Killed"),
      (10, "User defined signal 1"), (11, "Segmentation fault"), (12, "User defined signal 2"),
      (14, "Alarm clock"), (15, "Terminated"), (16, "Stack fault"), (24, "CPU time limit exceeded"),
      (25, "File size limit exceeded"), (26, "Virtual timer expired"),
      (27, "Profiling timer expired"), (29, "I/O possible"), (30, "Power failure"),
      (31, "Bad system call")].lookup signal).getD s!"Unknown signal {signal}")

namespace Running

/-! ### Receiving signals -/

/-- A signal reaches the shell. -/
def receiveOne (signal : Nat) : Running Unit := do
  let s ← get
  match s.traps.lookup signal, signal == killSignal with
  | some "", false => return
  | some _, false => set { s with caught := s.caught ++ [signal] }
  | _, _ => if !isHarmless signal then throw (.over (.killed signal))

/-- The signals that have been sent to the shell reach it. -/
def receive : Running Unit := do
  let s ← get
  let w := s.world
  let (mine, others) := w.signals.partition (·.1 == s.process)
  if mine.isEmpty then return
  set { s with world := { w with signals := others } }
  for (_, signal) in mine.reverse do
    receiveOne signal

/-- A signal sent to the shell of a number. -/
def send (process signal : Nat) : Running Unit :=
  modify fun s =>
    let w := s.world
    { s with world := { w with signals := (process, signal) :: w.signals } }

/-- The action for a signal, after which the status is what it was. -/
def act (run : Runner) (signal : Nat) : Running Unit := do
  let s ← get
  set { s with caught := s.caught.filter (· != signal) }
  match s.traps.lookup signal with
  | none => return
  | some action =>
    let _ ← run (.text action ⟨false, false⟩)
    if (← get).skipping != .returning then setStatus s.status

/-- The actions for the signals that have come, in the order of their numbers. -/
def settle (run : Runner) : Running Unit := do
  for signal in (← get).caught.eraseDups.mergeSort do
    if (← get).skipping == .nothing then act run signal

/-- A program that the shell waited for has ended. -/
def waited (status : Status) : Running Unit :=
  match status with
  | .exited code => setStatus code
  | .killed signal => do
    if let some words := killedWords? signal then report (words ++ "\n")
    setStatus (128 + signal)

/-! ### Shells in shells -/

/-- What a shell does up to its end: a part, and then the action that is kept for the end. -/
def toEnd (run : Runner) (part : Running Unit) (s : State) : Status × State :=
  match (ExceptT.run part).run s with
  | (.error (.over status), s) => (status, s)
  | (_, s) =>
    match s.traps.lookup 0 with
    | none => (s.ending, s)
    | some action =>
      let status := s.status
      let s := { s with traps := s.traps.filter (·.1 != 0), skipping := .nothing }
      match (ExceptT.run (run (.text action ⟨false, false⟩))).run s with
      | (.error (.over status), s) => (status, s)
      | (.error _, s) => (s.ending, s)
      | (.ok _, s) => ({ s with status }.ending, s)

/-- A part done by a shell of its own, of which only what the world has become stays.  It keeps no
    actions but those that do nothing. -/
def apart (run : Runner) (prepare : State → State) (part : Running Unit) : Running Status := do
  let s ← get
  let w := s.world
  let own := { s with
    world := { w with next := w.next + 1 }
    process := w.next
    traps := s.traps.filter fun t => t.2.isEmpty && t.1 != 0
    caught := [] }
  let (status, after) := toEnd run part (prepare own)
  set { s with world := after.world }
  receive
  return status

end Running

end NavScript.Shell
