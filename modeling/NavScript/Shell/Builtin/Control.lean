import NavScript.Shell.Builtin.Basic

namespace NavScript.Shell.Builtin

open NavScript.Shell.Running

/-!
# Builtins for the course of a program

* `leaveLoop`, `leaveFunction`, `leave` — loops, functions and the shell ended
* `trap`, `kill` — signals
* `wait`, `jobs` — commands left to themselves
-/

/-! ### Ways out -/

/-- Loops ended, or gone on with. -/
def leaveLoop (way : Nat → Skipping) : Builtin := fun args => do
  let n ← match args with
    | [] => Pure.pure 1
    | text :: _ => do
      let n ← number text
      if n = 0 then illegalNumber text else Pure.pure n
  let loops := min n (← get).loopDepth
  if loops != 0 then modify fun s => { s with skipping := way loops }
  return 0

/-- The status that an operand asks for, or the one of the last command. -/
def askedStatus (args : List String) : Running Nat := do
  match args with
  | text :: _ => number text
  | [] => return (← get).status

/-- A function or a program read from a file ended. -/
def leaveFunction : Builtin := fun args => do
  let status ← askedStatus args
  modify fun s => { s with skipping := .returning }
  return status

/-- The shell ended. -/
def leave : Builtin := fun args => do
  setStatus (← askedStatus args)
  throw .exit

/-! ### Signals -/

/-- What is to be done when signals come, which is listed when nothing is asked for. -/
def trap : Builtin := fun args => do
  let (_, operands) ← flags "" args
  match operands with
  | [] =>
    for number in List.range signalLimit do
      if let some action := (← get).traps.lookup number then
        say s!"trap -- {quoted action} {conditionName number}\n"
    return 0
  | first :: rest =>
    let (action, names) :=
      if rest.isEmpty || (digitsValue? first).isSome then (none, operands)
      else (if first == "-" then none else some first, rest)
    for name in names do
      match conditionNumber? 0 name with
      | none =>
        report s!"trap: {name}: bad trap\n"
        return 1
      | some number =>
        modify fun s =>
          let others := s.traps.filter (·.1 != number)
          { s with traps := match action with
            | some action => (number, action) :: others
            | none => others }
    return 0

/-- How signals are sent. -/
def killUsage : String :=
  "Usage: kill [-s sigspec | -signum | -sigspec] [pid | job]... or\nkill -l [exitstatus]"

/-- The name of a signal or its number, listed for a number. -/
def signalLine (signal : Nat) : String :=
  let name :=
    if signal = 34 then "RTMIN"
    else if 35 ≤ signal && signal ≤ 49 then s!"RTMIN+{signal - 34}"
    else if 50 ≤ signal && signal ≤ 63 then s!"RTMAX-{64 - signal}"
    else if signal = 64 then "RTMAX"
    else conditionName signal
  name ++ "\n"

/-- The shells and commands that signals can be sent to. -/
def isAlive (s : State) (process : Nat) : Bool :=
  process == s.process || process == s.givenProcess
    || s.valueOf? "PPID" == some (toString process) || s.background.any (·.1 == process)

/-- Signals sent. -/
def kill : Builtin := fun args => do
  let (signal, lists, operands) ← match args with
    | [] => fail killUsage
    | first :: rest =>
      match first.toList with
      | '-' :: name =>
        match conditionNumber? 1 (String.ofList name) with
        | some signal => Pure.pure (some signal, false, rest)
        | none =>
          let (options, operands) ← flags "ls:" args
          let signals ← options.mapM fun (letter, name) => do
            if letter != 's' then return none
            match conditionNumber? 1 name with
            | some signal => return some signal
            | none => fail s!"invalid signal number or name: {name}"
          Pure.pure (signals.getLast?.bind id, options.any (·.1 == 'l'), operands)
      | _ => Pure.pure (none, false, args)
  if lists then
    if signal.isSome then fail killUsage
    match operands with
    | [] =>
      say "0\n"
      for number in (List.range signalLimit).drop 1 do say (signalLine number)
      return 0
    | text :: _ =>
      let n ← number text
      let signal := if 128 < n then n - 128 else n
      if signal = 0 || signalLimit ≤ signal then
        fail s!"invalid signal number or exit status: {text}"
      say (signalLine signal)
      return 0
  if operands.isEmpty then fail killUsage
  let mut status := 0
  for text in operands do
    let process ← number text
    let s ← get
    if isAlive s process then
      if signal.getD 15 != 0 && !s.background.any (·.1 == process) then
        send process (signal.getD 15)
        receive
    else
      complain "No such process\n"
      status := 1
  return status

/-! ### Commands left to themselves -/

/-- The status of commands left to themselves, all of which have ended. -/
def wait : Builtin := fun args => do
  let mut status := 0
  for text in args do
    let process ← number text
    status := ((← get).background.lookup process).getD 127
  return status

/-- The commands left to themselves of which something could still be said. -/
def jobs : Builtin := fun args => do
  let _ ← flags "lp" args
  return 0

/-- A command that goes on, of which there is none. -/
def resume : Builtin := fun _ => fail "No current job"

end NavScript.Shell.Builtin
