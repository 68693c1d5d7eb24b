namespace NavScript

/-!
# How programs end

A program ends by itself with a number, or a signal ends it.

* `Status` — the two ways
* `Status.message` — the way in words
-/

/-- How a program has ended. -/
inductive Status where
  | exited (code : Nat)
  | killed (signal : Nat)
  deriving DecidableEq, Repr

/-- The signals by their names, in the order of their numbers, of which the first is one. -/
def signalNames : List String :=
  ["HUP", "INT", "QUIT", "ILL", "TRAP", "ABRT", "BUS", "FPE", "KILL", "USR1", "SEGV",
    "USR2", "PIPE",
    "ALRM", "TERM", "STKFLT", "CHLD", "CONT", "STOP", "TSTP", "TTIN", "TTOU", "URG", "XCPU", "XFSZ",
    "VTALRM", "PROF", "WINCH", "IO", "PWR", "SYS"]

/-- The name of a signal, if it has one. -/
def signalName? (signal : Nat) : Option String :=
  if signal = 0 then none else signalNames[signal - 1]?

namespace Status

/-- The end of a program that has done what it was asked for. -/
def success : Status := .exited 0

/-- The way in words. -/
def message : Status → String
  | exited code => s!"exit status: {code}"
  | killed signal =>
    match signalName? signal with
    | some name => s!"signal: {signal} (SIG{name})"
    | none => s!"signal: {signal}"

end Status

end NavScript
