import NavScript.Shell.Start

namespace NavScript.Shell

/-!
# Shells at work

Every part of a program that holds further parts asks for them to be run as tasks.  Tasks that are
nested too deeply end the shell as a system would end it.

* `Running.perform` — a task
* `Running.run` — a task with everything that it asks for
-/

namespace Running

/-- A task, of which `run` does the parts. -/
def perform (run : Runner) : Task → Running String
  | .command c mode => do
    evaluate run mode c
    return ""
  | .capture c => capture run c
  | .text program mode => do
    readText run mode program
    return ""
  | .become words => do
    become run words
    return ""

/-- The signal that ends a program whose parts are nested too deeply. -/
def overflowSignal : Nat := 11

/-- A task, with tasks inside each other at most `depth` deep. -/
def run : (depth : Nat) → Runner
  | 0, _ => throw (.over (.killed overflowSignal))
  | depth + 1, t => perform (run depth) t

/-- How deep tasks can be inside each other. -/
def depthLimit : Nat := 3000

end Running

end NavScript.Shell
