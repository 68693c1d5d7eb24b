import NavScript.Tool.Counting

namespace NavScript.Tool

/-!
# The surroundings

* `printenv`, `pwd` — the variables and the directory that a tool is given
* `sleep` — nothing, for some time
* `yes` — the same line over and over
-/

/-- The values of variables, or all of the variables. -/
def printenv : Tool :=
  withOptions "printenv" 2 { Options.make "0" [("null", '0', .none)] with inOrder := true }
    fun items => do
      let ending := if has items '0' then (Char.ofNat 0).toString else "\n"
      let environment := (← get).call.environment
      match operands items with
      | [] => environment.forM fun (name, text) => Work.say (name ++ "=" ++ text ++ ending)
      | names =>
        for name in names do
          match environment.lookup name with
          | some text => Work.say (text ++ ending)
          | none => Work.setStatus 1

/-- The directory. -/
def pwd : Tool :=
  withOptions "pwd" 1 (Options.make "LP" [("logical", 'L', .none), ("physical", 'P', .none)])
    fun _ => do Work.say ((← get).call.directory ++ "\n")

/-- A text writes a length of time. -/
def isTime (text : String) : Bool :=
  let body := match text.toList.reverse with
    | c :: rest => if "smhd".toList.contains c then String.ofList rest.reverse else text
    | [] => text
  ((Fixed.read? body).map fun n => decide (0 ≤ n.units)).getD false
    || body == "inf" || body == "infinity"

/-- Nothing, for some time. -/
def sleep : Tool :=
  withOptions "sleep" 1 (Options.make "" []) fun items => do
    match operands items, (operands items).filter (!isTime ·) with
    | [], _ => Work.fail 1 (usageComplaint "sleep" "missing operand")
    | _, [] => Pure.pure ()
    | _, wrong =>
      for text in wrong do Work.fail 1 s!"sleep: invalid time interval {quote text}\n"
      Work.complain "Try 'sleep --help' for more information.\n"

/-- The room that repeated lines fill at most, in bytes. -/
def repeatedRoom : Nat := 131072

/-- The same line over and over, as long as anything could be reading it. -/
def yes : Tool :=
  withOptions "yes" 1 (Options.make "" []) fun items => do
    let texts := operands items
    let line := (if texts.isEmpty then "y" else " ".intercalate texts) ++ "\n"
    Work.say (String.join (List.replicate (repeatedRoom / line.length + 2) line))

end NavScript.Tool
