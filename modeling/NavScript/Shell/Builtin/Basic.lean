import NavScript.Shell.Program

namespace NavScript.Shell

open NavScript.Text

/-!
# Commands that a shell runs itself

A builtin command works on the state of its shell and comes to a status.  A fault in one of the
special ones ends the shell, a fault in any other only the command.

* `Builtin` — a builtin command
* `Running.flags` — options in front of the operands
* `Running.number` — an operand that must be a number
-/

/-- A builtin command: what it does with its arguments, and the status that it comes to. -/
abbrev Builtin := (args : List String) → Running Nat

/-- A value that must be read as a number of a given base, blanks around it. -/
def blankedNumber? (text : String) : Option Int :=
  let trimmed := (text.toList.dropWhile isSpaceChar).reverse.dropWhile isSpaceChar |>.reverse
  let (negative, digits) := match trimmed with
    | '-' :: rest => (true, rest)
    | '+' :: rest => (false, rest)
    | digits => (false, digits)
  (digitsValue? (String.ofList digits)).map fun n => if negative then -(n : Int) else n

/-- The greatest number that operands may be. -/
def greatestNumber : Nat := 2147483647

namespace Running

/-- The complaint about an operand that is no number. -/
def illegalNumber {α : Type} (text : String) : Running α :=
  fail s!"Illegal number: {text}"

/-- An operand that must be a number. -/
def number (text : String) : Running Nat :=
  match blankedNumber? text with
  | some n => if 0 ≤ n && n ≤ greatestNumber then return n.toNat else illegalNumber text
  | none => illegalNumber text

/-- The letters of one argument, added in reverse to `done`, with the arguments behind it; a colon
    follows the letters that take the rest of their argument, or the next one. -/
def flagLetters (known : List Char) (rest : List String) (done : List (Char × String)) :
    List Char → Running (List (Char × String) × List String)
  | [] => return (done, rest)
  | c :: cs =>
    match known.dropWhile (· != c) with
    | [] => fail s!"Illegal option -{c}"
    | _ :: ':' :: _ =>
      if !cs.isEmpty then return ((c, String.ofList cs) :: done, rest)
      else
        match rest with
        | value :: rest => return ((c, value) :: done, rest)
        | [] => fail s!"No arg for -{c} option"
    | _ => flagLetters known rest ((c, "") :: done) cs

/-- The options at the front of arguments, added in reverse to `done`, and the operands; `fuel`
    bounds their number. -/
def flagsFrom (known : List Char) : (fuel : Nat) → (done : List (Char × String)) → List String →
    Running (List (Char × String) × List String)
  | 0, done, args => return (done.reverse, args)
  | fuel + 1, done, args =>
    match args with
    | [] => return (done.reverse, [])
    | arg :: rest =>
      match arg.toList with
      | ['-', '-'] => return (done.reverse, rest)
      | '-' :: c :: cs => do
        let (done, rest) ← flagLetters known rest done (c :: cs)
        flagsFrom known fuel done rest
      | _ => return (done.reverse, arg :: rest)

/-- The options at the front of arguments, and the operands. -/
def flags (known : String) (args : List String) : Running (List (Char × String) × List String) :=
  flagsFrom known.toList (args.length + 1) [] args

/-! ### Variables -/

/-- A name and the value that it is given, if it is given one. -/
def splitAssignment (text : String) : String × Option String :=
  let name := String.ofList (text.toList.takeWhile (· != '='))
  match text.toList.dropWhile (· != '=') with
  | _ :: value => (name, some (String.ofList value))
  | [] => (name, none)

/-- The name must be one of a variable. -/
def checkName (name : String) : Running Unit :=
  if isVariableName name then return else fail s!"{name}: bad variable name"

/-- A variable removed. -/
def unsetVariable (name : String) : Running Unit := do
  checkName name
  let s ← get
  match s.bindings.lookup name with
  | some v =>
    if v.fixed then fail s!"{name}: is read only"
    set { s with bindings := s.bindings.filter (·.1 != name) }
  | none => return

/-- A variable set to a value, which programs get from now on. -/
def setExported (name value : String) : Running Unit := do
  setVariable name value
  let s ← get
  if let some v := s.bindings.lookup name then
    set (s.putVariable name { v with exported := true })

/-- A variable that gets its value of now back when the innermost function ends. -/
def save (name : String) : Running Unit := do
  let s ← get
  match s.saved with
  | frame :: rest =>
    if (frame.lookup name).isNone then
      set { s with saved := ((name, s.bindings.lookup name) :: frame) :: rest }
  | [] => return

/-- A part around which variables that it saves get their values back. -/
def saving (part : Running Unit) : Running Unit := do
  let restore : Running Unit := modify fun s =>
    match s.saved with
    | frame :: rest =>
      let bindings := frame.foldl (fun vs (name, old) =>
        let others := vs.filter (·.1 != name)
        match old with
        | some v => (name, v) :: others
        | none => others) s.bindings
      { s with bindings, saved := rest }
    | [] => s
  modify fun s => { s with saved := [] :: s.saved }
  ensuring restore part

end Running

/-! ### Texts in quotes -/

/-- A text in quotes as a shell reads it back; `fuel` bounds its parts. -/
def quotedFrom : (fuel : Nat) → (done : String) → List Char → String
  | 0, done, _ => done
  | fuel + 1, done, cs =>
    let plain := cs.takeWhile (· != '\'')
    let behind := cs.dropWhile (· != '\'')
    let done := done ++ "'" ++ String.ofList plain ++ "'"
    let marks := behind.takeWhile (· == '\'')
    let rest := behind.dropWhile (· == '\'')
    if marks.isEmpty then done
    else
      let done := done ++ "\"" ++ String.ofList marks ++ "\""
      if rest.isEmpty then done else quotedFrom fuel done rest

/-- A text in quotes as a shell reads it back. -/
def quoted (text : String) : String :=
  quotedFrom (text.length + 1) "" text.toList

end NavScript.Shell
