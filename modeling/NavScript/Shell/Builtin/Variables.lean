import NavScript.Shell.Builtin.Basic

namespace NavScript.Shell.Builtin

open NavScript.Shell.Running

/-!
# Builtins for variables and options

* `export`, `readonly`, `locals`, `unset` — what becomes of variables
* `set`, `shift`, `getopts` — options and positional parameters
* `read` — variables set from a line of the input
-/

/-! ### Variables -/

/-- Variables of a kind, as commands that would make them again. -/
def listing (word : String) (chosen : Variable → Bool) (s : State) : String :=
  let lines := (s.bindings.filter fun v => chosen v.2).map fun (name, v) =>
    word ++ name ++ (match v.value with
      | some value => "=" ++ quoted value
      | none => "") ++ "\n"
  String.join (lines.mergeSort fun a b => a ≤ b)

/-- Variables changed in a way, with new values where such are given. -/
def marking (word : String) (chosen : Variable → Bool) (change : Variable → Variable) : Builtin :=
  fun args => do
    let (options, names) ← flags "p" args
    if names.isEmpty || !options.isEmpty then
      say (listing (word ++ " ") chosen (← get))
      return 0
    for text in names do
      let (name, value) := splitAssignment text
      checkName name
      if let some value := value then setVariable name value
      let s ← get
      set (s.putVariable name (change ((s.bindings.lookup name).getD ⟨none, false, false⟩)))
    return 0

/-- Variables that programs get. -/
def exporting : Builtin :=
  marking "export" (·.exported) fun v => { v with exported := true }

/-- Variables that keep their values. -/
def fixing : Builtin :=
  marking "readonly" (·.fixed) fun v => { v with fixed := true }

/-- Variables of the function that runs. -/
def locals : Builtin := fun args => do
  if (← get).saved.isEmpty then fail "not in a function"
  for text in args do
    if text == "-" then Pure.pure ()
    else
      let (name, value) := splitAssignment text
      checkName name
      save name
      match value with
      | some value => setVariable name value
      | none => Pure.pure ()
  return 0

/-- Variables or functions removed. -/
def unset : Builtin := fun args => do
  let (options, names) ← flags "vf" args
  let functions := options.getLast?.map (·.1) == some 'f'
  for name in names do
    if functions then
      modify fun s => { s with functions := s.functions.filter (·.1 != name) }
    else unsetVariable name
  return 0

/-! ### Options -/

/-- An option set or taken back. -/
def setOption (on : Bool) (letter : Char) : Running Unit := do
  if (optionNames.lookup letter).isNone then fail s!"Illegal option -{letter}"
  modify fun s =>
    let others := s.options.filter (· != letter)
    { s with options := if on then letter :: others else others }

/-- An option set or taken back by its name. -/
def setNamedOption (on : Bool) (name : String) : Running Unit :=
  match optionNames.find? fun o => o.2 == name with
  | some (letter, _) => setOption on letter
  | none => if name == "nolog" || name == "debug" then return else fail s!"Illegal option -o {name}"

/-- The options that are set, in words or as commands that would set them. -/
def optionListing (asCommands : Bool) (s : State) : String :=
  let states := optionNames.map fun (letter, name) => (name, s.has letter)
  let lines := (states ++ [("nolog", false), ("debug", false)]).map fun (name, on) =>
    if asCommands then "set " ++ (if on then "-" else "+") ++ s!"o {name}\n"
    else name ++ "".pushn ' ' (16 - name.length) ++ (if on then "on" else "off") ++ "\n"
  (if asCommands then "" else "Current option settings\n") ++ String.join lines

/-- The letters of one argument; whether a program's text is asked for, and the arguments behind. -/
def optionLetters (onStart on : Bool) (rest : List String) (asksText : Bool) :
    List Char → Running (Bool × List String)
  | [] => return (asksText, rest)
  | c :: cs => do
    if c == 'c' && onStart then optionLetters onStart on rest true cs
    else if c == 'o' then
      match rest with
      | name :: rest =>
        setNamedOption on name
        optionLetters onStart on rest asksText cs
      | [] =>
        say (optionListing (!on) (← get))
        optionLetters onStart on [] asksText cs
    else
      setOption on c
      optionLetters onStart on rest asksText cs

/-- What stands behind the options at the front of arguments: whether a program's text is asked for,
    whether the parameters are to be set even if to nothing, and the operands.  `fuel` bounds the
    arguments. -/
def takeOptions (onStart : Bool) : (fuel : Nat) → (asksText : Bool) → List String →
    Running (Bool × Bool × List String)
  | 0, asksText, args => return (asksText, false, args)
  | _, asksText, [] => return (asksText, false, [])
  | fuel + 1, asksText, arg :: rest =>
    match arg.toList with
    | ['-', '-'] => return (asksText, true, rest)
    | ['-'] => do
      if !onStart then
        setOption false 'x'
        setOption false 'v'
      return (asksText, false, rest)
    | '-' :: letters => do
      let (asksText, rest) ← optionLetters onStart true rest asksText letters
      takeOptions onStart fuel asksText rest
    | '+' :: letters => do
      let (asksText, rest) ← optionLetters onStart false rest asksText letters
      takeOptions onStart fuel asksText rest
    | _ => return (asksText, false, arg :: rest)

/-- Options and positional parameters set. -/
def set : Builtin := fun args => do
  if args.isEmpty then
    say (listing "" (fun v => v.value.isSome) (← get))
    return 0
  let (_, resets, operands) ← takeOptions false (args.length + 1) false args
  if resets || !operands.isEmpty then
    modify fun s => { s with arguments := operands, optionPlace := (1, 0) }
  return 0

/-- The first positional parameters dropped. -/
def shift : Builtin := fun args => do
  let n ← match args with
    | [] => Pure.pure 1
    | text :: _ => number text
  let s ← get
  if s.arguments.length < n then fail "can't shift that many"
  modify fun s => { s with arguments := s.arguments.drop n, optionPlace := (1, 0) }
  return 0

/-! ### Options of programs -/

/-- Where an argument that options are read from is found: behind which argument, how much of it has
    been read, and what is left of it. -/
def optionRest (args : List String) (index read : Nat) : Option (Nat × List Char) :=
  let begun := if 1 < index && 0 < read then ((args[index - 2]?.getD "").toList).drop read else []
  if !begun.isEmpty then some (index, begun)
  else
    match (args[index - 1]?.getD "").toList with
    | ['-', '-'] => none
    | '-' :: c :: cs => some (index + 1, c :: cs)
    | _ => none

/-- The next option of the arguments, put into a variable. -/
def getopts : Builtin := fun args => do
  match args with
  | known :: name :: operands =>
    let s ← get
    let operands := if operands.isEmpty then s.arguments else operands
    let index := ((s.valueOf? "OPTIND").bind String.toNat?).getD 1
    let read := if s.optionPlace.1 == index then s.optionPlace.2 else 0
    let silent := known.startsWith ":"
    let finish (index read : Nat) (letter : Char) (status : Nat) : Running Nat := do
      setVariable "OPTIND" (toString index)
      setVariable name letter.toString
      modify fun s => { s with optionPlace := (index, read) }
      return status
    match optionRest operands index read with
    | none =>
      let past := match operands[index - 1]? with
        | some "--" => index + 1
        | _ => index
      finish past 0 '?' 1
    | some (_, []) => finish index 0 '?' 1
    | some (next, c :: rest) =>
      let word := operands[next - 2]?.getD ""
      let place := if rest.isEmpty then 0 else word.length - rest.length
      match known.toList.dropWhile (· != c), c == ':' with
      | [], _ | _, true =>
        if silent then setVariable "OPTARG" c.toString
        else
          report s!"Illegal option -{c}\n"
          unsetVariable "OPTARG"
        finish next place '?' 0
      | _ :: ':' :: _, _ =>
        match rest, operands[next - 1]? with
        | [], none =>
          if silent then
            setVariable "OPTARG" c.toString
            finish next 0 ':' 0
          else
            report s!"No arg for -{c} option\n"
            unsetVariable "OPTARG"
            finish next 0 '?' 0
        | [], some value =>
          setVariable "OPTARG" value
          finish (next + 1) 0 c 0
        | rest, _ =>
          setVariable "OPTARG" (String.ofList rest)
          finish next 0 c 0
      | _, _ =>
        setVariable "OPTARG" ""
        finish next place c 0
  | _ => fail "Usage: getopts optstring var [arg]"

/-! ### Reading -/

/-- The characters of a line, each with whether a backslash stood before it, added in reverse to
    `done`; then what is behind the line, and whether the line has an end.  A backslash at its end
    makes it go on. -/
def lineMarks (raw : Bool) (done : List (Bool × Char)) : List Char →
    List (Bool × Char) × List Char × Bool
  | [] => (done.reverse, [], false)
  | '\n' :: rest => (done.reverse, rest, true)
  | ['\\'] => (done.reverse, [], false)
  | '\\' :: c :: rest =>
    if raw then lineMarks raw ((false, '\\') :: done) (c :: rest)
    else if c == '\n' then lineMarks raw done rest
    else lineMarks raw ((true, c) :: done) rest
  | c :: rest => lineMarks raw ((false, c) :: done) rest

/-- A character that separates, and is a blank or is none. -/
def separates (separators : List Char) (blank : Bool) (m : Bool × Char) : Bool :=
  !m.1 && separators.contains m.2 && (m.2 == ' ' || m.2 == '\t' || m.2 == '\n') == blank

/-- The text of marked characters. -/
def markedText (ms : List (Bool × Char)) : String :=
  String.ofList (ms.map (·.2))

/-- The first field of a line, and what is behind the separator that ends it. -/
def firstField (separators : List Char) (ms : List (Bool × Char)) :
    List (Bool × Char) × List (Bool × Char) :=
  let ends := fun m => separates separators true m || separates separators false m
  let blank := separates separators true
  let behind := (ms.dropWhile fun m => !ends m).dropWhile blank
  let behind := match behind with
    | m :: rest => if separates separators false m then rest.dropWhile blank else behind
    | [] => []
  (ms.takeWhile fun m => !ends m, behind)

/-- The last field of a line: all that is left but blanks at its end, and without the separator at
    its end when it is one field alone. -/
def lastField (separators : List Char) (ms : List (Bool × Char)) : List (Bool × Char) :=
  let (field, behind) := firstField separators ms
  if behind.isEmpty then field
  else (ms.reverse.dropWhile (separates separators true)).reverse

/-- Variables set to the fields of a line. -/
def assignFields (separators : List Char) : List String → List (Bool × Char) → Running Unit
  | [], _ => return
  | [name], ms => setVariable name (markedText (lastField separators ms))
  | name :: names, ms => do
    let (field, behind) := firstField separators ms
    setVariable name (markedText field)
    assignFields separators names behind

/-- Variables set to the fields of the next line of the input. -/
def read : Builtin := fun args => do
  let (options, names) ← flags "p:r" args
  if names.isEmpty then fail "arg count"
  for name in names do
    if !isVariableName name then fail s!"{name}: bad variable name"
  let s ← get
  let input := s.channel 0
  let raw := options.any (·.1 == 'r')
  let (ms, rest, ended) := lineMarks raw [] (s.world.input input).toList
  modify fun s => { s with world := s.world.setInput input (String.ofList rest) }
  let ms := ms.filter (·.2 != Char.ofNat 0)
  assignFields s.separators names (ms.dropWhile (separates s.separators true))
  return if ended then 0 else 1

end NavScript.Shell.Builtin
