import NavScript.Decimal.Numeral
import NavScript.Geometry.Trajectory

namespace NavScript.CommandLine

open NavScript.Geometry

/-!
# Arguments

The arguments of the program are a script, two numbers that may be left out, and options anywhere
among them.  They are first told apart, each for itself, and then taken one after the other; the
first that does not fit, or that asks for the help or the version, decides alone.

* `Item` — what one argument is
* `items` — the arguments told apart
* `Arguments` — what a conversion is given
* `Invocation.ofArgs` — what the arguments ask for
-/

/-! ### Items -/

/-- The options that have a value. -/
inductive Setter where
  | config
  | flattener
  deriving DecidableEq, Repr

/-- The options that stand alone. -/
inductive Flag where
  | noFlatten
  | verbose
  | help
  | version
  deriving DecidableEq, Repr

/-- What an argument is. -/
inductive Item where
  | positional (text : String)
  | setter (s : Setter) (value : String)
  | flag (f : Flag)
  /-- Not an argument of this program, or an option without the value it needs. -/
  | unknown
  deriving DecidableEq, Repr

/-- The option with a value that has the given name. -/
def Setter.ofName? : String → Option Setter
  | "config" => some .config
  | "flattener" => some .flattener
  | _ => none

/-- The option that stands alone and has the given name. -/
def Flag.ofName? : String → Option Flag
  | "no-flatten" => some .noFlatten
  | "verbose" => some .verbose
  | "help" => some .help
  | "version" => some .version
  | _ => none

/-- The option that stands alone and has the given letter. -/
def Flag.ofLetter? : Char → Option Flag
  | 'v' => some .verbose
  | 'h' => some .help
  | 'V' => some .version
  | _ => none

/-- An argument that can be the value of the option before it: any but options themselves, of which
    a lone hyphen is none. -/
def isValue (arg : String) : Bool :=
  arg == "-" || arg.toList.head? != some '-'

/-- A letter behind one hyphen. -/
def ofLetter (c : Char) : Item :=
  match Flag.ofLetter? c with
  | some f => .flag f
  | none => .unknown

/-- An option by its name, without a value of its own. -/
def ofName (name : String) : Item :=
  match Flag.ofName? name with
  | some f => .flag f
  | none => .unknown

/-- An option by its name with the value behind its equals sign. -/
def ofAssignment (name value : String) : Item :=
  match Setter.ofName? name with
  | some s => .setter s value
  | none => .unknown

/-- An argument that takes no other as its value. -/
def ofArgument (arg : String) : List Item :=
  match arg.toList with
  | '-' :: '-' :: long =>
    match long.dropWhile (· != '=') with
    | _ :: value =>
      [ofAssignment (String.ofList (long.takeWhile (· != '='))) (String.ofList value)]
    | [] => [ofName (String.ofList long)]
  | '-' :: c :: cs => (c :: cs).map ofLetter
  | _ => [.positional arg]

/-- The option whose value is the next argument. -/
def setter? (arg : String) : Option Setter :=
  match arg.toList with
  | '-' :: '-' :: long => Setter.ofName? (String.ofList long)
  | _ => none

/-- The arguments told apart.  Behind two hyphens alone every argument stands for itself. -/
def items : List String → List Item
  | [] => []
  | arg :: rest =>
    if arg == "--" then rest.map .positional
    else
      match setter? arg with
      -- a value behind an equals sign is part of the argument itself
      | none => ofArgument arg ++ items rest
      | some s =>
        match rest with
        | value :: rest => if isValue value then .setter s value :: items rest else [.unknown]
        | [] => [.unknown]

/-! ### Arguments -/

/-- What a conversion is given. -/
structure Arguments where
  script : String
  trajectory : Trajectory
  config : Option String
  flattener : Option String
  noFlatten : Bool
  deriving DecidableEq, Repr

/-- What the arguments ask for. -/
inductive Invocation where
  | convert (args : Arguments)
  | help
  | version
  /-- Nothing: they do not fit together. -/
  | refused
  deriving DecidableEq, Repr

/-- The arguments taken so far. -/
structure Draft where
  script : Option String
  numbers : List Nat
  config : Option String
  flattener : Option String
  noFlatten : Bool

namespace Draft

/-- Nothing taken yet. -/
def empty : Draft := ⟨none, [], none, none, false⟩

/-- The number of a run or of runs: decimal digits, with a sign or without, below `2 ^ 32`. -/
def number? (text : String) : Option Nat :=
  let (negative, digits) := Decimal.splitSign text.toList
  let n := Decimal.natOfDigits digits
  if digits.isEmpty || !digits.all Char.isDigit || 0x100000000 ≤ n || (negative && n ≠ 0) then none
  else some n

/-- One more positional argument: a script whose name is not empty, then up to two numbers. -/
def place (d : Draft) (text : String) : Except Invocation Draft :=
  match d.script with
  | none => if text.isEmpty then .error .refused else .ok { d with script := some text }
  | some _ =>
    match number? text with
    | some n =>
      if d.numbers.length < 2 then .ok { d with numbers := d.numbers ++ [n] } else .error .refused
    | none => .error .refused

/-- An option set that has not been set before; the name of a file is not empty. -/
def set (d : Draft) (value : String) : Setter → Except Invocation Draft
  | .config =>
    if d.config.isSome || value.isEmpty then .error .refused
    else .ok { d with config := some value }
  | .flattener =>
    if d.flattener.isSome then .error .refused else .ok { d with flattener := some value }

/-- A flag; only the one for more messages may be repeated. -/
def raise (d : Draft) : Flag → Except Invocation Draft
  | .noFlatten => if d.noFlatten then .error .refused else .ok { d with noFlatten := true }
  | .verbose => .ok d
  | .help => .error .help
  | .version => .error .version

/-- One more argument taken. -/
def take (d : Draft) : Item → Except Invocation Draft
  | .positional text => d.place text
  | .setter s value => d.set value s
  | .flag f => d.raise f
  | .unknown => .error .refused

/-- What all arguments together ask for: a conversion, if there is a script.  A number left out is
    one. -/
def finish (d : Draft) : Invocation :=
  match d.script with
  | some script =>
    .convert ⟨script, ⟨d.numbers.getD 0 1, d.numbers.getD 1 1⟩, d.config, d.flattener, d.noFlatten⟩
  | none => .refused

end Draft

/-- What the arguments ask for. -/
def Invocation.ofArgs (args : List String) : Invocation :=
  match (items args).foldlM Draft.take Draft.empty with
  | .ok d => d.finish
  | .error i => i

end NavScript.CommandLine
