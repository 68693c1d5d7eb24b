import NavScript.Tool.Basic

namespace NavScript.Tool

/-!
# Arguments of tools

Options begin with one hyphen and are single letters, or with two and are words; operands may stand
between them.  Two hyphens alone end the options.

* `Options` — the options that a tool knows
* `Item` — an argument told apart
* `Options.read` — arguments told apart, or the complaint about one of them
-/

/-- Whether an option has a value. -/
inductive Arity where
  | none
  | required
  | optional
  deriving DecidableEq

/-- The options that a tool knows: letters, and words with the letters that they stand for. -/
structure Options where
  letters : List (Char × Arity)
  words : List (String × Char × Arity)
  /-- The first operand ends the options. -/
  inOrder : Bool

/-- An argument told apart. -/
inductive Item where
  | option (letter : Char) (value : Option String)
  | operand (text : String)

namespace Options

/-- Options given by letters, of which a colon follows those that have a value. -/
def lettersOf : List Char → List (Char × Arity)
  | c :: ':' :: rest => (c, .required) :: lettersOf rest
  | c :: rest => (c, .none) :: lettersOf rest
  | [] => []

/-- Options given by letters and words. -/
def make (letters : String) (words : List (String × Char × Arity)) : Options :=
  ⟨lettersOf letters.toList, words, false⟩

/-- A word that stands for an option, which may be cut short. -/
def word? (o : Options) (text : String) : Except String (String × Char × Arity) :=
  match o.words.find? fun w => w.1 == text with
  | some w => .ok w
  | none =>
    match o.words.filter fun w => text.toList.isPrefixOf w.1.toList with
    | [w] => .ok w
    | [] => .error s!"unrecognized option '--{text}'"
    | w :: more =>
      if more.all fun v => v.2 == w.2 then .ok w
      else
        let names := (w :: more).map fun v => s!" '--{v.1}'"
        .error (s!"option '--{text}' is ambiguous; possibilities:" ++ String.join names)

/-- An option given as a word, with the value behind its equals sign or in the next argument. -/
def readWord (o : Options) (arg : String) (rest : List String) :
    Except String (Item × List String) := do
  let text := arg.toList.drop 2
  let name := String.ofList (text.takeWhile (· != '='))
  let value := match text.dropWhile (· != '=') with
    | _ :: value => some (String.ofList value)
    | [] => none
  match o.word? name, value, rest with
  | .error complaint, none, _ => .error complaint
  | .error _, some _, _ => .error s!"unrecognized option '{arg}'"
  | .ok (full, _, .none), some _, _ => .error s!"option '--{full}' doesn't allow an argument"
  | .ok (_, letter, _), some value, _ => return (.option letter (some value), rest)
  | .ok (_, letter, .none), none, _ | .ok (_, letter, .optional), none, _ =>
    return (.option letter none, rest)
  | .ok (_, letter, .required), none, value :: rest => return (.option letter (some value), rest)
  | .ok (full, _, .required), none, [] => .error s!"option '--{full}' requires an argument"

/-- The letters of an argument, added in reverse to `done`, with the value behind the last of them
    or in the next argument. -/
def readLetters (o : Options) (rest : List String) :
    (done : List Item) → List Char → Except String (List Item × List String)
  | done, [] => .ok (done, rest)
  | done, c :: cs =>
    match o.letters.lookup c with
    | none => .error s!"invalid option -- '{c}'"
    | some .none => o.readLetters rest (.option c none :: done) cs
    | some .optional =>
      .ok (.option c (if cs.isEmpty then none else some (String.ofList cs)) :: done, rest)
    | some .required =>
      match cs, rest with
      | [], value :: rest => .ok (.option c (some value) :: done, rest)
      | [], [] => .error s!"option requires an argument -- '{c}'"
      | cs, rest => .ok (.option c (some (String.ofList cs)) :: done, rest)

/-- The remaining arguments told apart, added in reverse to `done`; `fuel` bounds their number. -/
def readFrom (o : Options) : (fuel : Nat) → (done : List Item) → List String →
    Except String (List Item)
  | 0, done, _ | _, done, [] => .ok done.reverse
  | fuel + 1, done, arg :: rest =>
    match arg.toList with
    | ['-', '-'] => .ok (done.reverse ++ rest.map .operand)
    | '-' :: '-' :: _ =>
      match o.readWord arg rest with
      | .ok (item, rest) => o.readFrom fuel (item :: done) rest
      | .error complaint => .error complaint
    | '-' :: c :: cs =>
      match o.readLetters rest done (c :: cs) with
      | .ok (done, rest) => o.readFrom fuel done rest
      | .error complaint => .error complaint
    | _ =>
      if o.inOrder then .ok (done.reverse ++ (arg :: rest).map .operand)
      else o.readFrom fuel (.operand arg :: done) rest

/-- Arguments told apart. -/
def read (o : Options) (args : List String) : Except String (List Item) :=
  o.readFrom (args.length + 1) [] args

end Options

/-! ### Looking items up -/

/-- The operands. -/
def operands (items : List Item) : List String :=
  items.filterMap fun
    | .operand text => some text
    | .option _ _ => none

/-- An option is there. -/
def has (items : List Item) (letter : Char) : Bool :=
  items.any fun
    | .option found _ => found == letter
    | .operand _ => false

/-- The values of an option, in order. -/
def values (items : List Item) (letter : Char) : List String :=
  items.filterMap fun
    | .option found (some value) => if found == letter then some value else none
    | _ => none

/-- The last value of an option. -/
def value? (items : List Item) (letter : Char) : Option String :=
  (values items letter).getLast?

/-- The complaint about arguments that cannot be told apart. -/
def usageComplaint (tool complaint : String) : String :=
  s!"{tool}: {complaint}\nTry '{tool} --help' for more information.\n"

/-- The tool of a name whose arguments are told apart first; it ends with the given number where
    they cannot be. -/
def withOptions (tool : String) (status : Nat) (o : Options)
    (work : List Item → Work Unit) : Tool :=
  of fun args =>
    match o.read args with
    | .ok items => work items
    | .error complaint => Work.fail status (usageComplaint tool complaint)

end NavScript.Tool
