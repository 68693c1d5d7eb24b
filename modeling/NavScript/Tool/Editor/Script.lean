import NavScript.Regex.Syntax

namespace NavScript.Tool.Editor

/-!
# Scripts of the stream editor

A script is a list of commands, each of which may say for which lines it is meant.  Groups and jumps
are kept as numbers of commands.

* `Address`, `Selection` — the lines that a command is meant for
* `Action`, `Instruction` — commands
* `Script.read` — the script that texts write, or what is wrong with them
-/

/-! ### Commands -/

/-- An expression with its options; one that is left out is the one used last. -/
structure Expression where
  regex : Option Regex
  foldCase : Bool
  lines : Bool

/-- A line that a command asks for. -/
inductive Address where
  | line (number : Nat)
  /-- Every so many lines from the first one on. -/
  | every (first step : Nat)
  | last
  | matching (e : Expression)

/-- The line that ends a range. -/
inductive RangeEnd where
  | address (a : Address)
  /-- So many lines more. -/
  | more (lines : Nat)
  /-- The next line whose number is a multiple. -/
  | multiple (of : Nat)

/-- The lines that a command is meant for. -/
structure Selection where
  first : Option Address
  last : Option RangeEnd
  negated : Bool

/-- The line before the first one can only begin a range that an expression ends. -/
def Selection.isPossible (s : Selection) : Bool :=
  match s.first, s.last with
  | some (.line 0), some (.address (.matching _)) => true
  | some (.line 0), _ => false
  | _, _ => true

/-- What becomes of letters in a replacement. -/
inductive Casing where
  | keep
  | upper
  | lower
  | upperNext
  | lowerNext
  deriving DecidableEq

/-- A piece of a replacement. -/
inductive Replacement where
  | text (chars : String)
  /-- What a group has matched, or, for the number zero, the whole expression. -/
  | group (number : Nat)
  | casing (c : Casing)

/-- A substitution. -/
structure Substitution where
  expression : Expression
  replacement : List Replacement
  /-- All matches from the one of the number on. -/
  all : Bool
  number : Nat
  printed : Bool
  file : Option String

/-- What a command does. -/
inductive Action where
  | opening (closedAt : Nat)
  | nothing
  | append (text : String)
  | insert (text : String)
  | replace (text : String)
  | jump (label : String)
  | jumpIfReplaced (label : String)
  | jumpUnlessReplaced (label : String)
  | delete
  | deleteFirst
  /-- The text shown in lines of a width, or of the usual one. -/
  | show (width : Option Nat)
  | name
  | get
  | getMore
  | hold
  | holdMore
  | exchange
  | next
  | nextMore
  | print
  | printFirst
  | quit (print : Bool) (status : Nat)
  | readFile (name : String)
  | writeFile (name : String) (onlyFirst : Bool)
  | substitute (s : Substitution)
  | translate (pairs : List (Char × Char))
  | number
  | clear

/-- A command. -/
structure Instruction where
  selection : Selection
  action : Action

/-- A script: its commands, where its labels are, and whether lines are printed only on demand. -/
structure Script where
  instructions : Array Instruction
  labels : List (String × Nat)
  quiet : Bool

/-! ### Reading -/

/-- What is wrong with a script, and where: how many characters have been read, or none. -/
structure Fault where
  position : Nat
  message : String

/-- A script being read: all of its characters, how many have been read, and the commands so far,
    with the groups that are open. -/
structure Progress where
  rest : List Char
  position : Nat
  instructions : Array Instruction
  labels : List (String × Nat)
  opened : List Nat

/-- Reading a part of a script, whose expressions are of the extended dialect or not. -/
abbrev Reading := ReaderT Bool (StateT Progress (Except Fault))

/-- The grave accent. -/
def grave : String := (Char.ofNat 0x60).toString

/-- A fault at the place that reading has come to. -/
def fault {α : Type} (message : String) : Reading α := do
  throw ⟨(← get).position, message⟩

/-- The next character, which stays where it is. -/
def peek : Reading (Option Char) := do
  return (← get).rest.head?

/-- The next character taken. -/
def skip : Reading Unit :=
  modify fun p => { p with rest := p.rest.drop 1, position := p.position + min 1 p.rest.length }

/-- So many characters taken. -/
def skipMany (n : Nat) : Reading Unit :=
  modify fun p => { p with rest := p.rest.drop n, position := p.position + min n p.rest.length }

/-- The characters of a kind at the front taken. -/
def takeWhile (kind : Char → Bool) : Reading (List Char) := do
  let cs := (← get).rest.takeWhile kind
  skipMany cs.length
  return cs

/-- A blank within a line. -/
def isBlank (c : Char) : Bool :=
  c == ' ' || c == '\t'

/-- A blank, line ends included. -/
def isSpace (c : Char) : Bool :=
  Text.isSpaceChar c

/-- The number at the front, if there is one. -/
def number? : Reading (Option Nat) := do
  let ds ← takeWhile Char.isDigit
  return (String.ofList ds).toNat?

/-- The text up to a delimiter, which is taken too; nothing when there is none.  `set` is how far a
    set of an expression has been read: not begun, at its beginning, or inside.  Backslashes before
    the delimiter are taken away, those before other characters stay. -/
def delimited (delimiter : Char) (isRegex : Bool) : (set : Nat) → (done : List Char) →
    List Char → Option (List Char × List Char)
  | _, _, [] => none
  | 0, done, '\\' :: c :: rest =>
    if c == delimiter then delimited delimiter isRegex 0 (c :: done) rest
    else if c == 'n' && isRegex then delimited delimiter isRegex 0 ('n' :: '\\' :: done) rest
    else delimited delimiter isRegex 0 (c :: '\\' :: done) rest
  | 0, done, c :: rest =>
    if c == delimiter then some (done.reverse, rest)
    else if c == '\n' then none
    else if c == '[' && isRegex then
      match rest with
      | '^' :: rest => delimited delimiter isRegex 2 ('^' :: c :: done) rest
      | rest => delimited delimiter isRegex 2 (c :: done) rest
    else delimited delimiter isRegex 0 (c :: done) rest
  | 2, done, c :: rest => delimited delimiter isRegex 1 (c :: done) rest
  | set, done, '[' :: ':' :: rest => delimited delimiter isRegex set (':' :: '[' :: done) rest
  | set, done, ':' :: ']' :: rest =>
    -- the name of a kind ends here only where one has begun
    if done.takeWhile Char.isAlpha |>.isEmpty |> not then
      match done.dropWhile Char.isAlpha with
      | ':' :: '[' :: _ => delimited delimiter isRegex set (']' :: ':' :: done) rest
      | _ => delimited delimiter isRegex 0 (']' :: ':' :: done) rest
    else delimited delimiter isRegex 0 (']' :: ':' :: done) rest
  | set, done, c :: rest =>
    if c == ']' then delimited delimiter isRegex 0 (c :: done) rest
    else delimited delimiter isRegex set (c :: done) rest

/-- The text up to a delimiter. -/
def takeDelimited (delimiter : Char) (isRegex : Bool) (complaint : String) : Reading String := do
  let p ← get
  match delimited delimiter isRegex 0 [] p.rest with
  | some (text, rest) =>
    skipMany (p.rest.length - rest.length)
    return String.ofList text
  | none =>
    skipMany p.rest.length
    fault complaint

/-- An expression given by its text. -/
def expression (text : String) (foldCase lines : Bool) : Reading Expression := do
  if text.isEmpty then return ⟨none, foldCase, lines⟩
  match Regex.read ⟨← read, true, false⟩ text with
  | .ok r => return ⟨some r, foldCase, lines⟩
  | .error f => fault f.message

/-! ### Addresses -/

/-- The options behind an expression of an address; `fuel` bounds their number. -/
def addressOptions : (fuel : Nat) → Bool → Bool → Reading (Bool × Bool)
  | 0, foldCase, lines => return (foldCase, lines)
  | fuel + 1, foldCase, lines => do
    match ← peek with
    | some 'I' =>
      skip
      addressOptions fuel true lines
    | some 'M' =>
      skip
      addressOptions fuel foldCase true
    | _ => return (foldCase, lines)

/-- An address, if there is one. -/
def address? : Reading (Option Address) := do
  let matching (delimiter : Char) : Reading (Option Address) := do
    let text ← takeDelimited delimiter true "unterminated address regex"
    let (foldCase, lines) ← addressOptions (← get).rest.length false false
    return some (.matching (← expression text foldCase lines))
  match ← peek with
  | some '/' =>
    skip
    matching '/'
  | some '\\' =>
    skip
    match ← peek with
    | some c =>
      skip
      matching c
    | none => fault "unexpected end of script"
  | some '$' =>
    skip
    return some .last
  | some c =>
    if !c.isDigit then return none
    let first := (← number?).getD 0
    let _ ← takeWhile isBlank
    if (← peek) == some '~' then
      skip
      let step := (← number?).getD 0
      return some (if step = 0 then .line first else .every first step)
    return some (.line first)
  | none => return none

/-- The end of a range behind its comma. -/
def rangeEnd : Reading RangeEnd := do
  match ← peek with
  | some '+' =>
    skip
    match ← number? with
    | some n => return .more n
    | none => fault "expected number of lines"
  | some '~' =>
    skip
    match ← number? with
    | some n => return .multiple n
    | none => fault "expected number of lines"
  | _ =>
    match ← address? with
    | some a => return .address a
    | none =>
      skip
      fault s!"unexpected {grave},'"

/-- The lines that the next command is meant for. -/
def selection : Reading Selection := do
  let first ← address?
  let _ ← takeWhile isSpace
  let last ←
    if first.isSome && (← peek) == some ',' then do
      skip
      let _ ← takeWhile isSpace
      let last ← rangeEnd
      Pure.pure (some last)
    else Pure.pure none
  let _ ← takeWhile isSpace
  let mut negated := false
  if (← peek) == some '!' then
    skip
    negated := true
    let _ ← takeWhile isSpace
    if (← peek) == some '!' then
      skip
      fault "multiple \x60!'s"
  return ⟨first, last, negated⟩

/-! ### Parts of commands -/

/-- The end of a command. -/
def endOfCommand : Reading Unit := do
  let _ ← takeWhile isBlank
  match ← peek with
  | none | some '\x7d' | some '#' => return
  | some c =>
    skip
    if c != '\n' && c != ';' then fault "extra characters after command"

/-- A label. -/
def label : Reading String := do
  let _ ← takeWhile isBlank
  let cs ← takeWhile fun c => !isSpace c && c != ';' && c != '\x7d'
  endOfCommand
  return String.ofList cs

/-- A label that is defined. -/
def ownLabel : Reading String := do
  let _ ← takeWhile isBlank
  let cs ← takeWhile fun c => !isSpace c && c != ';'
  if cs.isEmpty then fault "\":\" lacks a label"
  return String.ofList cs

/-- The name of a file, which goes on to the end of its line. -/
def fileName : Reading String := do
  let _ ← takeWhile isBlank
  let cs ← takeWhile (· != '\n')
  if cs.isEmpty then fault "missing filename in r/R/w/W commands"
  skip
  return String.ofList cs

/-- The lines of a text up to the first that no backslash makes go on, added in reverse to `done`;
    then what is behind.  Other backslashes are taken away. -/
def textLines (done : List Char) : List Char → List Char × List Char
  | [] => (done.reverse, [])
  | '\n' :: rest => (done.reverse, rest)
  | ['\\'] => (done.reverse, [])
  | '\\' :: c :: rest => textLines (c :: done) rest
  | c :: rest => textLines (c :: done) rest

/-- The text of a command that writes one. -/
def textArgument : Reading String := do
  let _ ← takeWhile isBlank
  match ← peek with
  | none => fault ("expected \\ after " ++ grave ++ "a', " ++ grave ++ "c' or " ++ grave ++ "i'")
  | some '\\' =>
    skip
    -- blanks in front of a text on the same line belong to it
    let blanks := (← get).rest.takeWhile isBlank
    if ((← get).rest.drop blanks.length).head? == some '\n' then skipMany (blanks.length + 1)
  | _ => Pure.pure ()
  let p ← get
  if p.rest.isEmpty then return ""
  let (text, rest) := textLines [] p.rest
  skipMany (p.rest.length - rest.length)
  return String.ofList text ++ "\n"

/-- The pieces of a replacement, added in reverse to `done`. -/
def replacementPieces (done : List Replacement) (cs : List Char) : List Replacement :=
  match cs with
  | [] => done.reverse
  | '&' :: rest => replacementPieces (.group 0 :: done) rest
  | '\\' :: c :: rest =>
    let casing? : Option Casing :=
      [('U', .upper), ('L', .lower), ('u', .upperNext), ('l', .lowerNext), ('E', .keep)].lookup c
    let piece : Replacement :=
      if c.isDigit then .group (c.toNat - '0'.toNat)
      else
        match casing?, Regex.numbered? (c :: rest) with
        | some casing, _ => .casing casing
        | none, some (d, _) => .text d.toString
        | none, none => .text ((Regex.controlOf? c).getD c).toString
    let taken := ((Regex.numbered? (c :: rest)).map (·.2)).getD 1 - 1
    replacementPieces (piece :: done) (rest.drop taken)
  | c :: rest => replacementPieces (.text c.toString :: done) rest
termination_by cs.length

/-- The greatest number of a group in a replacement. -/
def greatestGroup (pieces : List Replacement) : Nat :=
  pieces.foldl (fun n piece =>
    match piece with
    | .group number => max n number
    | _ => n) 0

/-- The name of a command in complaints. -/
def inMarks (name : String) : String :=
  grave ++ name ++ "'"

/-- The options of a substitution; `fuel` bounds their number. -/
def substitutionOptions : (fuel : Nat) → Substitution → Reading Substitution
  | 0, s => return s
  | fuel + 1, s => do
    match ← peek with
    | none | some '\x7d' | some '#' => return s
    | some c =>
      if c.isDigit then
        let n := (← number?).getD 0
        if s.number != 0 then fault ("multiple number options to " ++ inMarks "s" ++ " command")
        if n = 0 then fault ("number option to " ++ inMarks "s" ++ " command may not be zero")
        substitutionOptions fuel { s with number := n }
      else
        skip
        match c with
        | '\n' | ';' => return s
        | 'i' | 'I' =>
          substitutionOptions fuel { s with expression := { s.expression with foldCase := true } }
        | 'm' | 'M' =>
          substitutionOptions fuel { s with expression := { s.expression with lines := true } }
        | 'g' =>
          if s.all then
            fault ("multiple " ++ inMarks "g" ++ " options to " ++ inMarks "s" ++ " command")
          substitutionOptions fuel { s with all := true }
        | 'p' =>
          if s.printed then
            fault ("multiple " ++ inMarks "p" ++ " options to " ++ inMarks "s" ++ " command")
          substitutionOptions fuel { s with printed := true }
        | 'w' => return { s with file := some (← fileName) }
        | c =>
          if isBlank c then substitutionOptions fuel s
          else fault ("unknown option to " ++ inMarks "s")

/-- A substitution behind its letter. -/
def substitution : Reading Substitution := do
  let complaint := "unterminated " ++ inMarks "s" ++ " command"
  match ← peek with
  | none => fault complaint
  | some delimiter =>
    skip
    if delimiter == '\n' || delimiter == '\\' then fault complaint
    let pattern ← takeDelimited delimiter true complaint
    let text ← takeDelimited delimiter false complaint
    let replacement := replacementPieces [] text.toList
    let s ← substitutionOptions ((← get).rest.length + 1)
      ⟨⟨none, false, false⟩, replacement, false, 0, false, none⟩
    let e ← expression pattern s.expression.foldCase s.expression.lines
    if let some r := e.regex then
      let greatest := greatestGroup replacement
      if r.groups < greatest then
        fault (s!"invalid reference \\{greatest} on " ++ inMarks "s" ++ " command's RHS")
    return { s with expression := e }

/-- The characters of a translation, of which a backslash changes some. -/
def translated (delimiter : Char) : List Char → List Char
  | [] => []
  | '\\' :: c :: rest =>
    if c == '\\' || c == delimiter then c :: translated delimiter rest
    else
      match Regex.controlOf? c with
      | some d => d :: translated delimiter rest
      | none => '\\' :: c :: translated delimiter rest
  | c :: rest => c :: translated delimiter rest

/-- A translation behind its letter. -/
def translation : Reading (List (Char × Char)) := do
  let complaint := "unterminated " ++ inMarks "y" ++ " command"
  match ← peek with
  | none => fault complaint
  | some delimiter =>
    skip
    let first := translated delimiter (← takeDelimited delimiter false complaint).toList
    let second := translated delimiter (← takeDelimited delimiter false complaint).toList
    if first.length != second.length then
      fault ("strings for " ++ inMarks "y" ++ " command are different lengths")
    endOfCommand
    return first.zip second

/-- A status to quit with. -/
def quitStatus : Reading Nat := do
  let _ ← takeWhile isBlank
  let n := (← number?).getD 0
  endOfCommand
  return n

/-! ### Whole commands -/

/-- A command more. -/
def push (s : Selection) (a : Action) : Reading Unit :=
  modify fun p => { p with instructions := p.instructions.push ⟨s, a⟩ }

/-- The end of a group. -/
def close (s : Selection) : Reading Unit := do
  let p ← get
  if s.first.isSome then fault "\x7d doesn't want any addresses"
  match p.opened with
  | [] => fault (s!"unexpected " ++ inMarks "\x7d")
  | start :: rest =>
    let here := p.instructions.size
    let closed (i : Instruction) : Instruction := { i with action := .opening here }
    let instructions := match p.instructions[start]? with
      | some i => p.instructions.set! start (closed i)
      | none => p.instructions
    modify fun p => { p with instructions, opened := rest }
    push s .nothing
    endOfCommand

/-- A command whose letter has been taken. -/
def command (s : Selection) (c : Char) : Reading Unit := do
  let plain (a : Action) : Reading Unit := do
    endOfCommand
    push s a
  match c with
  | '\x7b' =>
    modify fun p => { p with opened := p.instructions.size :: p.opened }
    push s (.opening 0)
  | '\x7d' => close s
  | ':' =>
    if s.first.isSome then fault ": doesn't want any addresses"
    let name ← ownLabel
    modify fun p => { p with labels := (name, p.instructions.size) :: p.labels }
    push s .nothing
    let _ ← takeWhile isBlank
  | 'a' => push s (.append (← textArgument))
  | 'i' => push s (.insert (← textArgument))
  | 'c' => push s (.replace (← textArgument))
  | 'b' => push s (.jump (← label))
  | 't' => push s (.jumpIfReplaced (← label))
  | 'T' => push s (.jumpUnlessReplaced (← label))
  | 'd' => plain .delete
  | 'D' => plain .deleteFirst
  | 'l' =>
    let _ ← takeWhile isBlank
    let width ← number?
    plain (.show width)
  | 'F' => plain .name
  | 'g' => plain .get
  | 'G' => plain .getMore
  | 'h' => plain .hold
  | 'H' => plain .holdMore
  | 'x' => plain .exchange
  | 'n' => plain .next
  | 'N' => plain .nextMore
  | 'p' => plain .print
  | 'P' => plain .printFirst
  | 'q' => push s (.quit true (← quitStatus))
  | 'Q' => push s (.quit false (← quitStatus))
  | 'r' => push s (.readFile (← fileName))
  | 'w' => push s (.writeFile (← fileName) false)
  | 'W' => push s (.writeFile (← fileName) true)
  | 's' => push s (.substitute (← substitution))
  | 'y' => push s (.translate (← translation))
  | '=' => plain .number
  | 'z' => plain .clear
  | c => fault ("unknown command: " ++ inMarks c.toString)

/-- The remaining commands; `fuel` bounds their number. -/
def commands : (fuel : Nat) → Reading Unit
  | 0 => return
  | fuel + 1 => do
    let _ ← takeWhile fun c => isSpace c || c == ';'
    match ← peek with
    | none => return
    | some '#' =>
      let _ ← takeWhile (· != '\n')
      commands fuel
    | some _ =>
      let s ← selection
      match ← peek with
      | none => fault "missing command"
      | some ',' =>
        skip
        fault ("unexpected " ++ inMarks ",")
      | some c =>
        skip
        if !s.isPossible then fault "invalid usage of line address 0"
        command s c
        commands fuel

namespace Script

/-- The script that a text writes, whose expressions are of the extended dialect or not. -/
def read (extended : Bool) (text : String) : Except Fault Script := do
  let quiet := text.startsWith "#n"
  let (_, p) ← ((commands (text.length + 1)).run extended).run ⟨text.toList, 0, #[], [], []⟩
  if !p.opened.isEmpty then throw ⟨0, "unmatched " ++ inMarks "\x7b"⟩
  return ⟨p.instructions, p.labels, quiet⟩

end Script

end NavScript.Tool.Editor
