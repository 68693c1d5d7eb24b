import NavScript.Shell.Arithmetic
import NavScript.Shell.Pattern
import NavScript.Shell.State

namespace NavScript.Shell

open NavScript.Text

/-!
# From words to fields

Before a command runs its words are replaced by fields: the pieces of a word give characters, values
outside of quotes are cut at separators, and patterns are replaced by the names that they stand for.

* `Mark` — a character, and how it came to be there
* `Running.marks` — the characters of a word
* `cutFields` — characters cut into fields
* `Running.fields`, `Running.single` — the fields of words, and a word as one text
-/

/-- A character of a word, or a place in it. -/
inductive Mark where
  /-- A character that was written outside of quotes. -/
  | plain (c : Char)
  | quoted (c : Char)
  /-- A character of a value outside of quotes, which may separate fields. -/
  | value (c : Char)
  /-- Quotes, which make a field even where nothing stands between them. -/
  | field
  /-- The place between two arguments. -/
  | cut

namespace Mark

/-- The character, if it is one. -/
def char? : Mark → Option Char
  | plain c | quoted c | value c => some c
  | field | cut => none

/-- The character with its meaning in a pattern. -/
def marked? : Mark → Option Marked
  | plain c | value c => some (true, c)
  | quoted c => some (false, c)
  | field | cut => none

/-- The character as one of a value. -/
def asValue : Mark → Mark
  | plain c => value c
  | mark => mark

end Mark

/-- The characters of a value. -/
def valueMarks (isQuoted : Bool) (text : String) : List Mark :=
  text.toList.map fun c => if isQuoted then .quoted c else .value c

/-- Characters as one text. -/
def textOf (marks : List Mark) : String :=
  String.ofList (marks.filterMap fun
    | .cut => some ' '
    | mark => mark.char?)

/-- Characters as a pattern. -/
def patternOf (marks : List Mark) : Pattern :=
  Pattern.ofMarked (marks.filterMap Mark.marked?)

/-- A text without the line feeds at its end. -/
def withoutLineFeeds (text : String) : String :=
  String.ofList ((text.toList.reverse.dropWhile (· == '\n')).reverse)

/-! ### Parameters -/

namespace State

/-- The letters of the options that are set. -/
def optionLetters (s : State) : String :=
  String.ofList ((optionNames.reverse.map (·.1)).filter s.has)

/-- The value of a parameter other than all arguments. -/
def parameter? (s : State) (name : String) : Option String :=
  match name with
  | "#" => some (toString s.arguments.length)
  | "?" => some (toString s.status)
  | "$" => some (toString s.givenProcess)
  | "!" => s.background.head?.map fun b => toString b.1
  | "-" => some s.optionLetters
  | "0" => some s.name
  | name =>
    match name.toNat? with
    | some n => s.arguments[n - 1]?
    | none => s.valueOf? name

/-- All arguments as one text, with the first separator between them. -/
def joined (s : State) : String :=
  let between := match s.separators with
    | c :: _ => c.toString
    | [] => ""
  between.intercalate s.arguments

end State

/-- Arguments with places between them. -/
def argumentMarks (isQuoted : Bool) : List String → List Mark
  | [] => []
  | [text] => (if isQuoted then [.field] else []) ++ valueMarks isQuoted text
  | text :: rest =>
    (if isQuoted then [.field] else []) ++ valueMarks isQuoted text ++ .cut ::
      argumentMarks isQuoted rest

/-- The name stands for all arguments. -/
def isAll (name : String) : Bool :=
  name == "@" || name == "*"

namespace Running

/-- The value of a parameter; one that must be set and is not ends the shell. -/
def valueOf (name : String) : Running String := do
  let s ← get
  if isAll name then return s.joined
  match s.parameter? name with
  | some value => return value
  | none =>
    if s.has 'u' then fail s!"{name}: parameter not set"
    return ""

/-- The characters of a parameter's value.  Where fields are not wanted all arguments are one
    text. -/
def parameterMarks (wantFields isQuoted : Bool) (name : String) : Running (List Mark) := do
  let s ← get
  if !wantFields && isAll name then return valueMarks isQuoted s.joined
  match name, isQuoted with
  | "@", isQuoted | "*", isQuoted =>
    if name == "*" && isQuoted then return valueMarks true s.joined
    return argumentMarks isQuoted s.arguments
  | name, isQuoted => return valueMarks isQuoted (← valueOf name)

/-- An expression's value, with the assignments that it makes. -/
def arithmetic (expression : String) : Running Int := do
  let s ← get
  match Arithmetic.value s.valueOf? expression with
  | .ok (n, assigned) =>
    for (name, value) in assigned do
      setVariable name (toString value)
    return n
  | .error (.malformed what) => fail s!"arithmetic expression: {what}: \"{expression}\""
  | .error (.notANumber text) => fail s!"Illegal number: {text}"

/-- The complaint about a parameter that must have a value. -/
def missing {α : Type} (name : String) (nullToo : Bool) (message : String) : Running α :=
  if message.isEmpty then
    fail (s!"{name}: parameter not set" ++ if nullToo then " or null" else "")
  else fail s!"{name}: {message}"

/-! ### Words -/

section

variable (run : Runner) (wantFields : Bool)

mutual

/-- The characters of a piece. -/
def pieceMarks : Piece → Running (List Mark)
  | .text true chars =>
    return if chars.isEmpty then [.field] else .field :: chars.toList.map .quoted
  | .text false chars => return chars.toList.map .plain
  | .value isQuoted name => parameterMarks wantFields isQuoted name
  | .length isQuoted name => do
    return valueMarks isQuoted (toString (← valueOf name).length)
  | .malformed => fail "Bad substitution"
  | .output isQuoted command => do
    return valueMarks isQuoted (withoutLineFeeds (← run (.capture command)))
  | .number isQuoted expression => do
    let marks ← wordMarks expression
    return valueMarks isQuoted (toString (← arithmetic (textOf marks)))
  | .altered isQuoted name nullToo how word => do
    let s ← get
    let value := if isAll name then
        if s.arguments.isEmpty then none else some s.joined
      else s.parameter? name
    let value := if nullToo then value.filter (!·.isEmpty) else value
    match how, value with
    | .default, none | .instead, some _ =>
      let marks ← wordMarks word
      return if isQuoted then marks else marks.map Mark.asValue
    | .instead, none => return []
    | .assign, none =>
      if !isVariableName name then fail s!"{name}: bad variable name"
      let text := textOf (← wordMarks word)
      setVariable name text
      return valueMarks isQuoted text
    | .require, none => missing name nullToo (textOf (← wordMarks word))
    | .withoutFront longest, value =>
      if value.isNone && s.has 'u' then fail s!"{name}: parameter not set"
      let p := patternOf (← wordMarks word)
      return valueMarks isQuoted (String.ofList (p.cutFront longest (value.getD "").toList))
    | .withoutBack longest, value =>
      if value.isNone && s.has 'u' then fail s!"{name}: parameter not set"
      let p := patternOf (← wordMarks word)
      return valueMarks isQuoted (String.ofList (p.cutBack longest (value.getD "").toList))
    | _, some _ => parameterMarks wantFields isQuoted name

/-- The characters of a word, piece after piece. -/
def wordMarks : List Piece → Running (List Mark)
  | [] => return []
  | piece :: rest => do
    let first ← pieceMarks piece
    return first ++ (← wordMarks rest)

end

end

/-- A word in which a tilde at the front stands for the home directory. -/
def withHome (word : Word) : Running Word := do
  match word with
  | .text false chars :: rest =>
    let home := (← get).valueOf? "HOME"
    match chars.toList, home, rest with
    | ['~'], some home, [] => return [.text true home]
    | '~' :: '/' :: path, some home, rest =>
      return .text true home :: .text false (String.ofList ('/' :: path)) :: rest
    | _, _, _ => return word
  | _ => return word

/-- The characters of a word whose fields are wanted, or that is one text. -/
def marks (run : Runner) (wantFields : Bool) (word : Word) : Running (List Mark) := do
  wordMarks run wantFields (← withHome word)

/-- A word as one text. -/
def single (run : Runner) (word : Word) : Running String := do
  return textOf (← marks run false word)

/-- A word as a pattern. -/
def pattern (run : Runner) (word : Word) : Running Pattern := do
  return patternOf (← marks run false word)

end Running

/-! ### Fields -/

/-- Fields being cut: those that have ended, last first, and the one that has begun, if one has,
    also last character first.  `spaced` says that blanks have ended a field, so that a separator
    behind them ends none. -/
structure Cutting where
  ended : List (List Mark)
  begun : Option (List Mark)
  spaced : Bool

namespace Cutting

/-- The field begun has ended. -/
def finish (c : Cutting) : Cutting :=
  match c.begun with
  | some marks => ⟨marks.reverse :: c.ended, none, c.spaced⟩
  | none => c

/-- A character more in the field begun. -/
def add (c : Cutting) (mark : Mark) : Cutting :=
  ⟨c.ended, some (mark :: c.begun.getD []), false⟩

/-- A separator. -/
def separate (c : Cutting) (blank : Bool) : Cutting :=
  match c.begun, blank with
  | some _, blank => { c.finish with spaced := blank }
  | none, true => c
  | none, false => if c.spaced then { c with spaced := false } else ⟨[] :: c.ended, none, false⟩

/-- A mark. -/
def step (separators : List Char) (c : Cutting) (mark : Mark) : Cutting :=
  match mark with
  | .cut => { c.finish with spaced := false }
  | .field => { c with begun := some (c.begun.getD []) }
  | .value d =>
    if separators.contains d then c.separate (d == ' ' || d == '\t' || d == '\n') else c.add mark
  | mark => c.add mark

end Cutting

/-- Characters cut into fields. -/
def cutFields (separators : List Char) (marks : List Mark) : List (List Mark) :=
  (marks.foldl (Cutting.step separators) ⟨[], none, false⟩).finish.ended.reverse

/-! ### Names that patterns stand for -/

/-- Names in a directory that a component of a pattern stands for.  A leading dot must be
    written. -/
def matchingNames (files : Files) (full : String) (p : Pattern) : List String :=
  match files.find full with
  | .ok (place, some .directory) =>
    ((files.names place).map Narrow.ofText).filter fun name =>
      (!name.startsWith "." || p.head? == some (.char '.')) && p.accepts name.toList
  | _ => []

/-- The names that the components of a pattern stand for, behind the given front. -/
def matchingPaths (s : State) (front : String) : List Pattern → List String
  | [] => [front]
  | p :: rest =>
    let ending := if rest.isEmpty then "" else "/"
    if p.isOpen then
      let directory := if front.isEmpty then "." else front
      (matchingNames s.world.files (s.fullName directory) p).flatMap fun name =>
        matchingPaths s (front ++ name ++ ending) rest
    else
      let name := String.ofList (p.filterMap fun
        | .char c => some c
        | _ => none)
      let path := front ++ name
      if rest.isEmpty && !name.isEmpty && !(s.world.files.entry (s.fullName path)).isOk then []
      else matchingPaths s (path ++ ending) rest

/-- The components of a pattern. -/
def componentsOf (cs : List Marked) : List Pattern :=
  (cs.splitOnP (·.2 == '/')).map Pattern.ofMarked

/-- A field, or the names that it stands for as a pattern, in the order of their characters. -/
def namesOf (s : State) (field : List Mark) : List String :=
  let text := textOf field
  let marked := field.filterMap Mark.marked?
  if s.has 'f' || !(Pattern.ofMarked marked).isOpen then [text]
  else
    match (matchingPaths s "" (componentsOf marked)).mergeSort fun a b => a ≤ b with
    | [] => [text]
    | names => names

namespace Running

/-- The fields of a word. -/
def fieldsOf (run : Runner) (word : Word) : Running (List String) := do
  let found ← marks run true word
  let s ← get
  return (cutFields s.separators found).flatMap (namesOf s)

/-- The fields of words. -/
def fields (run : Runner) : List Word → Running (List String)
  | [] => return []
  | word :: rest => do
    let first ← fieldsOf run word
    return first ++ (← fields run rest)

end Running

end NavScript.Shell
