import NavScript.Shell.Source

namespace NavScript.Shell

/-!
# Reading words

A word goes on up to a character that ends it outside of quotes.  Inside quotes, braces and
arithmetic other characters have a meaning, so that what is read depends on where it stands.

* `Context` — where a piece stands
* `Reading.pieces` — the pieces up to the end of their context
* `Reading.word` — a word
-/

/-! ### Characters -/

/-- A character that can begin the name of a variable. -/
def isNameStart (c : Char) : Bool :=
  c.isAlpha || c == '_'

/-- A character of the name of a variable. -/
def isNameChar (c : Char) : Bool :=
  c.isAlphanum || c == '_'

/-- A name of a variable. -/
def isVariableName (name : String) : Bool :=
  match name.toList with
  | c :: rest => isNameStart c && rest.all isNameChar
  | [] => false

/-- A character that is the name of a parameter. -/
def isSpecial (c : Char) : Bool :=
  "*@#?-$!".toList.contains c || c.isDigit

/-- The characters that end a word outside of quotes. -/
def endsWord (c : Char) : Bool :=
  "\n \t;&|<>()".toList.contains c

/-- The grave accent, which stands around commands of the older form. -/
def grave : Char := Char.ofNat 0x60

/-! ### Words being read -/

/-- Where a piece stands. -/
inductive Context where
  | plain
  | quotes
  | braces (quoted : Bool)
  | arithmetic (depth : Nat)
  | document
  deriving DecidableEq

/-- What stands there is quoted. -/
def Context.isQuoted : Context → Bool
  | plain => false
  | braces quoted => quoted
  | quotes | arithmetic _ | document => true

/-- The characters that a backslash takes the meaning of in a quoted context. -/
def Context.escapes (context : Context) (c : Char) : Bool :=
  c == '\\' || c == grave || c == '$'
    || (c == '"' && context != .document)
    || (c == '\x7d' && match context with | .braces _ => true | _ => false)

/-- A character more in a word, which is given last piece first. -/
def addChar (quoted : Bool) (c : Char) : Word → Word
  | .text q chars :: rest =>
    if q == quoted then .text q (chars.push c) :: rest
    else .text quoted c.toString :: .text q chars :: rest
  | pieces => .text quoted c.toString :: pieces

/-- What stood between double quotes, last piece first.  Quotes make a field even of no characters,
    but not around all arguments alone. -/
def betweenQuotes (inside : Word) : Word :=
  match inside with
  | [.value true "@"] => inside
  | _ => inside ++ [.text true ""]

/-- The characters between grave accents with the backslashes taken away that were needed for them
    to stand there. -/
def ungraved (quoted : Bool) (done : List Char) : List Char → Option (List Char × List Char)
  | [] => none
  | c :: rest =>
    if c == grave then some (done.reverse, rest)
    else if c == '\\' then
      match rest with
      | [] => none
      | '\n' :: rest => ungraved quoted done rest
      | e :: rest =>
        if e == '\\' || e == grave || e == '$' || (quoted && e == '"') then
          ungraved quoted (e :: done) rest
        else ungraved quoted (e :: '\\' :: done) rest
    else ungraved quoted (c :: done) rest

/-- How commands inside words are read: up to a parenthesis that closes them, or to the end of the
    text. -/
abbrev Inner := (parenthesis : Bool) → Reading Command

namespace Reading

/-- Text of its own read by `part`, and then reading goes on where it was.  The text counts its
    lines from one. -/
def apart {α : Type} (text : List Char) (line : Nat) (part : Reading α) : Reading α := do
  let s ← get
  set { s with rest := text, line, held := none, awaited := [] }
  let a ← part
  modify fun t => { t with rest := s.rest, line := s.line, held := s.held, awaited := s.awaited }
  return a

/-- The text up to a single quote, which is taken. -/
def singleQuoted : Reading String := do
  let s ← get
  let inside := s.rest.takeWhile (· != '\'')
  let line := s.line + inside.count '\n'
  match s.rest.dropWhile (· != '\'') with
  | _ :: rest =>
    set { s with rest, line }
    return String.ofList inside
  | [] =>
    set { s with line }
    fault "Unterminated quoted string"

/-- The command between grave accents, of which the first has been taken. -/
def graved (inner : Inner) (quoted : Bool) : Reading Command := do
  let s ← get
  match ungraved quoted [] s.rest with
  | none => fault "EOF in backquote substitution"
  | some (text, rest) =>
    let taken := s.rest.take (s.rest.length - rest.length)
    set { s with rest, line := s.line + taken.count '\n' }
    apart text 1 (inner false)

/-- The parameter that stands in braces, and whether its length is asked for; `none` when there is
    no parameter. -/
def parameterName : Reading (Option (String × Bool)) := do
  match ← peekJoined with
  | none => return none
  | some '#' =>
    skip
    match ← peekJoined with
    | some c =>
      if isNameStart c then return some (← takeAll isNameChar, true)
      else if c.isDigit then return some (← takeAll Char.isDigit, true)
      else if isSpecial c then
        let s ← get
        match (joinLines 0 (s.rest.drop 1)).2 with
        | '\x7d' :: _ =>
          skip
          return some (c.toString, true)
        | _ => return some ("#", false)
      else return some ("#", false)
    | none => return some ("#", false)
  | some c =>
    if isNameStart c then return some (← takeAll isNameChar, false)
    else if c.isDigit then return some (← takeAll Char.isDigit, false)
    else if isSpecial c then
      skip
      return some (c.toString, false)
    else return none

/-- What a word behind a parameter in braces does for it, and whether a value without characters
    counts as none; nothing where no word follows. -/
def alteration : Reading (Option (Bool × Alteration)) := do
  let nullToo ← takes ':'
  match ← peekJoined with
  | some '-' => skip; return some (nullToo, .default)
  | some '=' => skip; return some (nullToo, .assign)
  | some '?' => skip; return some (nullToo, .require)
  | some '+' => skip; return some (nullToo, .instead)
  | some '%' =>
    if nullToo then return none
    skip
    return some (false, .withoutBack (← takes '%'))
  | some '#' =>
    if nullToo then return none
    skip
    return some (false, .withoutFront (← takes '#'))
  | _ => return none

/-- The context of the word behind a parameter: a pattern is not quoted by quotes around all of
    it. -/
def Context.inBraces (context : Context) : Alteration → Context
  | .withoutFront _ | .withoutBack _ => .braces false
  | _ => .braces context.isQuoted

mutual

/-- The pieces up to the end of their context, last first, added to `done`.  Commands inside are
    read by `inner`; every call takes a character or ends, and `fuel` bounds their number. -/
def pieces (inner : Inner) (fuel : Nat) (context : Context) (done : Word) : Reading Word :=
  match fuel with
  | 0 => fault "Unterminated quoted string"
  | fuel + 1 => do
    match ← peek with
    | none =>
      match context with
      | .plain | .document => return done
      | .quotes | .braces true => fault "Unterminated quoted string"
      | .braces false => fault "Missing '\x7d'"
      | .arithmetic _ => fault "Missing '))'"
    | some c =>
      let quoted := context.isQuoted
      if c == '\\' then
        skip
        match ← peek with
        | none => pieces inner fuel context (addChar true '\\' done)
        | some '\n' =>
          skip
          pieces inner fuel context done
        | some e =>
          skip
          let done := if quoted && !context.escapes e then addChar true '\\' done else done
          pieces inner fuel context (addChar true e done)
      else if c == '$' then
        skip
        pieces inner fuel context (← dollar inner fuel context done)
      else if c == grave then
        skip
        pieces inner fuel context (.output quoted (← graved inner quoted) :: done)
      else
        match context with
        | .plain =>
          if endsWord c then return done
          else if c == '\'' then
            skip
            pieces inner fuel context (.text true (← singleQuoted) :: done)
          else if c == '"' then
            skip
            pieces inner fuel context (betweenQuotes (← pieces inner fuel .quotes []) ++ done)
          else
            skip
            pieces inner fuel context (addChar false c done)
        | .quotes =>
          skip
          if c == '"' then return done else pieces inner fuel context (addChar true c done)
        | .braces quoted =>
          skip
          if c == '\x7d' then return done
          else if c == '\'' && !quoted then
            pieces inner fuel context (.text true (← singleQuoted) :: done)
          else if c == '"' then
            pieces inner fuel context (betweenQuotes (← pieces inner fuel .quotes []) ++ done)
          else pieces inner fuel context (addChar quoted c done)
        | .arithmetic depth =>
          skip
          if c == '(' then pieces inner fuel (.arithmetic (depth + 1)) (addChar true c done)
          else if c == ')' then
            match depth with
            | depth + 1 => pieces inner fuel (.arithmetic depth) (addChar true c done)
            | 0 =>
              if ← takes ')' then return done
              else pieces inner fuel context (addChar true c done)
          else pieces inner fuel context (addChar true c done)
        | .document =>
          skip
          pieces inner fuel context (addChar true c done)

/-- What stands behind a dollar sign. -/
def dollar (inner : Inner) (fuel : Nat) (context : Context) (done : Word) : Reading Word :=
  match fuel with
  | 0 => fault "Unterminated quoted string"
  | fuel + 1 => do
    let quoted := context.isQuoted
    match ← peekJoined with
    | some '(' =>
      skip
      if ← takes '(' then
        let expression ← pieces inner fuel (.arithmetic 0) []
        return .number quoted expression.reverse :: done
      else
        let s ← get
        set { s with awaited := [] }
        let command ← inner true
        modify fun t => { t with awaited := s.awaited }
        return .output quoted command :: done
    | some '\x7b' =>
      skip
      match ← parameterName with
      | none =>
        let _ ← pieces inner fuel (.braces quoted) []
        return .malformed :: done
      | some (name, true) =>
        if ← takes '\x7d' then return .length quoted name :: done
        let _ ← pieces inner fuel (.braces quoted) []
        return .malformed :: done
      | some (name, false) =>
        if ← takes '\x7d' then return .value quoted name :: done
        match ← alteration with
        | some (nullToo, how) =>
          let word ← pieces inner fuel (Context.inBraces context how) []
          return .altered quoted name nullToo how word.reverse :: done
        | none =>
          let _ ← pieces inner fuel (.braces quoted) []
          return .malformed :: done
    | some c =>
      if isNameStart c then
        return .value quoted (← takeAll isNameChar) :: done
      else if isSpecial c then
        skip
        return .value quoted c.toString :: done
      else return addChar quoted '$' done
    | none => return addChar quoted '$' done

end

/-- A word. -/
def word (inner : Inner) : Reading Word := do
  let done ← pieces inner (2 * (← get).rest.length + 2) .plain []
  return done.reverse

end Reading

/-! ### Texts of words -/

/-- The text of a word in which nothing is quoted and nothing stands for something else. -/
def bareText? : Word → Option String
  | [.text false text] => some text
  | _ => none

/-- The name and the value that a word assigns, if it begins with a name and an equals sign. -/
def assignment? : Word → Option (String × Word)
  | .text false text :: rest =>
    let name := text.toList.takeWhile isNameChar
    match text.toList.dropWhile isNameChar with
    | '=' :: value =>
      if isVariableName (String.ofList name) then
        some (String.ofList name,
          if value.isEmpty then rest else .text false (String.ofList value) :: rest)
      else none
    | _ => none
  | _ => none

end NavScript.Shell
