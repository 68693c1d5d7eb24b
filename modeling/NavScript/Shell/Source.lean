import NavScript.Shell.Command

namespace NavScript.Shell

/-!
# Sources

A program is read from its front, line by line, and a fault names the line that has been reached.
The text of a here-document stands behind the line that asks for it, so what is asked for is kept
until that line ends.

* `Token` — the smallest parts of a program
* `Source` — what is left to read
* `Reading` — reading a part of a source, or the fault in it
-/

/-- What a redirection's arrow asks for: a file, or a here-document, of which leading tabs may be
    left out. -/
inductive Arrow where
  | opens (how : Opening)
  | document (strip : Bool)

/-- A smallest part of a program. -/
inductive Token where
  | word (pieces : Word)
  | reserved (name : String)
  | arrow (descriptor : Nat) (what : Arrow)
  | newline
  | semicolon
  | ampersand
  | bothBars
  | bothAmpersands
  | bar
  | openParen
  | closeParen
  | endBranch
  | endOfText

/-- A token as complaints name it. -/
def Token.describe : Token → String
  | word _ => "word"
  | reserved name => s!"\"{name}\""
  | arrow _ _ => "redirection"
  | newline => "newline"
  | semicolon => "\";\""
  | ampersand => "\"&\""
  | bothBars => "\"||\""
  | bothAmpersands => "\"&&\""
  | bar => "\"|\""
  | openParen => "\"(\""
  | closeParen => "\")\""
  | endBranch => "\";;\""
  | endOfText => "end of file"

/-- A token that can only end a list of commands. -/
def Token.endsList : Token → Bool
  | .endOfText | .closeParen | .endBranch => true
  | .reserved name =>
    ["do", "done", "elif", "else", "esac", "fi", "then", "\x7d"].contains name
  | _ => false

/-- A here-document asked for: its number, the line that ends it, whether it is taken as it stands,
    and whether leading tabs are left out. -/
structure Awaited where
  number : Nat
  mark : String
  verbatim : Bool
  strip : Bool

/-- What is left to read: the text, the number of its line, a token read ahead, the here-documents
    asked for, and those that have been read; `next` numbers the next one. -/
structure Source where
  rest : List Char
  line : Nat
  held : Option Token
  awaited : List Awaited
  documents : List (Nat × Word)
  next : Nat

/-- The source of a text whose here-documents are numbered from the given number on. -/
def Source.ofText (text : String) (next : Nat) : Source :=
  ⟨text.toList, 1, none, [], [], next⟩

/-- A fault with the line that reading had reached. -/
structure Fault where
  line : Nat
  message : String

/-- Reading a part of a source. -/
abbrev Reading := StateT Source (Except Fault)

namespace Reading

/-- A fault where reading has come to. -/
def fault {α : Type} (message : String) : Reading α := do
  throw ⟨(← get).line, "Syntax error: " ++ message⟩

/-- The next character, if there is one, which stays where it is. -/
def peek : Reading (Option Char) := do
  return (← get).rest.head?

/-- The next character taken. -/
def skip : Reading Unit :=
  modify fun s =>
    match s.rest with
    | '\n' :: rest => { s with rest, line := s.line + 1 }
    | _ :: rest => { s with rest }
    | [] => s

/-- A text without the line ends that a backslash takes away from its front, and their number. -/
def joinLines (lines : Nat) : List Char → Nat × List Char
  | '\\' :: '\n' :: rest => joinLines (lines + 1) rest
  | rest => (lines, rest)

/-- The next character on the same line, lines that end in a backslash going on in the next one. -/
def peekJoined : Reading (Option Char) := do
  modify fun s =>
    let (lines, rest) := joinLines 0 s.rest
    { s with rest, line := s.line + lines }
  peek

/-- The given character taken if it is the next one. -/
def takes (c : Char) : Reading Bool := do
  if (← peekJoined) == some c then
    skip
    return true
  return false

/-- The characters of a kind taken from the front, in reverse to `done`; `fuel` bounds their
    number. -/
def takeWhile (kind : Char → Bool) : (fuel : Nat) → (done : List Char) → Reading (List Char)
  | 0, done => return done.reverse
  | fuel + 1, done => do
    match ← peekJoined with
    | some c =>
      if kind c then
        skip
        takeWhile kind fuel (c :: done)
      else return done.reverse
    | none => return done.reverse

/-- All characters of a kind taken from the front. -/
def takeAll (kind : Char → Bool) : Reading String := do
  let cs ← takeWhile kind (← get).rest.length []
  return String.ofList cs

/-- A token put back. -/
def hold (t : Token) : Reading Unit :=
  modify fun s => { s with held := some t }

end Reading

end NavScript.Shell
