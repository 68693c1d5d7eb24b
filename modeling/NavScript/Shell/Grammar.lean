import NavScript.Shell.Word

namespace NavScript.Shell

/-!
# Reading commands

A program is read one line of commands at a time, where a line is as long as its commands need.  So
what stands before a fault has been read, and can have been run, by the time the fault is found.

* `Reading.next` — a token
* `Reading.list` — a list of commands
* `nextCommand` — the next line of a program
-/

/-! ### Tokens -/

/-- The words that are no words where a command can begin. -/
def reservedWords : List String :=
  ["!", "case", "do", "done", "elif", "else", "esac", "fi", "for", "if", "in", "then", "until",
    "while", "\x7b", "\x7d"]

/-- A word that is a reserved one becomes that. -/
def Token.asReserved (t : Token) : Token :=
  match t with
  | .word pieces =>
    match bareText? pieces with
    | some name => if reservedWords.contains name then .reserved name else t
    | none => t
  | _ => t

/-- The lines of a here-document up to the one that ends it, added in reverse to `done`; the rest,
    and the number of lines.  A line that goes on from the one before does not end the document. -/
def documentLines (a : Awaited) : (fuel : Nat) → (goesOn : Bool) → (lines : Nat) →
    (done : List (List Char)) → List Char → List Char × List Char × Nat
  | 0, _, lines, done, cs => (done.reverse.flatten, cs, lines)
  | fuel + 1, goesOn, lines, done, cs =>
    if cs.isEmpty then (done.reverse.flatten, [], lines)
    else
      let line := cs.takeWhile (· != '\n')
      let line := if a.strip then line.dropWhile (· == '\t') else line
      let behind := cs.dropWhile (· != '\n')
      if !goesOn && line == a.mark.toList then (done.reverse.flatten, behind.drop 1, lines + 1)
      else
        let slashes := (line.reverse.takeWhile (· == '\\')).length
        documentLines a fuel (!a.verbatim && slashes % 2 == 1 && !behind.isEmpty) (lines + 1)
          ((line ++ behind.take 1) :: done) (behind.drop 1)

namespace Reading

/-- The here-documents asked for, each of which begins where the one before it ended. -/
def readDocuments (inner : Inner) : List Awaited → Reading Unit
  | [] => return
  | a :: more => do
    let s ← get
    let (text, rest, lines) := documentLines a (s.rest.length + 1) false 0 [] s.rest
    let body ←
      if a.verbatim then
        Pure.pure [.text true (String.ofList text)]
      else
        let done ← apart text s.line (pieces inner (2 * text.length + 2) .document [])
        Pure.pure done.reverse
    modify fun t =>
      { t with rest, line := s.line + lines, documents := (a.number, body) :: t.documents }
    readDocuments inner more

/-- The here-documents that the line before asked for. -/
def takeDocuments (inner : Inner) : Reading Unit := do
  let awaited := (← get).awaited
  modify fun s => { s with awaited := [] }
  readDocuments inner awaited

/-- The arrow of a redirection, of which the first character is given and stands next. -/
def arrow (descriptor : Option Nat) (first : Char) : Reading Token := do
  skip
  if first == '>' then
    let descriptor := descriptor.getD 1
    if ← takes '>' then return .arrow descriptor (.opens .appending)
    if ← takes '|' then return .arrow descriptor (.opens .replacing)
    if ← takes '&' then return .arrow descriptor (.opens .duplicate)
    return .arrow descriptor (.opens .writing)
  else
    let descriptor := descriptor.getD 0
    if ← takes '<' then return .arrow descriptor (.document (← takes '-'))
    if ← takes '&' then return .arrow descriptor (.opens .duplicate)
    if ← takes '>' then return .arrow descriptor (.opens .both)
    return .arrow descriptor (.opens .reading)

/-- A word, or a redirection whose descriptor a digit in front of it gives. -/
def wordOrArrow (inner : Inner) : Reading Token := do
  let w ← word inner
  match bareText? w, ← peek with
  | some text, some c =>
    match text.toList with
    | [d] =>
      if d.isDigit && (c == '<' || c == '>') then arrow (some (d.toNat - '0'.toNat)) c
      else return .word w
    | _ => return .word w
  | _, _ => return .word w

/-- A token from the text; `fuel` bounds the characters in front of it that mean nothing. -/
def token (inner : Inner) : (fuel : Nat) → Reading Token
  | 0 => return .endOfText
  | fuel + 1 => do
    match ← peekJoined with
    | none =>
      takeDocuments inner
      return .endOfText
    | some c =>
      match c with
      | ' ' | '\t' =>
        skip
        token inner fuel
      | '#' =>
        modify fun s => { s with rest := s.rest.dropWhile (· != '\n') }
        token inner fuel
      | '\n' =>
        skip
        takeDocuments inner
        return .newline
      | '&' => skip; return if ← takes '&' then .bothAmpersands else .ampersand
      | '|' => skip; return if ← takes '|' then .bothBars else .bar
      | ';' => skip; return if ← takes ';' then .endBranch else .semicolon
      | '(' => skip; return .openParen
      | ')' => skip; return .closeParen
      | '<' | '>' => arrow none c
      | _ => wordOrArrow inner

/-- The token held, or one from the text. -/
def held (inner : Inner) : Reading Token := do
  let s ← get
  match s.held with
  | some t =>
    set { s with held := none }
    return t
  | none => token inner (s.rest.length + 1)

/-- The next token that is not a line end; `fuel` bounds the line ends. -/
def pastNewlines (inner : Inner) : (fuel : Nat) → Reading Token
  | 0 => return .endOfText
  | fuel + 1 => do
    match ← held inner with
    | .newline => pastNewlines inner fuel
    | t => return t

/-- The next token as it stands. -/
def next (inner : Inner) : Reading Token :=
  held inner

/-- The next token where a command can begin. -/
def nextCommandToken (inner : Inner) : Reading Token :=
  return (← held inner).asReserved

/-- The next token where a command can begin, on this line or a later one. -/
def nextAfterNewlines (inner : Inner) : Reading Token := do
  return (← pastNewlines inner ((← get).rest.length + 2)).asReserved

/-- The fault of a token that has no place here. -/
def unexpected {α : Type} (t : Token) : Reading α :=
  fault s!"{t.describe} unexpected"

/-- The fault of a token in the place of another. -/
def unexpectedFor {α : Type} (t wanted : Token) : Reading α :=
  fault s!"{t.describe} unexpected (expecting {wanted.describe})"

/-- A reserved word that must stand next. -/
def expectReserved (t : Token) (name : String) : Reading Unit :=
  match t with
  | .reserved found =>
    if found == name then return else unexpectedFor t (.reserved name)
  | t => unexpectedFor t (.reserved name)

/-! ### Redirections -/

/-- The target of a redirection. -/
def redirection (inner : Inner) (descriptor : Nat) (what : Arrow) :
    Reading Redirection := do
  match ← next inner with
  | .word target =>
    match what with
    | .opens how => return .mk descriptor how target
    | .document strip =>
      let verbatim := target.any fun
        | .text quoted _ => quoted
        | _ => false
      let mark := String.join (target.map fun
        | .text _ chars => chars
        | .value _ name => "$" ++ name
        | _ => "")
      let s ← get
      set { s with
        awaited := s.awaited ++ [Awaited.mk s.next mark verbatim strip]
        next := s.next + 1 }
      return .mk descriptor (.document s.next) []
  | t => unexpected t

/-- The redirections behind a command; `fuel` bounds their number. -/
def redirections (inner : Inner) : (fuel : Nat) → (done : List Redirection) →
    Reading (List Redirection)
  | 0, done => return done.reverse
  | fuel + 1, done => do
    match ← nextCommandToken inner with
    | .arrow descriptor what =>
      redirections inner fuel ((← redirection inner descriptor what) :: done)
    | t =>
      hold t
      return done.reverse

/-! ### Lists -/

/-- Where a list of commands stands: it is a line of the program, a part of a command that must hold
    some command, or one that may be empty. -/
inductive Listing where
  | line
  | part
  | optionalPart
  deriving DecidableEq

/-- A command behind another, if there is one. -/
def follow (first : Option Command) (second : Command) : Command :=
  match first with
  | some first => .sequence first second
  | none => second

/-- The line that has been reached. -/
def lineNumber : Reading Nat := do
  return (← get).line

/-- The words up to one that is none of a loop's words, which is taken; `fuel` bounds their
    number. -/
def loopWords (inner : Inner) : (fuel : Nat) → (done : List Word) → Reading (List Word)
  | 0, done => return done.reverse
  | fuel + 1, done => do
    match ← next inner with
    | .word w => loopWords inner fuel (w :: done)
    | .newline | .semicolon => return done.reverse
    | t => unexpected t

/-- The name of a loop's variable. -/
def loopName (t : Token) : Reading String :=
  match t with
  | .word w =>
    match bareText? w with
    | some name => if isVariableName name then return name else fault "Bad for loop variable"
    | none => fault "Bad for loop variable"
  | _ => fault "Bad for loop variable"

/-- The patterns of a branch from the given one up to the parenthesis that ends them. -/
def patterns (inner : Inner) : (fuel : Nat) → (done : List Word) → Token →
    Reading (List Word)
  | 0, done, _ => return done.reverse
  | fuel + 1, done, t => do
    let pattern : Word := match t with
      | .word w => w
      | .reserved name => [.text false name]
      | _ => []
    match ← next inner with
    | .bar => patterns inner fuel (pattern :: done) (← next inner)
    | .closeParen => return (pattern :: done).reverse
    | t => unexpectedFor t .closeParen

/-- The names that a function cannot have. -/
def specialNames : List String :=
  [".", ":", "break", "continue", "eval", "exec", "exit", "export", "readonly", "return", "set",
    "shift", "times", "trap", "unset"]

mutual

/-- A list of commands, behind those already read.  For a line it is `none` when the text has ended.
    Every call takes a token or goes one level deeper, and `fuel` bounds both. -/
def list (fuel : Nat) (listing : Listing) (first : Option Command) : Reading (Option Command) :=
  match fuel with
  | 0 => fault "end of file unexpected"
  | fuel + 1 => do
    let inner := substituted fuel
    let t ← if listing == .line then nextCommandToken inner else nextAfterNewlines inner
    match t with
    | .newline => return some (first.getD .empty)
    | .endOfText =>
      if listing == .line && first.isNone then return none
      hold t
      return some (first.getD .empty)
    | t =>
      hold t
      if listing != .line && (listing == .optionalPart || first.isSome) && t.endsList then
        return some (first.getD .empty)
      let line ← lineNumber
      let c ← chain fuel none
      match ← next inner with
      | .ampersand => list fuel listing (some (follow first (.background line c)))
      | .semicolon => list fuel listing (some (follow first c))
      | .newline =>
        hold .newline
        list fuel listing (some (follow first c))
      | .endOfText =>
        hold .endOfText
        list fuel listing (some (follow first c))
      | t =>
        if listing == .line then unexpected t
        hold t
        return some (follow first c)

/-- A list of commands that is a part of another command. -/
def part (fuel : Nat) (listing : Listing) : Reading Command :=
  match fuel with
  | 0 => fault "end of file unexpected"
  | fuel + 1 => do return (← list fuel listing none).getD .empty

/-- The commands of a substitution, with the parenthesis that closes them or to the end of a
    text. -/
def substituted (fuel : Nat) (parenthesis : Bool) : Reading Command :=
  match fuel with
  | 0 => fault "end of file unexpected"
  | fuel + 1 => do
    let saved := (← get).held
    modify fun s => { s with held := none }
    let c ← part fuel .optionalPart
    if parenthesis then
      match ← next (substituted fuel) with
      | .closeParen => Pure.pure ()
      | t => unexpectedFor t .closeParen
    modify fun s => { s with held := saved }
    return c

/-- Commands chained by conditions on each other's status, behind the one already read. -/
def chain (fuel : Nat) (first : Option (Bool × Command)) : Reading Command :=
  match fuel with
  | 0 => fault "end of file unexpected"
  | fuel + 1 => do
    let inner := substituted fuel
    let second ← pipeline fuel
    let c := match first with
      | some (true, first) => .andThen first second
      | some (false, first) => .orElse first second
      | none => second
    match ← next inner with
    | .bothAmpersands =>
      hold (← nextAfterNewlines inner)
      chain fuel (some (true, c))
    | .bothBars =>
      hold (← nextAfterNewlines inner)
      chain fuel (some (false, c))
    | t =>
      hold t
      return c

/-- Commands that hand their output on to each other. -/
def pipeline (fuel : Nat) : Reading Command :=
  match fuel with
  | 0 => fault "end of file unexpected"
  | fuel + 1 => do
    let inner := substituted fuel
    match ← next inner with
    | .reserved "!" =>
      hold (← nextCommandToken inner)
      return .negation (← stages fuel [])
    | t =>
      hold t
      stages fuel []

/-- The stages of a pipeline, behind those already read, last first. -/
def stages (fuel : Nat) (done : List Command) : Reading Command :=
  match fuel with
  | 0 => fault "end of file unexpected"
  | fuel + 1 => do
    let inner := substituted fuel
    let c ← command fuel
    match ← next inner with
    | .bar =>
      hold (← nextAfterNewlines inner)
      stages fuel (c :: done)
    | t =>
      hold t
      return if done.isEmpty then c else .pipeline (c :: done).reverse

/-- One command. -/
def command (fuel : Nat) : Reading Command :=
  match fuel with
  | 0 => fault "end of file unexpected"
  | fuel + 1 => do
    let inner := substituted fuel
    let line ← lineNumber
    let t ← next inner
    match t with
    | .word _ | .arrow _ _ =>
      hold t
      simple fuel line [] [] []
    | .openParen =>
      let body ← part fuel .part
      match ← next inner with
      | .closeParen => return .subshell line body (← redirections inner (← get).rest.length.succ [])
      | t => unexpectedFor t .closeParen
    | .reserved name =>
      let c ← match name with
        | "if" => condition fuel
        | "while" => loop fuel false
        | "until" => loop fuel true
        | "for" => each fuel line
        | "case" => selection fuel line
        | "\x7b" =>
          let body ← part fuel .part
          expectReserved (← next inner) "\x7d"
          Pure.pure body
        | _ => unexpected t
      match ← redirections inner (← get).rest.length.succ [] with
      | [] => return c
      | rs => return .redirected line c rs
    | t => unexpected t

/-- A simple command behind the parts already read, which are last first. -/
def simple (fuel : Nat) (line : Nat) (assignments : List (String × Word)) (words : List Word)
    (rs : List Redirection) : Reading Command :=
  match fuel with
  | 0 => fault "end of file unexpected"
  | fuel + 1 => do
    let inner := substituted fuel
    match ← next inner with
    | .word w =>
      match words, assignment? w with
      | [], some a => simple fuel line (a :: assignments) [] rs
      | words, _ => simple fuel line assignments (w :: words) rs
    | .arrow descriptor what =>
      simple fuel line assignments words ((← redirection inner descriptor what) :: rs)
    | t =>
      match t, assignments, words, rs with
      | .openParen, [], [w], [] => definition fuel w
      | t, _, _, _ =>
        hold t
        return .simple line assignments.reverse words.reverse rs.reverse

/-- A definition of a function, behind its name and a parenthesis. -/
def definition (fuel : Nat) (name : Word) : Reading Command :=
  match fuel with
  | 0 => fault "end of file unexpected"
  | fuel + 1 => do
    let inner := substituted fuel
    match ← next inner with
    | .closeParen =>
      match bareText? name with
      | some name =>
        if isVariableName name && !specialNames.contains name then
          let line ← lineNumber
          hold (← nextAfterNewlines inner)
          return .definition line name (← command fuel)
        else fault "Bad function name"
      | none => fault "Bad function name"
    | t => unexpectedFor t .closeParen

/-- A condition behind its first word. -/
def condition (fuel : Nat) : Reading Command :=
  match fuel with
  | 0 => fault "end of file unexpected"
  | fuel + 1 => do
    let inner := substituted fuel
    let test ← part fuel .part
    expectReserved (← next inner) "then"
    let yes ← part fuel .part
    match ← next inner with
    | .reserved "elif" => return .condition test yes (← condition fuel)
    | .reserved "else" =>
      let no ← part fuel .part
      expectReserved (← next inner) "fi"
      return .condition test yes no
    | t =>
      expectReserved t "fi"
      return .condition test yes .empty

/-- A loop behind its first word. -/
def loop (fuel : Nat) (whileFailing : Bool) : Reading Command :=
  match fuel with
  | 0 => fault "end of file unexpected"
  | fuel + 1 => do
    let inner := substituted fuel
    let test ← part fuel .part
    expectReserved (← next inner) "do"
    let body ← part fuel .part
    expectReserved (← next inner) "done"
    return .loop whileFailing test body

/-- A loop over words behind its first word. -/
def each (fuel : Nat) (line : Nat) : Reading Command :=
  match fuel with
  | 0 => fault "end of file unexpected"
  | fuel + 1 => do
    let inner := substituted fuel
    let name ← loopName (← next inner)
    let items ← match ← nextAfterNewlines inner with
      | .reserved "in" => some <$> loopWords inner (← get).rest.length.succ []
      | .semicolon => Pure.pure none
      | t =>
        hold t
        Pure.pure none
    expectReserved (← nextAfterNewlines inner) "do"
    let body ← part fuel .part
    expectReserved (← next inner) "done"
    return .each line name items body

/-- A selection behind its first word. -/
def selection (fuel : Nat) (line : Nat) : Reading Command :=
  match fuel with
  | 0 => fault "end of file unexpected"
  | fuel + 1 => do
    let inner := substituted fuel
    match ← next inner with
    | .word subject =>
      expectReserved (← nextAfterNewlines inner) "in"
      return .selection line subject (← branches fuel [])
    | t => unexpectedFor t (.word [])

/-- The branches of a selection behind those already read, last first, and the word that ends it. -/
def branches (fuel : Nat) (done : List (List Word × Command)) :
    Reading (List (List Word × Command)) :=
  match fuel with
  | 0 => fault "end of file unexpected"
  | fuel + 1 => do
    let inner := substituted fuel
    match ← nextAfterNewlines inner with
    | .reserved "esac" => return done.reverse
    | t =>
      let t ← match t with
        | .openParen => next inner
        | t => Pure.pure t
      let ps ← patterns inner (← get).rest.length.succ [] t
      let body ← part fuel .optionalPart
      match ← nextAfterNewlines inner with
      | .reserved "esac" => return ((ps, body) :: done).reverse
      | .endBranch => branches fuel ((ps, body) :: done)
      | t => unexpectedFor t .endBranch

end

end Reading

/-- The next line of a program, if there is one, and the source behind it. -/
def nextCommand (s : Source) : Except Fault (Option Command × Source) :=
  (Reading.list (16 * s.rest.length + 64) .line none).run { s with held := none }

/-- Nothing but the end of the text has been read ahead. -/
def Source.atEnd (s : Source) : Bool :=
  match s.held with
  | some .endOfText => true
  | _ => false

end NavScript.Shell
