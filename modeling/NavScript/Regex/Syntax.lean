import NavScript.Regex.Basic

namespace NavScript.Regex

open NavScript.Text

/-!
# How regular expressions are written

There are two dialects: in the basic one a backslash gives signs their meaning, in the extended one
it takes it away.

* `Dialect` — the dialects
* `read` — the expression that a text writes, or what is wrong with the text
-/

/-- A dialect: whether it is the extended one, whether letters behind backslashes stand for control
    characters, and whether signs stand for themselves where they have no meaning. -/
structure Dialect where
  extended : Bool
  escapes : Bool
  lenient : Bool

/-- What is wrong with a text. -/
inductive SyntaxFault where
  | nothingInBracket
  | unmatchedBracket
  | unmatchedOpening
  | unmatchedClosing
  | unmatchedBrace
  | invalidCount
  | nothingToRepeat
  | noSuchGroup
  | invalidRange
  | unknownKind
  | bareKind
  | trailingBackslash
  deriving DecidableEq, Repr

/-- The fault in words. -/
def SyntaxFault.message : SyntaxFault → String
  | nothingInBracket => "Invalid regular expression"
  | unmatchedBracket => "Unmatched [, [^, [:, [., or [="
  | unmatchedOpening => "Unmatched ( or \\("
  | unmatchedClosing => "Unmatched ) or \\)"
  | unmatchedBrace => "Unmatched \\\x7b"
  | invalidCount => "Invalid content of \\\x7b\\\x7d"
  | nothingToRepeat => "Invalid preceding regular expression"
  | noSuchGroup => "Invalid back reference"
  | invalidRange => "Invalid range end"
  | unknownKind => "Invalid character class name"
  | bareKind => "character class syntax is [[:space:]], not [:space:]"
  | trailingBackslash => "Trailing backslash"

/-- A text being read: what is left of it, the number of groups begun, and those that have ended. -/
structure Progress where
  rest : List Char
  begun : Nat
  closed : List Nat

/-- Reading a part of a text. -/
abbrev Reading := StateT Progress (Except SyntaxFault)

/-- A sign, if it is one in the dialect: whether a backslash stands before it, and its character. -/
inductive Sign where
  | plain (c : Char)
  | escaped (c : Char)
  | nothing

/-- The sign at the front of characters, and what is behind it. -/
def signOf : List Char → Sign × List Char
  | '\\' :: c :: rest => (.escaped c, rest)
  | c :: rest => (.plain c, rest)
  | [] => (.nothing, [])

/-- What a sign means. -/
inductive Meaning where
  | opening
  | closing
  | bar
  | brace
  | atLeastOnce
  | atMostOnce
  | anyNumber
  | other
  deriving DecidableEq

/-- What a sign means in a dialect. -/
def Sign.meaning (extended : Bool) (sign : Sign) : Meaning :=
  let ofChar (c : Char) : Meaning :=
    match c with
    | '(' => .opening
    | ')' => .closing
    | '|' => .bar
    | '\x7b' => .brace
    | '+' => .atLeastOnce
    | '?' => .atMostOnce
    | _ => .other
  match sign with
  | .plain '*' => .anyNumber
  | .plain c => if extended then ofChar c else .other
  | .escaped c => if extended then .other else ofChar c
  | .nothing => .other

/-! ### Sets -/

/-- The kinds of characters that have names. -/
def kindNames : List String :=
  ["alpha", "digit", "alnum", "upper", "lower", "space", "blank", "punct", "print", "graph",
    "cntrl",     "xdigit"]

/-- The control character that a letter behind a backslash stands for. -/
def controlOf? (c : Char) : Option Char :=
  [('n', '\n'), ('t', '\t'), ('r', '\r'), ('f', Char.ofNat 12), ('v', Char.ofNat 11),
    ('a', Char.ofNat 7)].lookup c

/-- A digit's value. -/
def digitValue? (c : Char) : Option Nat :=
  if c.isDigit then some (c.toNat - '0'.toNat)
  else if 'a' ≤ c.toLower && c.toLower ≤ 'f' then some (c.toLower.toNat - 'a'.toNat + 10)
  else none

/-- The character that a letter behind a backslash and digits behind that stand for, and the number
    of characters taken. -/
def numbered? (cs : List Char) : Option (Char × Nat) :=
  let read (base digits : Nat) (rest : List Char) : Option (Char × Nat) :=
    let ds := ((rest.take digits).takeWhile fun c =>
      ((digitValue? c).filter (· < base)).isSome).filterMap digitValue?
    if ds.isEmpty then none
    else some (Char.ofNat (ds.foldl (fun n d => base * n + d) 0 % 256), ds.length + 1)
  match cs with
  | 'd' :: rest => read 10 3 rest
  | 'o' :: rest => read 8 3 rest
  | 'x' :: rest => read 16 2 rest
  | _ => none

/-- A member's character at the front of characters, and what is behind it. -/
def memberChar (escapes : Bool) (cs : List Char) : Option (Char × List Char) :=
  match cs with
  | '\\' :: c :: rest =>
    match if escapes then controlOf? c else none with
    | some d => some (d, rest)
    | none => some ('\\', c :: rest)
  | '[' :: '.' :: c :: '.' :: ']' :: rest => some (c, rest)
  | '[' :: '=' :: c :: '=' :: ']' :: rest => some (c, rest)
  | c :: rest => some (c, rest)
  | [] => none

/-- The members of a set up to the bracket that closes it, added in reverse to `done`, and the rest;
    `fuel` bounds the characters. -/
def members (escapes : Bool) : (fuel : Nat) → (first : Bool) → (done : List Member) → List Char →
    Except SyntaxFault (List Member × List Char)
  | 0, _, _, _ => .error .unmatchedBracket
  | fuel + 1, first, done, cs =>
    match cs with
    | [] => .error (if first then .nothingInBracket else .unmatchedBracket)
    | '[' :: ':' :: rest =>
      let name := String.ofList (rest.takeWhile Char.isAlpha)
      match rest.dropWhile Char.isAlpha with
      | ':' :: ']' :: rest =>
        if kindNames.contains name then members escapes fuel false (.kind name :: done) rest
        else .error .unknownKind
      | _ => .error .unmatchedBracket
    | c :: rest =>
      if c == ']' && !first then .ok (done.reverse, rest)
      else if c == '-' && !first && !(['-', ']'].isPrefixOf cs) then .error .invalidRange
      else
        match memberChar escapes cs with
        | none => .error .unmatchedBracket
        | some (low, '-' :: ']' :: rest) =>
          members escapes fuel false (.one low :: done) ('-' :: ']' :: rest)
        | some (low, '-' :: behind) =>
          match memberChar escapes behind with
          | none => .error .unmatchedBracket
          | some (high, rest) =>
            if high < low then .error .invalidRange
            else members escapes fuel false (.range low high :: done) rest
        | some (one, rest) => members escapes fuel false (.one one :: done) rest

/-- A set that begins and ends with colons, as the name of a kind does inside one. -/
def isBareKind (cs : List Char) : Bool :=
  match cs.takeWhile (· != ']') with
  | ':' :: c :: rest => (c :: rest).getLast? == some ':' && !rest.isEmpty
  | _ => false

/-- A set behind its opening bracket. -/
def readSet (d : Dialect) : Reading Regex := do
  let p ← get
  let (negated, cs) := match p.rest with
    | '^' :: rest => (true, rest)
    | rest => (false, rest)
  if d.lenient && isBareKind p.rest then throw .bareKind
  match members d.escapes (cs.length + 1) true [] cs with
  | .ok (members, rest) =>
    modify fun p => { p with rest }
    return .set negated members
  | .error fault => throw fault

/-! ### Counts -/

/-- A count between braces, of which the opening one has been taken. -/
def readCount (d : Dialect) : Reading (Nat × Option Nat) := do
  let p ← get
  let number (cs : List Char) : Option Nat := (String.ofList (cs.takeWhile Char.isDigit)).toNat?
  let least := number p.rest
  let behind := p.rest.dropWhile Char.isDigit
  let (most, isOpen, behind) := match behind with
    | ',' :: rest => (number rest, true, rest.dropWhile Char.isDigit)
    | rest => (least, false, rest)
  let closing := if d.extended then ['\x7d'] else ['\\', '\x7d']
  if !closing.isPrefixOf behind then
    throw (if behind.isEmpty then .unmatchedBrace else .invalidCount)
  modify fun p => { p with rest := behind.drop closing.length }
  match least, most, isOpen with
  | none, none, false => throw .invalidCount
  | least, some most, _ =>
    if most < least.getD 0 then throw .invalidCount
    return (least.getD 0, some most)
  | least, none, _ => return (least.getD 0, none)

/-- A count between braces begins here, behind the opening one. -/
def isCount (cs : List Char) : Bool :=
  let behind := cs.dropWhile Char.isDigit
  match behind with
  | ',' :: rest => (rest.dropWhile Char.isDigit).head? == some '\x7d'
  | rest => rest.length != cs.length && rest.head? == some '\x7d'

/-- A brace that is only a brace. -/
def isBareBrace (d : Dialect) (meaning : Meaning) (behind : List Char) : Bool :=
  d.lenient && d.extended && meaning == .brace && !isCount behind

/-! ### Expressions -/

/-- The expression that a letter behind a backslash stands for. -/
def letterMeaning? (c : Char) : Option Regex :=
  match c with
  | 'w' => some (.set false [.kind "alnum", .one '_'])
  | 'W' => some (.set true [.kind "alnum", .one '_'])
  | 's' => some (.set false [.kind "space"])
  | 'S' => some (.set true [.kind "space"])
  | 'b' => some (.edge .wordEdge)
  | 'B' => some (.edge .noWordEdge)
  | '<' => some (.edge .wordStart)
  | '>' => some (.edge .wordEnd)
  | '\'' => some (.edge .textEnd)
  | c => if c == Char.ofNat 0x60 then some (.edge .textStart) else none

/-- A dollar sign at the end of an expression or of a part of one. -/
def endsPart (d : Dialect) (behind : List Char) : Bool :=
  behind.isEmpty || d.extended
    || match (signOf behind).1.meaning d.extended with
      | .closing | .bar => true
      | _ => false

/-- The next sign taken. -/
def takeSign : Reading Sign := do
  let p ← get
  let (sign, rest) := signOf p.rest
  modify fun p => { p with rest }
  return sign

/-- The meaning of the next sign, which stays where it is. -/
def peekMeaning (d : Dialect) : Reading Meaning := do
  return (signOf (← get).rest).1.meaning d.extended

/-- What a count does to an expression. -/
def repetition (d : Dialect) (r : Regex) (m : Meaning) : Reading Regex := do
  match m with
  | .anyNumber => return .repeated r 0 none
  | .atLeastOnce => return .repeated r 1 none
  | .atMostOnce => return .repeated r 0 (some 1)
  | _ =>
    let (least, most) ← readCount d
    return .repeated r least most

/-- The counts behind an expression; `fuel` bounds their number. -/
def repetitions (d : Dialect) : (fuel : Nat) → Regex → Reading Regex
  | 0, r => return r
  | fuel + 1, r => do
    let m ← peekMeaning d
    match m with
    | .anyNumber | .atLeastOnce | .atMostOnce | .brace =>
      if isBareBrace d m ((← get).rest.drop 1) then return r
      let _ ← takeSign
      repetitions d fuel (← repetition d r m)
    | _ => return r

mutual

/-- Expressions with bars between them. -/
def alternatives (d : Dialect) (fuel : Nat) (depth : Nat) : Reading Regex :=
  match fuel with
  | 0 => return .empty
  | fuel + 1 => do
    let first ← sequence d fuel depth true .empty
    if (← peekMeaning d) == .bar then
      let _ ← takeSign
      return .either first (← alternatives d fuel depth)
    else return first

/-- Expressions one behind the other, behind the one already read; `atStart` says that none has been
    read that could be repeated. -/
def sequence (d : Dialect) (fuel : Nat) (depth : Nat) (atStart : Bool) (done : Regex) :
    Reading Regex :=
  match fuel with
  | 0 => return done
  | fuel + 1 => do
    let p ← get
    if p.rest.isEmpty then return done
    let meaning ← peekMeaning d
    if meaning == .bar || (meaning == .closing && depth != 0) then return done
    if meaning == .closing && !(d.lenient && d.extended) then throw .unmatchedClosing
    let sign ← takeSign
    match sign, atStart with
    | .plain '^', true =>
      let done : Regex := .both done (.edge .lineStart)
      if !d.extended && (← get).rest.head? == some '^' then
        let _ ← takeSign
        let r ← repetitions d p.rest.length (.char '^')
        sequence d fuel depth false (.both done r)
      else sequence d fuel depth (!d.extended) done
    | .plain '^', false =>
      if d.extended then sequence d fuel depth false (.both done (.edge .lineStart))
      else
        let r ← repetitions d p.rest.length (.char '^')
        sequence d fuel depth false (.both done r)
    | sign, _ =>
      let r ← atom d fuel depth meaning sign
      let r ← repetitions d p.rest.length r
      sequence d fuel depth false (.both done r)

/-- An expression that can be repeated, which begins with a sign that has been taken. -/
def atom (d : Dialect) (fuel : Nat) (depth : Nat) (meaning : Meaning) (sign : Sign) :
    Reading Regex :=
  match fuel with
  | 0 => return .empty
  | fuel + 1 => do
    match meaning, sign with
    | .opening, _ =>
      let number := (← get).begun + 1
      modify fun p => { p with begun := number }
      let r ← alternatives d fuel (depth + 1)
      if (← peekMeaning d) != .closing then throw .unmatchedOpening
      let _ ← takeSign
      modify fun p => { p with closed := number :: p.closed }
      return .group number r
    | .anyNumber, _ =>
      if !d.extended then return .char '*'
      else if d.lenient then return .empty
      else throw .nothingToRepeat
    | .atLeastOnce, .escaped c | .atMostOnce, .escaped c => return .char c
    | .atLeastOnce, _ | .atMostOnce, _ =>
      if d.lenient then return .empty else throw .nothingToRepeat
    | .brace, _ =>
      if isBareBrace d .brace (← get).rest || (d.lenient && !d.extended) then return .char '\x7b'
      else if d.lenient then repetition d .empty .brace
      else throw .nothingToRepeat
    | _, .plain '.' => return .any
    | _, .plain '[' => readSet d
    | _, .plain '$' =>
      if endsPart d (← get).rest then return .edge .lineEnd else return .char '$'
    | _, .plain '\\' => throw .trailingBackslash
    | _, .plain c => return .char c
    | _, .escaped c =>
      match letterMeaning? c, if d.escapes then controlOf? c else none with
      | some r, _ => return r
      | none, some control => return .char control
      | none, none =>
        let rest := (← get).rest
        if let some (control, taken) := if d.escapes then numbered? (c :: rest) else none then
          modify fun p => { p with rest := rest.drop (taken - 1) }
          return .char control
        if c.isDigit && c != '0' then
          let number := c.toNat - '0'.toNat
          if (← get).closed.contains number then return .again number else throw .noSuchGroup
        else return .char c
    | _, .nothing => return .empty

end

/-- The expression that a text writes. -/
def read (d : Dialect) (text : String) : Except SyntaxFault Regex := do
  let fuel := 4 * text.length + 8
  let (r, _) ← (alternatives d fuel 0).run ⟨text.toList, 0, []⟩
  return r

end NavScript.Regex
