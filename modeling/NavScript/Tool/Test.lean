import NavScript.Tool.Print

namespace NavScript.Tool

/-!
# Tests

A test compares texts, numbers and files, and its answer is an exit status.

* `Test.value` — the value of a test, or what is wrong with it
* `test` — the tool
-/

namespace Test

/-- What is wrong with a test. -/
inductive Fault where
  | missingOperator (at? : Option String) (words : String)
  | notANumber (text : String)

/-- The fault in words. -/
def Fault.message : Fault → String
  | missingOperator (some text) words => s!"{text}: {words}"
  | missingOperator none words => words
  | notANumber text => s!"Illegal number: {text}"

/-- The operators on one operand. -/
def isUnary (text : String) : Bool :=
  ["-b", "-c", "-d", "-e", "-f", "-g", "-h", "-k", "-n", "-p", "-r", "-s", "-t", "-u", "-w", "-x",
    "-z", "-L", "-S", "-O", "-G"].contains text

/-- The operators between two operands. -/
def isBinary (text : String) : Bool :=
  ["=", "!=", "<", ">", "-eq", "-ne", "-gt", "-ge", "-lt", "-le", "-nt", "-ot", "-ef"].contains text

/-- The words from the current one on, and the files that they may name. -/
structure Progress where
  words : List String
  entry : String → Except Obstacle Entry
  /-- A file that can be run. -/
  runs : String → Bool

/-- A part of a test evaluated. -/
abbrev Meaning := StateT Progress (Except Fault)

/-- What a word is in its place. -/
inductive Role where
  | nothing
  | unary
  | binary
  | opening
  | closing
  | denial
  | both
  | either
  | operand
  deriving DecidableEq

/-- What the first of some words is.  An operator on one operand is an operand itself when it has
    none behind it, or when an operator between operands follows. -/
def role : List String → Role
  | [] => .nothing
  | word :: rest =>
    if isUnary word then
      match rest with
      | [] => .operand
      | [_] => .unary
      | next :: _ => if isBinary next then .operand else .unary
    else if isBinary word then .binary
    else
      match word with
      | "(" => if rest.isEmpty then .operand else .opening
      | ")" => .closing
      | "!" => .denial
      | "-a" => .both
      | "-o" => .either
      | _ => .operand

/-- What the current word is. -/
def here : Meaning Role := do
  return role (← get).words

/-- What the word behind the current one is. -/
def behind : Meaning Role := do
  return role ((← get).words.drop 1)

/-- So many words passed. -/
def pass (count : Nat) : Meaning Unit :=
  modify fun p => { p with words := p.words.drop count }

/-- The current word, if there is one. -/
def word? : Meaning (Option String) := do
  return (← get).words.head?

/-- The numbers that can be compared. -/
def isHeld (n : Int) : Bool :=
  Printing.leastInteger ≤ n && n ≤ Printing.greatestInteger

/-- A number that a word writes, with blanks around it. -/
def number (text : String) : Meaning Int :=
  let cs := text.toList.dropWhile isNumberBlank
  let (negative, ds) := match cs with
    | '-' :: rest => (true, rest)
    | '+' :: rest => (false, rest)
    | cs => (false, cs)
  let digits := ds.takeWhile Char.isDigit
  let n : Int := if negative then -(Decimal.natOfDigits digits) else Decimal.natOfDigits digits
  if digits.isEmpty || !isHeld n || !((ds.dropWhile Char.isDigit).all isNumberBlank) then
    throw (.notANumber text)
  else return n

/-- A test of a file. -/
def file (operator name : String) : Meaning Bool := do
  let p ← get
  let found := if name.isEmpty then .error .notFound else p.entry name
  match operator, found with
  | _, .error _ => return false
  | "-d", .ok .directory | "-c", .ok .device => return true
  | "-f", .ok (.file _) | "-f", .ok .locked => return true
  | "-s", .ok (.file bytes) => return !bytes.isEmpty
  | "-s", .ok .directory => return true
  | "-x", .ok .directory => return true
  | "-x", .ok _ => return p.runs name
  | "-e", .ok _ | "-r", .ok _ | "-w", .ok _ | "-O", .ok _ | "-G", .ok _ => return true
  | _, _ => return false

/-- A test of one operand. -/
def unary (operator operand : String) : Meaning Bool :=
  match operator with
  | "-z" => return operand.isEmpty
  | "-n" => return !operand.isEmpty
  | "-t" => do
    let _ ← number operand
    return false
  | operator => file operator operand

/-- A test of two operands. -/
def binary (a operator b : String) : Meaning Bool := do
  match operator with
  | "=" => return a == b
  | "!=" => return a != b
  | "<" => return a < b
  | ">" => return b < a
  | "-nt" | "-ot" => return false
  | "-ef" =>
    let p ← get
    return a == b && (p.entry a).isOk
  | operator =>
    let x ← number a
    let y ← number b
    return match operator with
      | "-eq" => x == y
      | "-ne" => x != y
      | "-gt" => y < x
      | "-ge" => y ≤ x
      | "-lt" => x < y
      | _ => x ≤ y

mutual

/-- A test of which one part or another must hold, up to its last word.  Every call goes one level
    deeper or passes a word, and `fuel` bounds both. -/
def either (fuel : Nat) (as : Role) : Meaning Bool :=
  match fuel with
  | 0 => return false
  | fuel + 1 => do
    let a ← both fuel as
    if (← behind) != .either then return a
    pass 2
    let b ← either fuel (← here)
    return a || b

/-- A test of which all parts must hold. -/
def both (fuel : Nat) (as : Role) : Meaning Bool :=
  match fuel with
  | 0 => return false
  | fuel + 1 => do
    let a ← denied fuel as
    if (← behind) != .both then return a
    pass 2
    let b ← both fuel (← here)
    return a && b

/-- A test that may be denied. -/
def denied (fuel : Nat) (as : Role) : Meaning Bool :=
  match fuel with
  | 0 => return false
  | fuel + 1 => do
    if as != .denial then return ← single fuel as
    let next ← behind
    if next != .nothing then pass 1
    return !(← denied fuel next)

/-- A test without connectives. -/
def single (fuel : Nat) (as : Role) : Meaning Bool :=
  match fuel with
  | 0 => return false
  | fuel + 1 => do
    match as with
    | .nothing => return false
    | .opening =>
      pass 1
      let next ← here
      if next == .closing then return false
      let a ← either fuel next
      pass 1
      if (← here) != .closing then throw (.missingOperator none "closing paren expected")
      return a
    | .unary =>
      let operator := (← word?).getD ""
      pass 1
      match ← word? with
      | some operand => unary operator operand
      | none => throw (.missingOperator (some operator) "argument expected")
    | _ =>
      let a := (← word?).getD ""
      if (← behind) != .binary then return !a.isEmpty
      pass 1
      let operator := (← word?).getD ""
      pass 1
      match ← word? with
      | some b => binary a operator b
      | none => throw (.missingOperator (some operator) "argument expected")

end

/-- A test up to its last word, which begins with a word of the given role. -/
def whole (as : Role) : Meaning Bool := do
  let answer ← either (8 * (← get).words.length + 8) as
  match (← get).words with
  | word :: _ :: _ =>
    throw (.missingOperator (if word.isEmpty then none else some word) "unexpected operator")
  | _ => return answer

/-- A test by the number of its words: of three words the middle one is an operator if it can be,
    and otherwise of three or four words parentheses go around all, or a denial in front of all. -/
def choose (words : List String) : Meaning Bool := do
  let parts (words : List String) : Meaning Bool := do
    set { (← get) with words }
    whole (role words)
  let three (words : List String) (otherwise : Meaning Bool) : Meaning Bool := do
    match words with
    | [_, operator, _] =>
      if isBinary operator then
        set { (← get) with words }
        whole .operand
      else otherwise
    | _ => otherwise
  match words with
  | [] => return false
  | "!" :: rest =>
    if words.length == 3 || words.length == 4 then
      three words (do return !(← three rest (parts rest)))
    else parts words
  | "(" :: rest =>
    if (words.length == 3 || words.length == 4) && rest.getLast? == some ")" then
      three words (parts rest.dropLast)
    else three words (parts words)
  | words => three words (parts words)

/-- The value of a test, or what is wrong with it. -/
def value (entry : String → Except Obstacle Entry) (runs : String → Bool) (words : List String) :
    Except Fault Bool := do
  let (answer, _) ← (choose words).run ⟨words, entry, runs⟩
  return answer

end Test

end NavScript.Tool
