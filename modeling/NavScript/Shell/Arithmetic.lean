import NavScript.Text.Hexadecimal

namespace NavScript.Shell.Arithmetic

/-!
# Arithmetic

Expressions over whole numbers of 64 bits, with the operators and the order of precedence of C.  A
name stands for the number that its variable holds, and an assignment is a value too.

* `Lexeme` — numbers, names and operators
* `Meaning` — a value under assignments made so far
* `value` — an expression evaluated
-/

/-! ### Numbers -/

/-- The number that remains of a greater one in 64 bits. -/
def wrap (n : Int) : Int :=
  Int.bmod n 18446744073709551616

/-- The nearest number that 64 bits hold. -/
def clamp (n : Int) : Int :=
  max (-9223372036854775808) (min n 9223372036854775807)

/-- The value of a digit in a base, if it is one. -/
def digit? (base : Nat) (c : Char) : Option Nat :=
  (Text.hexDigit? c).filter (· < base)

/-- The number that the digits at the front write, and the rest. -/
def digits (base : Nat) (cs : List Char) : Nat × List Char :=
  let isDigit := fun c => (digit? base c).isSome
  ((cs.takeWhile isDigit).foldl (fun n c => base * n + (digit? base c).getD 0) 0,
    cs.dropWhile isDigit)

/-- The number at the front of a text without a sign: in base 16 after `0x`, in base 8 after `0`. -/
def natural (cs : List Char) : Nat × List Char :=
  match cs with
  | '0' :: 'x' :: c :: rest | '0' :: 'X' :: c :: rest =>
    if (digit? 16 c).isSome then digits 16 (c :: rest) else (0, cs.drop 1)
  | '0' :: rest => digits 8 ('0' :: rest)
  | cs => digits 10 cs

/-- A blank inside expressions. -/
def isBlank (c : Char) : Bool :=
  c == ' ' || c == '\t' || c == '\n'

/-- The number that a text holds, with blanks around it and a sign; no characters are zero. -/
def integer? (text : String) : Option Int :=
  let cs := text.toList.dropWhile isBlank
  let (negative, cs) := match cs with
    | '-' :: rest => (true, rest)
    | '+' :: rest => (false, rest)
    | cs => (false, cs)
  let (n, rest) := natural cs
  if !(rest.all isBlank) then none
  else if (cs.head?.map Char.isDigit).getD false then some (clamp (if negative then -n else n))
  else if text.toList.all isBlank then some 0
  else none

/-! ### Lexemes -/

/-- A part of an expression. -/
inductive Lexeme where
  | number (n : Int)
  | name (name : String)
  | operator (text : String)
  | stray
  deriving DecidableEq

/-- The operators, the longer ones first. -/
def operators : List String :=
  ["<<=", ">>=", "<<", ">>", "<=", ">=", "==", "!=", "&&", "||", "+=", "-=", "*=", "/=", "%=", "&=",
    "|=", "^=", "<", ">", "=", "!", "&", "|", "+", "-", "*", "/", "%", "^", "~", "?", ":", "(", ")"]

/-- The lexemes of an expression, added in reverse to `done`; `fuel` bounds the characters. -/
def lexemes : (fuel : Nat) → (done : List Lexeme) → List Char → List Lexeme
  | 0, done, _ => done.reverse
  | fuel + 1, done, cs =>
    match cs.dropWhile isBlank with
    | [] => done.reverse
    | c :: rest =>
      if c.isDigit then
        let (n, rest) := natural (c :: rest)
        lexemes fuel (.number (clamp n) :: done) rest
      else if c.isAlpha || c == '_' then
        let inside := fun c : Char => c.isAlphanum || c == '_'
        lexemes fuel (.name (String.ofList ((c :: rest).takeWhile inside)) :: done)
          (rest.dropWhile inside)
      else
        match operators.find? fun o => o.toList.isPrefixOf (c :: rest) with
        | some o => lexemes fuel (.operator o :: done) ((c :: rest).drop o.length)
        | none => (.stray :: done).reverse

/-! ### Meaning -/

/-- Why an expression has no value. -/
inductive Fault where
  | malformed (what : String)
  | notANumber (text : String)
  deriving DecidableEq

/-- The lexemes left and the assignments made, last first. -/
structure Progress where
  rest : List Lexeme
  assigned : List (String × Int)

/-- A part of an expression evaluated. -/
abbrev Meaning := StateT Progress (Except Fault)

/-- The next lexeme, which stays where it is. -/
def peek : Meaning (Option Lexeme) := do
  return (← get).rest.head?

/-- The next lexeme taken. -/
def skip : Meaning Unit :=
  modify fun p => { p with rest := p.rest.drop 1 }

/-- A fault in the expression. -/
def malformed {α : Type} (what : String) : Meaning α :=
  throw (.malformed what)

/-- The precedence of the operators between two values, the greater the closer. -/
def precedence? (operator : String) : Option Nat :=
  [("||", 1), ("&&", 2), ("|", 3), ("^", 4), ("&", 5), ("==", 6), ("!=", 6), ("<", 7), ("<=", 7),
    (">", 7), (">=", 7), ("<<", 8), (">>", 8), ("+", 9), ("-", 9), ("*", 10), ("/", 10),
    ("%", 10)].lookup operator

/-- The number of a truth value. -/
def ofBool (b : Bool) : Int := if b then 1 else 0

/-- The numbers of 64 bits in two's complement. -/
def bits (n : Int) : BitVec 64 := BitVec.ofInt 64 n

/-- An operator between two values. -/
def apply (operator : String) (a b : Int) : Meaning Int :=
  match operator with
  | "+" => return wrap (a + b)
  | "-" => return wrap (a - b)
  | "*" => return wrap (a * b)
  | "/" => if b = 0 then malformed "division by zero" else return wrap (Int.tdiv a b)
  | "%" => if b = 0 then malformed "division by zero" else return wrap (Int.tmod a b)
  | "<<" => return (bits a <<< (b.toNat % 64)).toInt
  | ">>" => return ((bits a).sshiftRight (b.toNat % 64)).toInt
  | "&" => return (bits a &&& bits b).toInt
  | "|" => return (bits a ||| bits b).toInt
  | "^" => return (bits a ^^^ bits b).toInt
  | "==" => return ofBool (a == b)
  | "!=" => return ofBool (a != b)
  | "<" => return ofBool (a < b)
  | "<=" => return ofBool (a ≤ b)
  | ">" => return ofBool (b < a)
  | ">=" => return ofBool (b ≤ a)
  | "&&" => return ofBool (a != 0 && b != 0)
  | "||" => return ofBool (a != 0 || b != 0)
  | _ => malformed "expecting EOF"

/-- The operator of an assignment, without its equals sign. -/
def assignment? (operator : String) : Option String :=
  if ["<<=", ">>=", "+=", "-=", "*=", "/=", "%=", "&=", "|=", "^=", "="].contains operator then
    some (String.ofList operator.toList.dropLast)
  else none

section

variable (lookup : String → Option String)

/-- The number that a variable holds. -/
def held (name : String) : Meaning Int := do
  match (← get).assigned.lookup name with
  | some n => return n
  | none =>
    let text := (lookup name).getD ""
    match integer? text with
    | some n => return n
    | none => throw (.notANumber text)

mutual

/-- A value that may be an assignment.  A value that is not `wanted` is read, but assigns nothing
    and fails at nothing.  Every call takes a lexeme or leaves a level of precedence, and `fuel`
    bounds both. -/
def assignment (fuel : Nat) (wanted : Bool) : Meaning Int :=
  match fuel with
  | 0 => malformed "expecting primary"
  | fuel + 1 => do
    match (← get).rest with
    | .name name :: .operator o :: rest =>
      match assignment? o with
      | none => choice fuel wanted
      | some o =>
        modify fun p => { p with rest }
        let b ← assignment fuel wanted
        if !wanted then return b
        let n ← if o.isEmpty then Pure.pure b else apply o (← held lookup name) b
        modify fun p => { p with assigned := (name, n) :: p.assigned }
        return n
    | _ => choice fuel wanted

/-- A value that may be a choice between two. -/
def choice (fuel : Nat) (wanted : Bool) : Meaning Int :=
  match fuel with
  | 0 => malformed "expecting primary"
  | fuel + 1 => do
    let test ← binary fuel wanted 1
    if (← peek) != some (.operator "?") then return test
    skip
    let yes ← assignment fuel (wanted && test != 0)
    if (← peek) != some (.operator ":") then malformed "expecting ':'"
    skip
    let no ← choice fuel (wanted && test == 0)
    return if test != 0 then yes else no

/-- A value whose operators are of the given precedence or closer. -/
def binary (fuel : Nat) (wanted : Bool) (level : Nat) : Meaning Int :=
  match fuel with
  | 0 => malformed "expecting primary"
  | fuel + 1 => do binaryRest fuel wanted level (← unary fuel wanted)

/-- The operators of the given precedence or closer behind a value. -/
def binaryRest (fuel : Nat) (wanted : Bool) (level : Nat) (a : Int) : Meaning Int :=
  match fuel with
  | 0 => malformed "expecting primary"
  | fuel + 1 => do
    match ← peek with
    | some (.operator o) =>
      match precedence? o with
      | none => return a
      | some found =>
        if found < level then return a
        skip
        let needed := if o == "&&" then a != 0 else if o == "||" then a == 0 else true
        let b ← binary fuel (wanted && needed) (found + 1)
        let n ← if wanted || (o != "/" && o != "%") then apply o a b else Pure.pure 0
        binaryRest fuel wanted level n
    | _ => return a

/-- A value with the signs in front of it. -/
def unary (fuel : Nat) (wanted : Bool) : Meaning Int :=
  match fuel with
  | 0 => malformed "expecting primary"
  | fuel + 1 => do
    let t ← peek
    skip
    match t with
    | some (.number n) => return n
    | some (.name name) => if wanted then held lookup name else return 0
    | some (.operator "(") =>
      let n ← assignment fuel wanted
      if (← peek) != some (.operator ")") then malformed "expecting ')'"
      skip
      return n
    | some (.operator "+") => unary fuel wanted
    | some (.operator "-") => return wrap (-(← unary fuel wanted))
    | some (.operator "!") => return ofBool ((← unary fuel wanted) == 0)
    | some (.operator "~") => return wrap (-(← unary fuel wanted) - 1)
    | _ => malformed "expecting primary"

end

/-- An expression evaluated, with the assignments it makes, first one first. -/
def value (expression : String) : Except Fault (Int × List (String × Int)) := do
  let all := lexemes (expression.length + 1) [] expression.toList
  let whole : Meaning Int := do
    let n ← assignment lookup (32 * all.length + 32) true
    if (← peek).isSome then malformed "expecting EOF"
    return n
  let (n, p) ← whole.run ⟨all, []⟩
  return (n, p.assigned.reverse)

end

end NavScript.Shell.Arithmetic
