import NavScript.Tool.Arguments
import NavScript.Regex.Syntax

namespace NavScript.Tool

/-!
# Calculating with arguments

Each argument is a number, a text or a sign, and all of them together are one expression.

* `Calculation` — an expression read and calculated at once
* `expr` — the tool
-/

namespace Calculation

/-- The arguments from the current one on, and the one before it. -/
structure Progress where
  before : String
  rest : List String

end Calculation

/-- A part of an expression read and calculated, or the complaint about it. -/
abbrev Calculation := StateT Calculation.Progress (Except String)

namespace Calculation

/-- The number that a text writes. -/
def number? (text : String) : Option Int :=
  match text.toList with
  | '-' :: digits =>
    if digits.all Char.isDigit then (String.ofList digits).toNat?.map fun n => -n else none
  | digits => if digits.all Char.isDigit then text.toNat?.map fun n => n else none

/-- A value that stands for nothing: no text, or only zeros. -/
def isNothing (text : String) : Bool :=
  let digits := match text.toList with
    | '-' :: digits => digits
    | digits => digits
  text.isEmpty || (!digits.isEmpty && digits.all (· == '0'))

/-- The number that a value is. -/
def number (text : String) : Calculation Int := do
  match number? text with
  | some n => return n
  | none => throw "non-integer argument"

/-- One of the given signs taken, if it is next. -/
def sign? (signs : List String) : Calculation (Option String) := do
  let p ← get
  match p.rest with
  | word :: rest =>
    if signs.contains word then
      set (Progress.mk word rest)
      return some word
    else return none
  | [] => return none

/-- The next argument taken, which must be there. -/
def take : Calculation String := do
  let p ← get
  match p.rest with
  | word :: rest =>
    set (Progress.mk word rest)
    return word
  | [] => throw s!"syntax error: missing argument after {quote p.before}"

/-- A text matched from its beginning: the part that the first group matches, or the length. -/
def matched (text pattern : String) : Calculation String := do
  match Regex.read ⟨false, false, false⟩ pattern with
  | .error fault => throw fault.message
  | .ok r =>
    let s : Regex.Subject := ⟨text.toList.toArray, false, false⟩
    match r.findFrom s 1 0, r.groups with
    | none, 0 => return "0"
    | none, _ => return ""
    | some m, 0 => return toString m.last
    | some m, _ =>
      return ((m.captures.lookup 1).map fun (first, last) =>
        String.ofList (s.part first last)).getD ""

/-- A part of a text by its first place and its length, the places counted from one. -/
def part (text place length : String) : String :=
  match number? place, number? length with
  | some i, some n =>
    if i ≤ 0 || n ≤ 0 then ""
    else String.ofList ((text.toList.drop (i.toNat - 1)).take n.toNat)
  | _, _ => ""

/-- A truth as a value. -/
def truth (b : Bool) : String := if b then "1" else "0"

/-- Two values compared. -/
def compared (sign a b : String) : String :=
  let order := match number? a, number? b with
    | some m, some n => compare m n
    | _, _ => compare a b
  truth (match sign with
    | "<" => order == .lt
    | "<=" => order != .gt
    | "=" | "==" => order == .eq
    | "!=" => order != .eq
    | ">=" => order != .lt
    | _ => order == .gt)

/-- A sign between two numbers calculated. -/
def calculated (sign a b : String) : Calculation String := do
  let m ← number a
  let n ← number b
  match sign with
  | "+" => return toString (m + n)
  | "-" => return toString (m - n)
  | "*" => return toString (m * n)
  | _ =>
    if n = 0 then throw "division by zero"
    return toString (if sign == "/" then m.tdiv n else m.tmod n)

/-- The signs between values, the weakest first. -/
def levels : List (List String) :=
  [["|"], ["&"], ["<", "<=", "=", "==", "!=", ">=", ">"], ["+", "-"], ["*", "/", "%"], [":"]]

/-- What a sign makes of two values, the second of which counts for nothing unless `live`. -/
def combined (live : Bool) (sign a b : String) : Calculation String := do
  match sign with
  | "|" => return if !isNothing a then a else if isNothing b then "0" else b
  | "&" => return if isNothing a || isNothing b then "0" else a
  | ":" => if live then matched a b else return a
  | "+" | "-" | "*" | "/" | "%" => if live then calculated sign a b else return a
  | _ => return compared sign a b

/-- The value of a side is needed after a value and a sign. -/
def isNeeded (sign value : String) : Bool :=
  match sign with
  | "|" => isNothing value
  | "&" => !isNothing value
  | _ => true

mutual

/-- An expression with signs from the given level on; `fuel` bounds its depth. -/
def expression (fuel : Nat) (live : Bool) (level : Nat) : Calculation String :=
  match fuel with
  | 0 => return ""
  | fuel + 1 => do
    match levels[level]? with
    | none => operation fuel live
    | some signs => do
      let first ← expression fuel live (level + 1)
      onward fuel live level signs first

/-- What follows a value on its level. -/
def onward (fuel : Nat) (live : Bool) (level : Nat) (signs : List String) (value : String) :
    Calculation String :=
  match fuel with
  | 0 => return value
  | fuel + 1 => do
    match ← sign? signs with
    | none => return value
    | some sign =>
      let next ← expression fuel (live && isNeeded sign value) (level + 1)
      onward fuel live level signs (← combined live sign value next)

/-- An operation that is named in front of its operands, or a single value. -/
def operation (fuel : Nat) (live : Bool) : Calculation String :=
  match fuel with
  | 0 => return ""
  | fuel + 1 => do
    match ← sign? ["+", "length", "match", "index", "substr"] with
    | some "+" => take
    | some "length" => return toString (← operation fuel live).length
    | some "match" =>
      let text ← operation fuel live
      let pattern ← operation fuel live
      if live then matched text pattern else return text
    | some "index" =>
      let text ← operation fuel live
      let signs ← operation fuel live
      return toString (((text.toList.findIdx? signs.toList.contains).map (· + 1)).getD 0)
    | some _ =>
      let text ← operation fuel live
      let place ← operation fuel live
      return part text place (← operation fuel live)
    | none => single fuel live

/-- A single value, or an expression between parentheses. -/
def single (fuel : Nat) (live : Bool) : Calculation String :=
  match fuel with
  | 0 => return ""
  | fuel + 1 => do
    match ← take with
    | "(" =>
      let value ← expression fuel live 0
      let p ← get
      match p.rest with
      | ")" :: rest =>
        set (Progress.mk ")" rest)
        return value
      | [] => throw s!"syntax error: expecting ')' after {quote p.before}"
      | word :: _ => throw s!"syntax error: expecting ')' instead of {quote word}"
    | ")" => throw "syntax error: unexpected ')'"
    | word => return word

end

/-- The value of an expression. -/
def value (args : List String) : Except String String := do
  let (value, p) ← (expression (20 * args.length + 20) true 0).run ⟨"", args⟩
  match p.rest with
  | [] => return value
  | word :: _ => throw s!"syntax error: unexpected argument {quote word}"

end Calculation

/-- The value of the expression that arguments write; it is a failure if it stands for nothing. -/
def expr : Tool :=
  of fun args => do
    let args := if args.head? == some "--" then args.drop 1 else args
    if args.isEmpty then Work.fail 2 (usageComplaint "expr" "missing operand")
    else
      match Calculation.value args with
      | .ok value =>
        Work.say (value ++ "\n")
        Work.setStatus (if Calculation.isNothing value then 1 else 0)
      | .error complaint => Work.fail 2 s!"expr: {complaint}\n"

end NavScript.Tool
