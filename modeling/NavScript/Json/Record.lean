import NavScript.Json.Number
import NavScript.Text.Hexadecimal

namespace NavScript.Json

/-!
# JSON texts of flat records

A record is an object or an array whose values are strings, numbers and arrays of strings.

* `Value` — the values
* `Record` — named values, or values in order
* `record?` — a text read as a record
-/

/-- A value of a flat record. -/
inductive Value where
  | text (s : String)
  | number (n : Number)
  | texts (items : List String)

/-- A record, its values by name or by place. -/
inductive Record where
  | named (members : List (String × Value))
  | placed (items : List Value)

/-- The rest after white space. -/
def skipSpace (cs : List Char) : List Char :=
  cs.dropWhile fun c => c == ' ' || c == '\t' || c == '\n' || c == '\r'

/-! ### Strings -/

/-- The value of four hexadecimal digits at the front of a text. -/
def unit? (cs : List Char) : Option Nat :=
  if cs.length < 4 then none else Text.hexNumber? (cs.take 4)

/-- The character of a single-letter escape. -/
def shortEscape? (c : Char) : Option Char :=
  [('"', '"'), ('\\', '\\'), ('/', '/'), ('b', Char.ofNat 8), ('f', Char.ofNat 12), ('n', '\n'),
    ('r', '\r'), ('t', '\t')].lookup c

/-- The character of an escape after its backslash, and the number of characters it takes.  A
    character above U+FFFF is written as two units; a unit of such a pair may not stand alone. -/
def escape? (cs : List Char) : Option (Char × Nat) :=
  match cs with
  | 'u' :: rest => do
    -- a second half without its first half is refused, and so is a first half alone
    let first ← unit? (rest.take 4)
    if 0xDC00 ≤ first && first ≤ 0xDFFF then none
    else if 0xD800 ≤ first && first ≤ 0xDBFF then
      match rest.drop 4 with
      | '\\' :: 'u' :: rest =>
        let second ← unit? (rest.take 4)
        if 0xDC00 ≤ second && second ≤ 0xDFFF then
          return (Char.ofNat (0x10000 + (first - 0xD800) * 0x400 + (second - 0xDC00)), 11)
        else none
      | _ => none
    else return (Char.ofNat first, 5)
  | c :: _ => (shortEscape? c).map (·, 1)
  | [] => none

/-- The characters of a string after its opening quote, added in reverse to `done`, and the rest
    after the closing one.  `skip` characters have been taken by an escape.  Control characters must
    be escaped. -/
def stringRest? (done : List Char) : (skip : Nat) → List Char → Option (String × List Char)
  | _, [] => none
  | skip + 1, _ :: cs => stringRest? done skip cs
  | 0, '"' :: cs => some (String.ofList done.reverse, cs)
  | 0, '\\' :: cs =>
    match escape? cs with
    | some (c, taken) => stringRest? (c :: done) taken cs
    | none => none
  | 0, c :: cs => if c.toNat < 0x20 then none else stringRest? (c :: done) 0 cs

/-- A string. -/
def string? : List Char → Option (String × List Char)
  | '"' :: cs => stringRest? [] 0 cs
  | _ => none

/-! ### Sequences -/

/-- The items of a sequence after the first one, each behind a comma, up to the closing character.
    Every item takes a character, and `fuel` counts those. -/
def itemsAfter? {α : Type} (item? : List Char → Option (α × List Char)) (close : Char) :
    (fuel : Nat) → (done : List α) → List Char → Option (List α × List Char)
  | 0, _, _ => none
  | fuel + 1, done, cs =>
    match skipSpace cs with
    | ',' :: cs =>
      match item? (skipSpace cs) with
      | some (a, cs) => itemsAfter? item? close fuel (a :: done) cs
      | none => none
    | c :: cs => if c == close then some (done.reverse, cs) else none
    | [] => none

/-- The items of a sequence after its opening character, separated by commas. -/
def items? {α : Type} (item? : List Char → Option (α × List Char)) (close : Char)
    (cs : List Char) : Option (List α × List Char) :=
  match skipSpace cs with
  | [] => none
  | c :: rest =>
    if c == close then some ([], rest)
    else
      match item? (c :: rest) with
      | some (a, rest) => itemsAfter? item? close (rest.length + 1) [a] rest
      | none => none

/-! ### Records -/

/-- A value. -/
def value? (cs : List Char) : Option (Value × List Char) :=
  match cs with
  | '"' :: _ => (string? cs).map fun (s, rest) => (.text s, rest)
  | '[' :: rest => (items? string? ']' rest).map fun (items, rest) => (.texts items, rest)
  | cs => (number? cs).map fun (n, rest) => (.number n, rest)

/-- A named value. -/
def member? (cs : List Char) : Option ((String × Value) × List Char) := do
  let (name, cs) ← string? cs
  match skipSpace cs with
  | ':' :: cs =>
    let (value, rest) ← value? (skipSpace cs)
    return ((name, value), rest)
  | _ => none

/-- A text read as a record, with nothing but white space around it. -/
def record? (cs : List Char) : Option Record := do
  let (record, rest) ← match skipSpace cs with
    | '{' :: cs => (items? member? '\x7d' cs).map fun (members, rest) => (.named members, rest)
    | '[' :: cs => (items? value? ']' cs).map fun (items, rest) => (.placed items, rest)
    | _ => none
  if (skipSpace rest).isEmpty then return record else none

end NavScript.Json
