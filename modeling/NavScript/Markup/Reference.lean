import NavScript.Markup.Prolog
import NavScript.Decimal.Numeral
import NavScript.Text.Hexadecimal

namespace NavScript.Markup

/-!
# References

Inside character data and attribute values an ampersand begins a reference: to a character by its
number, to one of the five characters of markup by name, or to a declared entity.

* `Chunk` — a character as it stands, a referenced character, or a reference to an entity
* `chunks` — a text cut into chunks
-/

/-- A part of a text with references; a malformed reference is broken. -/
inductive Chunk where
  | literal (c : Char)
  | referenced (c : Char)
  | entity (name : List Char)
  | broken
  deriving DecidableEq, Repr

/-- The character of a number below `2 ^ 32`.  A number that is no character stands for U+FFFD; the
    result must be a character of documents. -/
def characterOf? (n : Nat) : Option Char :=
  let c := if n.isValidChar then Char.ofNat n else Char.ofNat 0xFFFD
  if n < 0x100000000 && isChar c then some c else none

/-- A character reference between `&#` and `;`. -/
def numbered? : List Char → Option Char
  | ['x'] | [] => none
  | 'x' :: ds => (Text.hexNumber? ds).bind characterOf?
  | ds => if ds.all Char.isDigit then characterOf? (Decimal.natOfDigits ds) else none

/-- The characters of markup that have names of their own. -/
def predefined? (name : List Char) : Option Char :=
  [("quot", '"'), ("amp", '&'), ("apos", '\''), ("lt", '<'), ("gt", '>')].lookup
    (String.ofList name)

/-- A reference between `&` and `;`. -/
def reference? (body : List Char) : Option Chunk :=
  match body with
  | '#' :: number => (numbered? number).map .referenced
  | c :: rest =>
    if isNameStart c && rest.all isName then
      some (match predefined? body with
        | some c => .referenced c
        | none => .entity body)
    else none
  | [] => none

/-- The chunks of a text that began after an ampersand: the reference, and the characters behind
    it. -/
def afterAmpersand (cs : List Char) : List Chunk :=
  match after? [';'] (cs.dropWhile (· != ';')), reference? (cs.takeWhile (· != ';')) with
  | some rest, some chunk => chunk :: rest.map .literal
  | _, _ => [.broken]

/-- The chunks of a text. -/
def chunks (cs : List Char) : List Chunk :=
  match cs.splitOn '&' with
  | [] => []
  | first :: rest => first.map .literal ++ rest.flatMap afterAmpersand

end NavScript.Markup
