namespace NavScript.Text

/-!
# Sets of characters

A set is given by its members: single characters, ranges of them, and kinds that have names.

* `Member` — a member of a set
* `isOfKind` — the kinds
-/

/-- A control character. -/
def isControl (c : Char) : Bool :=
  c.toNat < 32 || c.toNat = 127

/-- A character that prints something, of which the space is not one. -/
def isGraphic (c : Char) : Bool :=
  33 ≤ c.toNat && c.toNat ≤ 126

/-- A character that separates words in a text. -/
def isSpaceChar (c : Char) : Bool :=
  c == ' ' || (9 ≤ c.toNat && c.toNat ≤ 13)

/-- The characters of a kind with a name. -/
def isOfKind (name : String) (c : Char) : Bool :=
  match name with
  | "alpha" => c.isAlpha
  | "digit" => c.isDigit
  | "alnum" => c.isAlphanum
  | "upper" => c.isUpper
  | "lower" => c.isLower
  | "space" => isSpaceChar c
  | "blank" => c == ' ' || c == '\t'
  | "punct" => isGraphic c && !c.isAlphanum
  | "print" => isGraphic c || c == ' '
  | "graph" => isGraphic c
  | "cntrl" => isControl c
  | "xdigit" => c.isDigit || ('a' ≤ c && c ≤ 'f') || ('A' ≤ c && c ≤ 'F')
  | _ => false

/-- A member of a set of characters. -/
inductive Member where
  | one (c : Char)
  | range (low high : Char)
  | kind (name : String)
  deriving DecidableEq

/-- A character that a member of a set stands for. -/
def Member.holds (c : Char) : Member → Bool
  | .one d => c == d
  | .range low high => low ≤ c && c ≤ high
  | .kind name => isOfKind name c

end NavScript.Text
