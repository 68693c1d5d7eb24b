namespace NavScript.Markup

/-!
# Characters of markup

The classes of characters that the markup grammar is built on.

* `isChar` — the characters a document may contain
* `isSpace` — the separators inside tags and declarations
* `isNameStart`, `isName` — the first and the further characters of a name
-/

/-- The characters of documents: no control characters except tab, line feed and carriage return,
    and neither U+FFFE nor U+FFFF. -/
def isChar (c : Char) : Bool :=
  let n := c.toNat
  if n < 0x20 then n == 9 || n == 10 || n == 13 else n != 0xFFFE && n != 0xFFFF

/-- The separators inside markup. -/
def isSpace (c : Char) : Bool :=
  c == ' ' || c == '\t' || c == '\n' || c == '\r'

/-- The code points from `low` to `high`. -/
def within (low high : Nat) (c : Char) : Bool :=
  low ≤ c.toNat && c.toNat ≤ high

/-- The characters that begin a name. -/
def isNameStart (c : Char) : Bool :=
  c.isAlpha || c == ':' || c == '_' || within 0xC0 0xD6 c || within 0xD8 0xF6 c
    || within 0xF8 0x2FF c || within 0x370 0x37D c || within 0x37F 0x1FFF c
    || within 0x200C 0x200D c || within 0x2070 0x218F c || within 0x2C00 0x2FEF c
    || within 0x3001 0xD7FF c || within 0xF900 0xFDCF c || within 0xFDF0 0xFFFD c
    || within 0x10000 0xEFFFF c

/-- The characters that continue a name. -/
def isName (c : Char) : Bool :=
  isNameStart c || c.isDigit || c == '-' || c == '.' || c == Char.ofNat 0xB7
    || within 0x300 0x36F c || within 0x203F 0x2040 c

end NavScript.Markup
