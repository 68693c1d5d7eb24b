import NavScript.Markup.Character

namespace NavScript.Markup

/-!
# Scanning

The smallest steps of reading markup.  Each takes characters from the front of a text and gives what
it read together with the rest, or nothing when the text does not begin that way.

* `after?` — a fixed text
* `upTo?` — everything before a closing text
* `name?`, `QName.scan?` — a name, and a name with a qualifier
* `quoted?` — a text in quotes
-/

/-- The rest after a fixed text. -/
def after? (start cs : List Char) : Option (List Char) :=
  if start.isPrefixOf cs then some (cs.drop start.length) else none

/-- The rest after any number of separators. -/
def skipSpaces (cs : List Char) : List Char :=
  cs.dropWhile isSpace

/-- The rest after at least one separator. -/
def spaces? : List Char → Option (List Char)
  | c :: cs => if isSpace c then some (skipSpaces cs) else none
  | [] => none

/-- The characters before a closing text, added in reverse to `done`, and the rest after it.  All of
    them must be characters of documents. -/
def upTo? (close : List Char) (done : List Char) : List Char → Option (List Char × List Char)
  | [] => none
  | c :: cs =>
    if close.isPrefixOf (c :: cs) then some (done.reverse, (c :: cs).drop close.length)
    else if isChar c then upTo? close (c :: done) cs
    else none

/-- A name. -/
def name? (cs : List Char) : Option (List Char × List Char) :=
  match cs with
  | c :: _ => if isNameStart c then some (cs.takeWhile isName, cs.dropWhile isName) else none
  | [] => none

/-- A quotation mark and the rest after it. -/
def quote? : List Char → Option (Char × List Char)
  | c :: cs => if c == '"' || c == '\'' then some (c, cs) else none
  | [] => none

/-- A text in quotes of either kind, and the rest after the closing one. -/
def quoted? (cs : List Char) : Option (List Char × List Char) := do
  let (quote, cs) ← quote? cs
  let rest ← after? [quote] (cs.dropWhile (· != quote))
  return (cs.takeWhile (· != quote), rest)

/-- A text contains another. -/
def contains (part : List Char) : List Char → Bool
  | [] => part.isEmpty
  | c :: cs => part.isPrefixOf (c :: cs) || contains part cs

/-! ### Names with qualifiers -/

/-- A name of an element or attribute with its qualifier, which is empty when there is none. -/
structure QName where
  qualifier : String
  name : String
  deriving DecidableEq, Repr

/-- The first character, if any, begins a name. -/
def startsName (cs : List Char) : Bool :=
  cs.head?.all isNameStart

/-- A name with an optional qualifier before a colon. -/
def QName.scan? (cs : List Char) : Option (QName × List Char) :=
  let run := cs.takeWhile isName
  let rest := cs.dropWhile isName
  let (qualifier, name) := match run.splitOn ':' with
    | [qualifier, name] => (qualifier, name)
    | [name] => ([], name)
    | _ => ([], [])
  if !name.isEmpty && startsName qualifier && startsName name then
    some (⟨String.ofList qualifier, String.ofList name⟩, rest)
  else none

end NavScript.Markup
