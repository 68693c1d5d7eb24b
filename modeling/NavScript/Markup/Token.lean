import NavScript.Markup.Scan

namespace NavScript.Markup

/-!
# Tokens of markup

A text with markup is cut into tags, character data, comments and processing instructions.
References in character data and attribute values are left as they stand.

* `Token` — the pieces
* `content` — the tokens of element content, up to the end tag that leaves it
-/

/-- How a start tag ends: before content, as an empty element, or because the text ends. -/
inductive TagEnd where
  | opened
  | empty
  | cut
  deriving DecidableEq, Repr

/-- An attribute of a start tag with its value between the quotes. -/
structure RawAttribute where
  name : QName
  value : List Char

/-- A piece of markup, or the place where a text stops being one. -/
inductive Token where
  | startTag (name : QName) (attributes : List RawAttribute) (ending : TagEnd)
  | endTag (name : QName)
  | text (raw : List Char)
  | characterData (raw : List Char)
  | comment
  | instruction
  | broken

/-! ### Single tokens, each after its first characters -/

/-- A comment after `<!--`: it holds no two hyphens in a row and does not end in one. -/
def comment? (cs : List Char) : Option (List Char) := do
  let (body, rest) ← upTo? ['-', '-', '>'] [] cs
  if contains ['-', '-'] body || body.getLast? == some '-' then none else return rest

/-- A processing instruction, which must not begin like a declaration of the document. -/
def instruction? (cs : List Char) : Option (List Char) := do
  if "<?xml ".toList.isPrefixOf cs then none
  let cs ← after? ['<', '?'] cs
  let (_, cs) ← name? cs
  let (_, rest) ← upTo? ['?', '>'] [] (skipSpaces cs)
  return rest

/-- An attribute: a name, an equals sign, and a quoted value without `<`. -/
def attribute? (cs : List Char) : Option (RawAttribute × List Char) := do
  let (name, cs) ← QName.scan? cs
  let cs ← after? ['='] (skipSpaces cs)
  let (quote, cs) ← quote? (skipSpaces cs)
  let inside := fun c => c != quote && c != '<'
  let value := cs.takeWhile inside
  let rest ← after? [quote] (cs.dropWhile inside)
  if value.all isChar then return (⟨name, value⟩, rest) else none

/-- The attributes and the end of a start tag.  Every attribute has a separator before it.  The
    number of attributes is at most that of the characters, which `fuel` counts. -/
def tagRest? (fuel : Nat) (done : List RawAttribute) (cs : List Char) :
    Option (List RawAttribute × TagEnd × List Char) :=
  match fuel, cs with
  | _, [] => some (done.reverse, .cut, [])
  | 0, _ => none
  | fuel + 1, c :: _ =>
    match skipSpaces cs with
    | '/' :: '>' :: rest => some (done.reverse, .empty, rest)
    | '>' :: rest => some (done.reverse, .opened, rest)
    | next =>
      if isSpace c then
        match attribute? next with
        | some (a, rest) => tagRest? fuel (a :: done) rest
        | none => none
      else none

/-- A start tag after `<`, in a text of at most `fuel` characters. -/
def startTag? (fuel : Nat) (cs : List Char) : Option (Token × List Char) := do
  let (name, cs) ← QName.scan? cs
  let (attributes, ending, rest) ← tagRest? fuel [] cs
  return (.startTag name attributes ending, rest)

/-- An end tag after `</`. -/
def endTag? (cs : List Char) : Option (QName × List Char) := do
  let (name, cs) ← QName.scan? cs
  let rest ← after? ['>'] (skipSpaces cs)
  return (name, rest)

/-- Character data: characters of documents without the text that closes a section of it. -/
def isText (raw : List Char) : Bool :=
  raw.all isChar && !contains [']', ']', '>'] raw

/-! ### Content -/

/-- One token from the front of content of at least one and at most `fuel` characters. -/
def token? (fuel : Nat) (cs : List Char) : Option (Token × List Char) :=
  match cs with
  | '<' :: '!' :: '-' :: '-' :: rest => (comment? rest).map (.comment, ·)
  | '<' :: '!' :: rest => do
    let rest ← after? "[CDATA[".toList rest
    let (raw, rest) ← upTo? [']', ']', '>'] [] rest
    return (.characterData raw, rest)
  | '<' :: '?' :: _ => (instruction? cs).map (.instruction, ·)
  | '<' :: '/' :: rest => (endTag? rest).map fun (name, rest) => (.endTag name, rest)
  | '<' :: rest => startTag? fuel rest
  | _ =>
    let raw := cs.takeWhile (· != '<')
    if isText raw then some (.text raw, cs.dropWhile (· != '<')) else none

/-- The tokens of content, added in reverse to `done`, and the rest after them.  Content inside
    `depth` elements ends behind the end tag that leaves it, with the text, or where the text is
    broken.  Every token takes a character, and `fuel` is at least their number. -/
def contentFrom (fuel depth : Nat) (done : List Token) (cs : List Char) : List Token × List Char :=
  match fuel, cs with
  | _, [] => (done.reverse, [])
  | 0, _ => ((.broken :: done).reverse, [])
  | fuel + 1, cs =>
    match token? (fuel + 1) cs with
    | none => ((.broken :: done).reverse, [])
    | some (token, rest) =>
      match token, depth with
      -- whether the tag has the right name is not looked at here
      | .endTag _, 0 => ((token :: done).reverse, rest)
      | .endTag _, depth + 1 => contentFrom fuel depth (token :: done) rest
      | .startTag _ _ .opened, depth => contentFrom fuel (depth + 1) (token :: done) rest
      | _, depth => contentFrom fuel depth (token :: done) rest

/-- The tokens of content up to the end tag that leaves it or to the end of the text, and the rest
    after them. -/
def content (cs : List Char) : List Token × List Char :=
  contentFrom cs.length 0 [] cs

end NavScript.Markup
