import NavScript.Markup.Reference

namespace NavScript.Markup

/-!
# Events of a document

The tokens of a document with all references replaced.  The replacement text of an entity is content
of its own where it is referenced from content, and it may hold markup; in an attribute value it is
text.  Entities may refer to each other up to a depth of ten, and a reference from content or a
value may lead to at most 255 further ones.

A document is read from its beginning, and what stands before a fault counts as read.

* `Event` — tags, character data, and nodes that carry nothing
* `replaceInValue` — an attribute value with its references replaced
* `events` — the events of a document
-/

/-- A piece of a document without references, or the place where a document is broken. -/
inductive Event where
  | startTag (name : QName) (attributes : List (QName × String)) (ending : TagEnd)
  | endTag (name : QName)
  | text (content : String)
  | comment
  | instruction
  | broken

/-! ### Limits on references -/

/-- The deepest nesting of replacement texts. -/
def depthLimit : Nat := 10

/-- The most references inside the replacement texts that one reference leads to. -/
def referenceLimit : Nat := 255

/-- The count of references after one more.  Outside of replacement texts they are not counted. -/
def countReference? (outside : Bool) (count : Nat) : Option Nat :=
  if outside then some count else if referenceLimit ≤ count then none else some (count + 1)

/-- The count of references after a replacement text: it starts anew outside of all of them. -/
def countAfter (outside : Bool) (count : Nat) : Nat :=
  if outside then 0 else count

/-! ### Attribute values -/

/-- A value being built, last character first, with the count of references. -/
structure Value where
  chars : List Char
  references : Nat

/-- A separator other than the space counts as a space in an attribute value. -/
def spaceFor (c : Char) : Char :=
  if isSpace c then ' ' else c

/-- The chunks of an attribute value.  A line end of two characters is one space, and a referenced
    character outside of replacement texts is kept as it is.  Inside of them a reference to `<` is
    refused. -/
def addToValue (replace : List Char → Value → Option Value) (entities : Entities)
    (outside : Bool) : List Chunk → Value → Option Value
  | [], v => some v
  | .literal c :: rest, v =>
    if c == '\r' && rest.head? == some (.literal '\n') then
      addToValue replace entities outside rest v
    else addToValue replace entities outside rest { v with chars := spaceFor c :: v.chars }
  | .referenced c :: rest, v =>
    if outside then addToValue replace entities outside rest { v with chars := c :: v.chars }
    else if c == '<' then none
    else addToValue replace entities outside rest { v with chars := spaceFor c :: v.chars }
  | .entity name :: rest, v => do
    let text ← entities.find? name
    let references ← countReference? outside v.references
    let v ← replace text { v with references }
    addToValue replace entities outside rest
      { v with references := countAfter outside v.references }
  | .broken :: _, _ => none

/-- A text added to an attribute value, with its references replaced, inside at most `levels` nested
    texts. -/
def replaceInValue (entities : Entities) : (levels : Nat) → (outside : Bool) → List Char → Value →
    Option Value
  | 0, _, _, _ => none
  | levels + 1, outside, raw, v =>
    addToValue (replaceInValue entities levels false) entities outside (chunks raw) v

/-! ### Character data -/

/-- One more character of character data, added to those before it, last first.  A carriage return
    becomes a line feed, and a line feed after it is dropped; which of the two it is shows only with
    the next character or at the end. -/
def addLiteral (chars : List Char) (c : Char) (last : Bool) : List Char :=
  let ended := last && c == '\r'
  match chars with
  | '\r' :: before =>
    if ended then '\n' :: '\n' :: before
    else if c == '\n' then '\n' :: before
    else c :: '\n' :: before
  | chars => if ended then '\n' :: chars else c :: chars

/-- The events found, last first, with the count of references. -/
structure Found where
  events : List Event
  references : Nat

/-- The characters collected so far, last first, as an event unless there are none. -/
def Found.flush (f : Found) (chars : List Char) : Found :=
  if chars.isEmpty then f
  else { f with events := .text (String.ofList chars.reverse) :: f.events }

/-- What has been found, or the events before the place where the text is broken. -/
abbrev Reading := Except (List Event) Found

/-- A part that must be there for reading to go on. -/
def Found.orBroken {α : Type} (f : Found) (part : Option α) : Except (List Event) α :=
  match part with
  | some a => .ok a
  | none => .error (.broken :: f.events)

/-- The chunks of character data.  `kept` says that the character before was referenced outside of
    replacement texts: such a character and the one behind it are kept as they are. -/
def addText (replace : List Char → Found → Reading) (entities : Entities) (outside : Bool) :
    (chars : List Char) → (kept : Bool) → List Chunk → Found → Reading
  | chars, _, [], f => .ok (f.flush chars)
  | chars, kept, .literal c :: rest, f =>
    let chars := if kept then c :: chars else addLiteral chars c rest.isEmpty
    addText replace entities outside chars false rest f
  | chars, kept, .referenced c :: rest, f =>
    if outside then addText replace entities outside (c :: chars) true rest f
    else addText replace entities outside (addLiteral chars c rest.isEmpty) kept rest f
  | chars, _, .entity name :: rest, f => do
    let text ← f.orBroken (entities.find? name)
    let f := f.flush chars
    let references ← f.orBroken (countReference? outside f.references)
    let f ← replace text { f with references }
    addText replace entities outside [] false rest
      { f with references := countAfter outside f.references }
  | _, _, .broken :: _, f => f.orBroken none

/-- A section of character data, in which nothing is a reference. -/
def plainText (chars : List Char) : List Char → List Char
  | [] => chars
  | c :: rest => plainText (addLiteral chars c rest.isEmpty) rest

/-! ### Content -/

/-- The attributes of a start tag with their references replaced, last first. -/
def attributeValues (entities : Entities) (levels : Nat) (outside : Bool)
    (done : List (QName × String)) (references : Nat) :
    List RawAttribute → Option (List (QName × String) × Nat)
  | [] => some (done.reverse, references)
  | a :: rest => do
    let v ← replaceInValue entities levels outside a.value ⟨[], references⟩
    attributeValues entities levels outside
      ((a.name, String.ofList v.chars.reverse) :: done) v.references rest

/-- The tokens of one text.  An end tag is refused before the first start tag of the text. -/
def addTokens (replace : List Char → Found → Reading) (entities : Entities) (levels : Nat)
    (outside : Bool) : (started : Bool) → List Token → Found → Reading
  | _, [], f => .ok f
  | _, .startTag name attributes ending :: rest, f => do
    let (attributes, references) ←
      f.orBroken (attributeValues entities levels outside [] f.references attributes)
    addTokens replace entities levels outside true rest
      ⟨.startTag name attributes ending :: f.events, references⟩
  | started, .endTag name :: rest, f =>
    if started then
      addTokens replace entities levels outside started rest
        { f with events := .endTag name :: f.events }
    else f.orBroken none
  | started, .text raw :: rest, f => do
    let f ← addText replace entities outside [] false (chunks raw) f
    addTokens replace entities levels outside started rest f
  | started, .characterData raw :: rest, f =>
    addTokens replace entities levels outside started rest (f.flush (plainText [] raw))
  | started, .comment :: rest, f =>
    addTokens replace entities levels outside started rest
      { f with events := .comment :: f.events }
  | started, .instruction :: rest, f =>
    addTokens replace entities levels outside started rest
      { f with events := .instruction :: f.events }
  | _, .broken :: _, f => f.orBroken none

/-- The events of a replacement text, inside at most `levels` nested texts. -/
def replaceInContent (entities : Entities) : (levels : Nat) → List Char → Found → Reading
  | 0, _, f => f.orBroken none
  | levels + 1, raw, f =>
    addTokens (replaceInContent entities levels) entities (levels + 1) false false (content raw).1 f

/-! ### Documents -/

/-- The tokens of a document from its root element on: with nothing but comments, processing
    instructions and separators behind the element. -/
def rootTokens (cs : List Char) : List Token :=
  match (after? ['<'] cs).bind (startTag? (cs.length + 1)) with
  | none => [.broken]
  | some (root, rest) =>
    let (tokens, rest) := match root with
      | .startTag _ _ .opened => content rest
      | _ => ([], rest)
    let ending := if (misc? rest).any List.isEmpty then [] else [.broken]
    root :: tokens ++ ending

/-- The events of a document. -/
def events (document : List Char) : List Event :=
  match prolog? document with
  | none => [.broken]
  | some (entities, cs) =>
    match addTokens (replaceInContent entities depthLimit) entities (depthLimit + 1) true false
      (rootTokens cs) ⟨[], 0⟩ with
    | .ok f => f.events.reverse
    | .error found => found.reverse

end NavScript.Markup
