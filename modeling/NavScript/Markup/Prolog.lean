import NavScript.Markup.Token

namespace NavScript.Markup

/-!
# The prolog

What stands before the root element: the declaration of the document, comments and processing
instructions, and the document type, whose internal subset declares entities.

* `Entities` — the declared replacement texts
* `misc?` — comments, processing instructions and separators
* `prolog?` — the entities of a document, and the rest of it from the root element on
-/

/-! ### Entities -/

/-- Replacement texts by name, in the order of their declarations. -/
abbrev Entities := List (List Char × List Char)

/-- The replacement text of an entity: the first one declared counts. -/
def Entities.find? (entities : Entities) (name : List Char) : Option (List Char) :=
  entities.lookup name

/-- An identifier of an external part: one literal after `SYSTEM`, two after `PUBLIC`. -/
def externalId? (cs : List Char) : Option (List Char) :=
  match after? "SYSTEM".toList cs, after? "PUBLIC".toList cs with
  | some cs, _ => do
    let (_, rest) ← quoted? (← spaces? cs)
    return rest
  | none, some cs => do
    let (_, cs) ← quoted? (← spaces? cs)
    let (_, rest) ← quoted? (← spaces? cs)
    return rest
  | none, none => none

/-- The optional data format of an external general entity. -/
def dataFormat? (cs : List Char) : Option (List Char) :=
  match after? "NDATA".toList cs with
  | some cs => do
    let (_, rest) ← name? (← spaces? cs)
    return rest
  | none => some cs

/-- What an entity stands for: a replacement text, or something outside the document. -/
def definition? (general : Bool) (cs : List Char) : Option (Option (List Char) × List Char) :=
  match quoted? cs with
  | some (text, rest) => some (some text, rest)
  | none => do
    let rest ← externalId? cs
    if general then return (none, ← dataFormat? (skipSpaces rest)) else return (none, rest)

/-- A declaration of an entity after `<!ENTITY`; one without a replacement text declares nothing. -/
def entity? (cs : List Char) : Option (Entities × List Char) := do
  let cs ← spaces? cs
  let (general, cs) ← match cs with
    | '%' :: cs => (spaces? cs).map (false, ·)
    | cs => some (true, cs)
  let (name, cs) ← name? cs
  let (text, cs) ← definition? general (← spaces? cs)
  let rest ← after? ['>'] (skipSpaces cs)
  return (text.toList.map (name, ·), rest)

/-- The rest after a declaration that is skipped. -/
def skipDeclaration? (cs : List Char) : Option (List Char) :=
  after? ['>'] (cs.dropWhile (· != '>'))

/-- One declaration of the internal subset, a comment or a processing instruction. -/
def declaration? (cs : List Char) : Option (Entities × List Char) :=
  match after? "<!ENTITY".toList cs, after? "<!--".toList cs with
  | some rest, _ => entity? rest
  | none, some rest => (comment? rest).map ([], ·)
  | none, none =>
    if "<?".toList.isPrefixOf cs then (instruction? cs).map ([], ·)
    else if ["<!ELEMENT", "<!ATTLIST", "<!NOTATION"].any (·.toList.isPrefixOf cs) then
      (skipDeclaration? cs).map ([], ·)
    else none

/-- The entities of the internal subset after `[`, added to those declared so far, and the rest
    after the document type.  Every declaration takes a character, and `fuel` counts those. -/
def subset? (fuel : Nat) (declared : Entities) (cs : List Char) : Option (Entities × List Char) :=
  match fuel with
  | 0 => none
  | fuel + 1 =>
    match skipSpaces cs with
    | ']' :: cs => (after? ['>'] (skipSpaces cs)).map (declared, ·)
    | cs =>
      match declaration? cs with
      | some (more, rest) => subset? fuel (declared ++ more) rest
      | none => none

/-- The document type after `<!DOCTYPE`. -/
def documentType? (cs : List Char) : Option (Entities × List Char) := do
  let (_, cs) ← name? (← spaces? cs)
  let cs := skipSpaces cs
  let cs ← if ["SYSTEM", "PUBLIC"].any (·.toList.isPrefixOf cs) then externalId? cs else some cs
  match skipSpaces cs with
  | '>' :: rest => return ([], rest)
  | '[' :: cs => subset? (cs.length + 1) [] cs
  | _ => none

/-! ### Around the root element -/

/-- The rest after separators, comments and processing instructions, each of which takes a character
    that `fuel` counts. -/
def miscFrom? (fuel : Nat) (cs : List Char) : Option (List Char) :=
  match fuel with
  | 0 => some cs
  | fuel + 1 =>
    let cs := skipSpaces cs
    match after? "<!--".toList cs with
    | some rest => (comment? rest).bind (miscFrom? fuel)
    | none =>
      if "<?".toList.isPrefixOf cs then (instruction? cs).bind (miscFrom? fuel) else some cs

/-- The rest after separators, comments and processing instructions. -/
def misc? (cs : List Char) : Option (List Char) :=
  miscFrom? (cs.length + 1) cs

/-- The separator before a part of the declaration, which the end of the declaration does
    without. -/
def partSpaces? (cs : List Char) : Option (List Char) :=
  match spaces? cs with
  | some rest => some rest
  | none => if cs.isEmpty || ['?', '>'].isPrefixOf cs then some cs else none

/-- A part of the declaration that begins with the given name, if it is there. -/
def part? (name : List Char) (cs : List Char) : Option (List Char) :=
  if name.isPrefixOf cs then (attribute? cs).map (·.2) else some cs

/-- The declaration of the document after `<?xml`: a version, and optionally an encoding and a
    standalone part. -/
def xmlDeclaration? (cs : List Char) : Option (List Char) := do
  let cs ← partSpaces? cs
  if !"version".toList.isPrefixOf cs then none
  let cs ← partSpaces? (← part? "version".toList cs)
  let cs ← if "encoding".toList.isPrefixOf cs then
    (part? "encoding".toList cs).bind partSpaces? else some cs
  let cs ← part? "standalone".toList cs
  after? ['?', '>'] (skipSpaces cs)

/-- The entities of a document, and the rest of it from its root element on.  A byte order mark at
    its very start is skipped. -/
def prolog? (cs : List Char) : Option (Entities × List Char) := do
  let cs := (after? [Char.ofNat 0xFEFF] cs).getD cs
  let cs ← if "<?xml ".toList.isPrefixOf cs then xmlDeclaration? (cs.drop 5) else some cs
  let cs ← misc? cs
  match after? "<!DOCTYPE".toList cs with
  | some rest => do
    let (entities, rest) ← documentType? rest
    return (entities, ← misc? rest)
  | none => return ([], cs)

end NavScript.Markup
