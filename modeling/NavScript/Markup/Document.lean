import NavScript.Markup.Event
import NavScript.Markup.Node

namespace NavScript.Markup

/-!
# From events to a tree

Tags are matched with each other and names are expanded by the namespaces in scope.  Neighbouring
character data is one node.

* `Scope` — the namespaces that qualifiers stand for
* `Building` — the elements still open, with what they hold so far
* `Fault` — why a text is no document
* `parse` — a text read as a document
-/

/-! ### Namespaces -/

/-- The namespace that the qualifier `xml` stands for. -/
def xmlSpace : String := "http://www.w3.org/XML/1998/namespace"

/-- The namespace of namespace declarations, which no qualifier may stand for. -/
def declarationSpace : String := "http://www.w3.org/2000/xmlns/"

/-- Namespaces by qualifier, the innermost declaration first; the default one has no qualifier. -/
abbrev Scope := List (Option String × String)

/-- The attributes and declarations of a tag being read. -/
structure Pending where
  attributes : List (QName × String)
  declared : Scope

/-- A namespace declared for a qualifier: `xml` may only keep its own, no other qualifier may take
    that one, and a tag declares a qualifier once. -/
def Pending.declare? (p : Pending) (qualifier space : String) : Option Pending :=
  if space == declarationSpace || (qualifier == "xml") != (space == xmlSpace) then none
  else if (p.declared.lookup (some qualifier)).isSome then none
  else if space == xmlSpace then some p
  else some { p with declared := p.declared ++ [(some qualifier, space)] }

/-- A default namespace declared; the first of a tag counts. -/
def Pending.declareDefault? (p : Pending) (space : String) : Option Pending :=
  if space == declarationSpace || space == xmlSpace then none
  else some { p with declared := p.declared ++ [(none, space)] }

/-- One more attribute of a tag, which may be a declaration. -/
def Pending.add? (p : Pending) (a : QName × String) : Option Pending :=
  if a.1.qualifier == "xmlns" then p.declare? a.1.name a.2
  else if a.1.name == "xmlns" then p.declareDefault? a.2
  else some { p with attributes := p.attributes ++ [a] }

/-- The namespace of an element's name: none without a qualifier or a default namespace. -/
def Scope.element? (scope : Scope) (name : QName) : Option (Option String) :=
  if name.qualifier == "" then some (scope.lookup none)
  else (scope.lookup (some name.qualifier)).map some

/-- An attribute with its name expanded: none without a qualifier. -/
def Scope.attribute? (scope : Scope) (a : QName × String) : Option Attribute :=
  if a.1.qualifier == "xml" then some ⟨some xmlSpace, a.1.name, a.2⟩
  else if a.1.qualifier == "" then some ⟨none, a.1.name, a.2⟩
  else (scope.lookup (some a.1.qualifier)).map fun space => ⟨some space, a.1.name, a.2⟩

/-- No two attributes share an expanded name. -/
def distinct : List Attribute → Bool
  | [] => true
  | a :: rest => rest.all (fun b => b.space != a.space || b.name != a.name) && distinct rest

/-- The attributes of a tag with their names expanded. -/
def Pending.resolve? (p : Pending) (scope : Scope) : Option (List Attribute) := do
  let attributes ← p.attributes.mapM scope.attribute?
  if distinct attributes then return attributes else none

/-! ### The tree -/

/-- An element still open: its name as written and expanded, its attributes, the namespaces inside
    it, and its children so far, last first. -/
structure Frame where
  written : QName
  space : Option String
  attributes : List Attribute
  scope : Scope
  children : List Node

/-- The element of a frame. -/
def Frame.node (f : Frame) : Node :=
  .element f.space f.written.name f.attributes f.children.reverse

/-- A node behind its siblings, which are given last first.  Character data joins the character data
    before it where it `joins` at all. -/
def attach (joins : Bool) (node : Node) (siblings : List Node) : List Node :=
  match joins, node, siblings with
  | true, .text more, .text content :: rest => .text (content ++ more) :: rest
  | _, node, siblings => node :: siblings

/-- A tree being built: the open elements, innermost first, the nodes outside of them, last first,
    the parts of a tag that no tag's end has taken yet, and whether character data joins the
    character data before it. -/
structure Building where
  frames : List Frame
  outside : List Node
  pending : Pending
  joins : Bool

/-- Why a text is no document. -/
inductive Fault where
  | malformed
  /-- An end tag outside of all elements: a replacement text has closed the root element. -/
  | strayEndTag
  deriving DecidableEq, Repr

namespace Building

/-- Nothing built yet. -/
def start : Building := ⟨[], [], ⟨[], []⟩, true⟩

/-- One more node where the innermost open element stands. -/
def add (b : Building) (node : Node) : Building :=
  match b.frames with
  | [] => { b with outside := attach b.joins node b.outside, joins := true }
  | f :: rest =>
    { b with
      frames := { f with children := attach b.joins node f.children } :: rest
      joins := true }

/-- The namespaces in scope for a tag: its own declarations, then those of the element around it. -/
def scope (b : Building) : Scope :=
  b.pending.declared ++ (b.frames.head?.map Frame.scope).getD []

/-- A start tag with its attributes. -/
def startTag? (b : Building) (name : QName) (attributes : List (QName × String))
    (ending : TagEnd) : Option Building := do
  if name.qualifier == "xmlns" then none
  let pending ← attributes.foldlM Pending.add? b.pending
  let b := { b with pending }
  -- a tag that the text cuts off leaves its attributes to the next one
  if ending == .cut then return { b with joins := false }
  let attributes ← pending.resolve? b.scope
  let space ← b.scope.element? name
  let frame : Frame := ⟨name, space, attributes, b.scope, []⟩
  let b := { b with pending := ⟨[], []⟩ }
  if ending == .empty then return b.add frame.node
  return { b with frames := frame :: b.frames }

/-- An end tag, which must name the innermost open element as its start tag does. -/
def endTag (b : Building) (name : QName) : Except Fault Building :=
  match b.pending.resolve? b.scope, b.frames with
  | none, _ => .error .malformed
  | some _, [] => .error .strayEndTag
  | some _, f :: rest =>
    if f.written == name then
      .ok (({ b with frames := rest, pending := ⟨[], []⟩ }).add f.node)
    else .error .malformed

/-- One more event. -/
def step (b : Building) : Event → Except Fault Building
  | .startTag name attributes ending =>
    match b.startTag? name attributes ending with
    | some b => .ok b
    | none => .error .malformed
  | .endTag name => b.endTag name
  | .text content => .ok (b.add (.text content))
  | .comment => .ok (b.add .comment)
  | .instruction => .ok (b.add .instruction)
  | .broken => .error .malformed

/-- The nodes outside of all elements, once every element has been closed.  One of them must be an
    element. -/
def finish (b : Building) : Except Fault (List Node) :=
  if b.frames.isEmpty && b.outside.any Node.isElement then .ok b.outside.reverse
  else .error .malformed

end Building

/-- A text read as a document: its outermost nodes, one of which is the root element. -/
def parse (text : String) : Except Fault (List Node) := do
  let built ← (events text.toList).foldlM Building.step .start
  built.finish

/-- The root element: the first element outside of all others. -/
def root? (document : List Node) : Option Node :=
  document.find? Node.isElement

end NavScript.Markup
