import NavScript.Markup.Document

namespace NavScript

/-!
# Drawings

A drawing is what scripts refer to in an SVG document: its layers, which are the groups directly
inside the root element, and its paths, which may stand anywhere.

* `Drawing` — layers and paths, their attributes as they stand
* `Drawing.ofDocument` — the drawing of a document
* `pathIds` — the identifiers of all paths of a document
-/

/-- A path element. -/
structure PathElement where
  id : Option String
  d : Option String
  deriving DecidableEq, Repr

/-- A text element with the text of its first span. -/
structure TextElement where
  x : Option String
  y : Option String
  span : Option String
  deriving DecidableEq, Repr

/-- A group directly inside the root element, with the paths and texts directly inside it. -/
structure Layer where
  label : Option String
  paths : List PathElement
  texts : List TextElement
  deriving DecidableEq, Repr

/-- The layers and paths of a document, in document order. -/
structure Drawing where
  layers : List Layer
  paths : List PathElement
  deriving DecidableEq, Repr

/-! ### Elements of the drawing vocabulary -/

/-- The namespace of drawing elements. -/
def svgSpace : String := "http://www.w3.org/2000/svg"

/-- The namespace of the attribute that labels a layer. -/
def labelSpace : String := "http://www.inkscape.org/namespaces/inkscape"

open Markup (Node)

/-- A drawing element with the given local name. -/
def isDrawn (name : String) (node : Node) : Bool :=
  node.hasName svgSpace name

/-- The path of a path element. -/
def PathElement.ofNode (node : Node) : PathElement :=
  ⟨node.attribute? none "id", node.attribute? none "d"⟩

/-- The text of a text element.  A span that does not begin with character data has the empty
    text. -/
def TextElement.ofNode (node : Node) : TextElement :=
  let span := node.children.find? (isDrawn "tspan")
  ⟨node.attribute? none "x", node.attribute? none "y", span.map fun s => s.text?.getD ""⟩

/-- The layer of a group. -/
def Layer.ofNode (node : Node) : Layer :=
  ⟨node.attribute? (some labelSpace) "label",
    (node.children.filter (isDrawn "path")).map PathElement.ofNode,
    (node.children.filter (isDrawn "text")).map TextElement.ofNode⟩

/-! ### Documents -/

/-- The drawing of a document, which is given by its outermost nodes. -/
def Drawing.ofDocument (document : List Node) : Drawing :=
  let root := Markup.root? document
  ⟨((root.map Node.children).getD [] |>.filter (isDrawn "g")).map Layer.ofNode,
    ((Markup.descendants document).filter (isDrawn "path")).map PathElement.ofNode⟩

/-- The identifiers of the paths of a document that have one, in document order. -/
def pathIds (document : List Node) : List String :=
  ((Markup.descendants document).filter (isDrawn "path")).filterMap (Node.attribute? none "id")

end NavScript
