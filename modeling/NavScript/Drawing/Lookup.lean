import NavScript.Drawing.Basic
import NavScript.Error

namespace NavScript

open NavScript.Geometry

/-!
# Looking things up in a drawing

A command names a layer by its label or a path by its identifier, and the name must match exactly
once.  What is found is read into the arena: paths from their path data, labels from texts.

* `Drawing.ofText` — a text read as a drawing
* `Drawing.layer`, `Drawing.path` — the only match
* `Drawing.layerPaths`, `Drawing.layerLabels` — all that a layer holds directly, or the first
  fault among it
-/

/-- A text placed in the arena. -/
structure Label where
  position : Vertex
  text : String

/-! ### Reading elements -/

/-- What a path is called when it is malformed. -/
def PathElement.subject (p : PathElement) (owner : Owner) : Subject :=
  match p.id with
  | some id => .path id
  | none => .unnamedPath owner

/-- The path in the arena. -/
def PathElement.read (p : PathElement) (owner : Owner) (t : Transform) : Except Error Path :=
  match p.d with
  | none => .error (.malformed (p.subject owner) (.missingAttribute "d"))
  | some d => (PathData.path d t).mapError fun fault =>
      .malformed (p.subject owner) (.pathData fault)

/-- A coordinate attribute: a numeral, which may have blanks around it. -/
def readAttribute (name : String) : Option String → Except Defect Float
  | none => .error (.missingAttribute name)
  | some value =>
    match Decimal.readChars? (Text.trim value.toList) with
    | some x => .ok x
    | none => .error (.notANumber name value)

/-- The label of a text: its two coordinates, then the text of its span. -/
def TextElement.read (e : TextElement) (t : Transform) : Except Defect Label := do
  let x ← readAttribute "x" e.x
  let y ← readAttribute "y" e.y
  match e.span with
  | some text => return ⟨t.apply ⟨x, y⟩, text⟩
  | none => .error .missingSpan

/-! ### Queries -/

/-- The only element of a list of matches. -/
def onlyMatch {α : Type} (kind : Kind) (key : String) : List α → Except Error α
  | [found] => .ok found
  | found => .error (.lookup kind key found.length)

namespace Drawing

/-- The layers with a label. -/
def layersNamed (d : Drawing) (label : String) : List Layer :=
  d.layers.filter (·.label == some label)

/-- The paths with an identifier. -/
def pathsNamed (d : Drawing) (id : String) : List PathElement :=
  d.paths.filter (·.id == some id)

/-- The only layer with a label. -/
def layer (d : Drawing) (label : String) : Except Error Layer :=
  onlyMatch .layer label (d.layersNamed label)

/-- The only path with an identifier, in the arena. -/
def path (d : Drawing) (id : String) (t : Transform) : Except Error Path := do
  let p ← onlyMatch .path id (d.pathsNamed id)
  p.read .document t

/-- The paths directly inside a layer, in the arena. -/
def layerPaths (d : Drawing) (label : String) (t : Transform) : Except Error (List Path) := do
  let l ← d.layer label
  l.paths.mapM fun p => p.read (.layer label) t

/-- The labels of the texts directly inside a layer. -/
def layerLabels (d : Drawing) (label : String) (t : Transform) : Except Error (List Label) := do
  let l ← d.layer label
  l.texts.mapM fun e => (e.read t).mapError (.malformed (.text label))

/-! ### Reading documents -/

/-- A text read as a document. -/
def document (text : String) : Except Error (List Markup.Node) :=
  (Markup.parse text).mapError fun
    | .malformed => .markup
    | .strayEndTag => .strayEndTag

/-- A text read as a drawing. -/
def ofText (text : String) : Except Error Drawing :=
  (document text).map ofDocument

/-- The identifiers of the paths of a text. -/
def idsOfText (text : String) : Except Error (List String) :=
  (document text).map pathIds

end Drawing

end NavScript
