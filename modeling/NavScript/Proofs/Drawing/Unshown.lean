import Mathlib.Logic.Relation
import NavScript.Drawing.Lookup

namespace NavScript

open Markup (Node Attribute descendants)

/-!
# What a drawing does not show

Editors leave comments, processing instructions, blanks between elements and elements of their own
vocabularies anywhere in a document.  None of these shows in its drawing, so that they can be put in
and taken out without a change to it.  There is one exception: the text of a span is the character
data that the span begins with, and the inside of spans is left alone.

Character data that is put beside other character data becomes one node with it: the other is taken
out, and the two together are put in.

* `Unshown` — the nodes that do not show
* `Insertion` — one more of them, anywhere inside an element
* `Insertion.map_filter_children`, `Insertion.pathElements_eq` — what is read off the nodes inside
  an element, and off all nodes below it
* `Edit` — one of them put into a document, or taken out
* `Drawing.ofText_of_edits` — the drawing after any edits
-/

/-! ### Nodes that do not show -/

/-- A node that does not show in a drawing: character data, a comment, a processing instruction, or
    an element of another vocabulary without paths below it. -/
inductive Unshown : Node → Prop
  | text (content : String) : Unshown (.text content)
  | comment : Unshown .comment
  | instruction : Unshown .instruction
  | foreign {space : Option String} (hspace : space ≠ some svgSpace) (name : String)
      (attributes : List Attribute) {children : List Node}
      (hpaths : ∀ node ∈ descendants children, isDrawn "path" node = false) :
      Unshown (.element space name attributes children)

/-- A node that is not shown is no element of the drawing vocabulary. -/
theorem Unshown.isDrawn_eq_false {node : Node} (h : Unshown node) (name : String) :
    isDrawn name node = false := by
  cases h with
  | text content => rfl
  | comment => rfl
  | instruction => rfl
  | foreign hspace => simp [isDrawn, Node.hasName, hspace]

/-- One more unshown node anywhere inside an element, with no span around it. -/
inductive Insertion : Node → Node → Prop
  | child {space : Option String} {name : String} (hspan : space ≠ some svgSpace ∨ name ≠ "tspan")
      (attributes : List Attribute) (before after : List Node) {node : Node} (h : Unshown node) :
      Insertion (.element space name attributes (before ++ after))
        (.element space name attributes (before ++ node :: after))
  | inside {space : Option String} {name : String} (hspan : space ≠ some svgSpace ∨ name ≠ "tspan")
      (attributes : List Attribute) (before after : List Node) {node node' : Node}
      (h : Insertion node node') :
      Insertion (.element space name attributes (before ++ node :: after))
        (.element space name attributes (before ++ node' :: after))

namespace Insertion

variable {node node' : Node}

/-! ### The element itself -/

/-- An insertion leaves the names of the element as they are. -/
theorem hasName_eq (h : Insertion node node') (space name : String) :
    node'.hasName space name = node.hasName space name := by
  cases h <;> rfl

/-- There is an element before and after it. -/
theorem isElement (h : Insertion node node') : node.isElement = true ∧ node'.isElement = true := by
  cases h <;> exact ⟨rfl, rfl⟩

/-- It leaves the attributes as they are. -/
theorem attribute?_eq (h : Insertion node node') (space : Option String) (name : String) :
    node'.attribute? space name = node.attribute? space name := by
  cases h <;> rfl

/-- So the element is of the drawing vocabulary if it was. -/
theorem isDrawn_eq (h : Insertion node node') (name : String) :
    isDrawn name node' = isDrawn name node :=
  h.hasName_eq svgSpace name

/-- Nothing is put into a span. -/
theorem isDrawn_tspan (h : Insertion node node') : isDrawn "tspan" node = false := by
  have hname : ∀ {space : Option String} {name : String} {attributes : List Attribute}
      {children : List Node}, space ≠ some svgSpace ∨ name ≠ "tspan" →
      isDrawn "tspan" (.element space name attributes children) = false := by
    intro space name attributes children hspan
    rcases hspan with hspan | hspan <;> simp [isDrawn, Node.hasName, hspan]
  cases h with
  | child hspan => exact hname hspan
  | inside hspan => exact hname hspan

/-- A path is read off the element itself. -/
theorem ofNode_path_eq (h : Insertion node node') :
    PathElement.ofNode node' = PathElement.ofNode node := by
  rw [PathElement.ofNode, PathElement.ofNode, h.attribute?_eq, h.attribute?_eq]

/-! ### The nodes directly inside -/

/-- What is read off the drawing elements of one kind directly inside an element stays the same, if
    it does for such an element itself. -/
theorem map_filter_children {β : Type} {name : String} {read : Node → β}
    (hread : ∀ {child child' : Node}, Insertion child child' → isDrawn name child = true →
      read child' = read child) (h : Insertion node node') :
    (node'.children.filter (isDrawn name)).map read =
      (node.children.filter (isDrawn name)).map read := by
  cases h with
  | child hspan attributes before after h =>
    simp only [Node.children]
    rw [List.filter_append, List.filter_append,
      List.filter_cons_of_neg (by simp [h.isDrawn_eq_false name])]
  | @inside _ _ hspan attributes before after child child' h =>
    simp only [Node.children, List.filter_append, List.map_append]
    congr 1
    by_cases hchild : isDrawn name child = true
    · have hchild' : isDrawn name child' = true := by rw [h.isDrawn_eq, hchild]
      rw [List.filter_cons_of_pos hchild, List.filter_cons_of_pos hchild', List.map_cons,
        List.map_cons, hread h hchild]
    · have hchild' : ¬ isDrawn name child' = true := by rwa [h.isDrawn_eq]
      rw [List.filter_cons_of_neg hchild, List.filter_cons_of_neg hchild']

/-- The first span is the same, with the same text. -/
theorem map_find?_tspan (h : Insertion node node') :
    (node'.children.find? (isDrawn "tspan")).map (fun s => s.text?.getD "") =
      (node.children.find? (isDrawn "tspan")).map fun s => s.text?.getD "" := by
  rw [← List.head?_filter, ← List.head?_filter, ← List.head?_map, ← List.head?_map]
  congr 1
  refine h.map_filter_children fun hchild hspan => ?_
  rw [hchild.isDrawn_tspan] at hspan
  cases hspan

/-- A label is read off the element and its first span, which stays the first. -/
theorem ofNode_text_eq (h : Insertion node node') :
    TextElement.ofNode node' = TextElement.ofNode node := by
  simp only [TextElement.ofNode]
  rw [h.attribute?_eq, h.attribute?_eq, h.map_find?_tspan]

/-- A layer is read off the elements directly inside it. -/
theorem ofNode_layer_eq (h : Insertion node node') : Layer.ofNode node' = Layer.ofNode node := by
  rw [Layer.ofNode, Layer.ofNode, h.attribute?_eq,
    h.map_filter_children fun hchild _ => hchild.ofNode_path_eq,
    h.map_filter_children fun hchild _ => hchild.ofNode_text_eq]

end Insertion

/-! ### All nodes below -/

/-- The path elements among nodes and all nodes below them. -/
def pathElements (nodes : List Node) : List PathElement :=
  ((descendants nodes).filter (isDrawn "path")).map PathElement.ofNode

/-- The paths among nodes and below them, of two lists. -/
theorem pathElements_append (before after : List Node) :
    pathElements (before ++ after) = pathElements before ++ pathElements after := by
  rw [pathElements, Markup.descendants_append, List.filter_append, List.map_append]
  rfl

/-- The paths of the first node and of the others. -/
theorem pathElements_cons (node : Node) (rest : List Node) :
    pathElements (node :: rest) = pathElements [node] ++ pathElements rest :=
  pathElements_append [node] rest

/-- The path elements below an element come behind the element itself. -/
theorem pathElements_singleton (node : Node) :
    pathElements [node] = (if isDrawn "path" node then [PathElement.ofNode node] else []) ++
      pathElements node.children := by
  rw [pathElements, Markup.descendants_cons, Markup.descendants_nil, List.append_nil,
    List.filter_cons]
  split <;> rfl

/-- There is no path in what is not shown. -/
theorem Unshown.pathElements_eq_nil {node : Node} (h : Unshown node) :
    pathElements [node] = [] := by
  rw [pathElements_singleton, h.isDrawn_eq_false, pathElements, List.append_eq_nil_iff]
  refine ⟨rfl, ?_⟩
  rw [List.map_eq_nil_iff, List.filter_eq_nil_iff]
  cases h with
  | text content => simp [Node.children]
  | comment => simp [Node.children]
  | instruction => simp [Node.children]
  | foreign hspace name attributes hpaths => simpa [Node.children] using hpaths

/-- An element keeps its path elements if those below it stay the same. -/
theorem Insertion.pathElements_of_children {node node' : Node} (h : Insertion node node')
    (hchildren : pathElements node'.children = pathElements node.children) :
    pathElements [node'] = pathElements [node] := by
  rw [pathElements_singleton, pathElements_singleton, h.isDrawn_eq, h.ofNode_path_eq, hchildren]

/-- An insertion leaves the paths below a node as they are, by induction on how deep it goes. -/
theorem Insertion.pathElements_eq {node node' : Node} (h : Insertion node node') :
    pathElements [node'] = pathElements [node] := by
  -- on the way down to the inserted node: only the nodes on it change, and each keeps its paths
  induction h with
  | child hspan attributes before after h =>
    refine (Insertion.child hspan attributes before after h).pathElements_of_children ?_
    simp only [Node.children]
    rw [pathElements_append, pathElements_append, pathElements_cons, h.pathElements_eq_nil,
      List.nil_append]
  | @inside _ _ hspan attributes before after child child' h ih =>
    refine (Insertion.inside hspan attributes before after h).pathElements_of_children ?_
    simp only [Node.children]
    rw [pathElements_append, pathElements_append, pathElements_cons, pathElements_cons child, ih]

/-! ### Documents -/

/-- An unshown node put into a document or taken out of it, below one of its outermost nodes. -/
inductive Edit : List Node → List Node → Prop
  | insert (before after : List Node) {node node' : Node} (h : Insertion node node') :
      Edit (before ++ node :: after) (before ++ node' :: after)
  | delete (before after : List Node) {node node' : Node} (h : Insertion node node') :
      Edit (before ++ node' :: after) (before ++ node :: after)

namespace Drawing

/-- An unshown node does not show. -/
theorem ofDocument_of_insertion {node node' : Node} (h : Insertion node node')
    (before after : List Node) :
    ofDocument (before ++ node' :: after) = ofDocument (before ++ node :: after) := by
  have hpaths :
      pathElements (before ++ node' :: after) = pathElements (before ++ node :: after) := by
    rw [pathElements_append, pathElements_append, pathElements_cons, pathElements_cons node,
      h.pathElements_eq]
  have hlayers : (node'.children.filter (isDrawn "g")).map Layer.ofNode =
      (node.children.filter (isDrawn "g")).map Layer.ofNode :=
    h.map_filter_children fun hchild _ => hchild.ofNode_layer_eq
  have hroot : ∀ {element : Node}, element.isElement = true →
      Markup.root? (before ++ element :: after) =
        (Markup.root? before).or (some element) := by
    intro element helement
    rw [Markup.root?, List.find?_append, List.find?_cons_of_pos helement]
    rfl
  rw [ofDocument, ofDocument, hroot h.isElement.1, hroot h.isElement.2]
  refine congrArg₂ Drawing.mk ?_ hpaths
  cases Markup.root? before with
  | some root => rfl
  | none => exact hlayers

/-- One edit leaves the drawing as it is. -/
theorem ofDocument_of_edit {document document' : List Node} (h : Edit document document') :
    ofDocument document' = ofDocument document := by
  cases h with
  | insert before after h => exact ofDocument_of_insertion h before after
  | delete before after h => exact (ofDocument_of_insertion h before after).symm

/-- **Edits do not show.**  Comments, processing instructions, character data, and elements of other
    vocabularies without paths below them can be put in and taken out anywhere below the root
    element and outside of spans, as many as one likes: the layers and the paths of the document
    stay the same, and a text of the one document is read as the same drawing as a text of the
    other. -/
theorem ofText_of_edits {document document' : List Node}
    (h : Relation.ReflTransGen Edit document document') :
    (ofDocument document').layers = (ofDocument document).layers ∧
    (ofDocument document').paths = (ofDocument document).paths ∧
    ∀ text text', Markup.parse text = .ok document → Markup.parse text' = .ok document' →
      ∃ drawing, ofText text = .ok drawing ∧ ofText text' = .ok drawing := by
  have hdrawing : ofDocument document' = ofDocument document := by
    induction h with
    | refl => rfl
    | tail _ hedit ih => exact (ofDocument_of_edit hedit).trans ih
  have hread : ∀ {text : String} {nodes : List Node}, Markup.parse text = .ok nodes →
      ofText text = .ok (ofDocument nodes) := by
    intro text nodes hparse
    rw [ofText, Drawing.document, hparse]
    rfl
  refine ⟨congrArg layers hdrawing, congrArg paths hdrawing, fun text text' htext htext' => ?_⟩
  exact ⟨ofDocument document, hread htext, hdrawing ▸ hread htext'⟩

/-- Inside a span a comment shows: in front of the character data it leaves the span without
    text. -/
example :
    (TextElement.ofNode (.element (some svgSpace) "text" []
      [.element (some svgSpace) "tspan" [] [.comment, .text "A"]])).span = some "" := by
  decide

/-- A path directly inside a layer. -/
def plainPath : Node :=
  .element (some svgSpace) "path" [⟨none, "id", "p"⟩, ⟨none, "d", "M 0 0"⟩] []

/-- A text with its span, and with nodes in front of the span. -/
def spannedAfter (nodes : List Node) : Node :=
  .element (some svgSpace) "text" [⟨none, "x", "1"⟩, ⟨none, "y", "2"⟩]
    (nodes ++ [.element (some svgSpace) "tspan" [] [.text "A"]])

/-- A layer of the path and such a text. -/
def layerAround (nodes : List Node) : Node :=
  .element (some svgSpace) "g" [⟨some labelSpace, "label", "l"⟩] [plainPath, spannedAfter nodes]

/-- A document with some nodes in front of such a layer. -/
def documentAround (outer inner : List Node) : List Node :=
  [.element (some svgSpace) "svg" [] (outer ++ [layerAround inner])]

/-- The settings of an editor, which hold a group of the drawing vocabulary. -/
def editorSettings : Node :=
  .element (some labelSpace) "settings" [] [.element (some svgSpace) "g" [] []]

/-- A comment is taken out in front of a span; a line end and the settings of an editor are put in
    in front of a layer. -/
theorem ofText_of_edited_layer :
    Relation.ReflTransGen Edit (documentAround [] [.comment])
      (documentAround [editorSettings, .text "\n"] []) ∧
    (ofDocument (documentAround [editorSettings, .text "\n"] [])).layers =
      [⟨some "l", [⟨some "p", some "M 0 0"⟩], [⟨some "1", some "2", some "A"⟩]⟩] ∧
    (ofDocument (documentAround [editorSettings, .text "\n"] [])).paths =
      [⟨some "p", some "M 0 0"⟩] := by
  have hcomment : Edit (documentAround [] [.comment]) (documentAround [] []) :=
    .delete [] [] <| .inside (.inr (by decide)) _ [] [] <|
      .inside (.inr (by decide)) _ [plainPath] [] <| .child (.inr (by decide)) _ [] _ .comment
  have hlineEnd : Edit (documentAround [] []) (documentAround [.text "\n"] []) :=
    .insert [] [] <| .child (.inr (by decide)) _ [] _ (.text "\n")
  have hsettings : Edit (documentAround [.text "\n"] [])
      (documentAround [editorSettings, .text "\n"] []) :=
    .insert [] [] <| .child (.inr (by decide)) _ [] _ <| .foreign (by decide) _ _ <|
      List.forall_mem_singleton.mpr rfl
  have h := ((Relation.ReflTransGen.single hcomment).tail hlineEnd).tail hsettings
  obtain ⟨hlayers, hpaths, -⟩ := ofText_of_edits h
  exact ⟨h, hlayers.trans (by decide), hpaths.trans (by decide)⟩

end Drawing

end NavScript
