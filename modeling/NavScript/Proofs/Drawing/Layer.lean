import NavScript.Proofs.Session.Step

namespace NavScript

open NavScript.Geometry
open Markup (Node)

/-!
# What a layer holds

The paths and texts of a layer are read all or not at all.  If each can be read, the results go with
the elements in document order; else the first element that cannot be read tells why.  What an
element stands for, and what is wrong with one that stands for nothing, is said here of the nodes of
the document.

* `ReadsAll` — all elements of a list read, or the first that cannot be
* `IsPath`, `PathDefect` — the path of a path element, and why it has none
* `IsLabel`, `LabelDefect` — the label of a text element, and why it has none
* `Drawing.read_of_groupsLabelled` — the paths and labels of the only layer with its label
-/

/-! ### All or the first fault -/

/-- The result of reading all of a list: it is the results of the elements in order if each can be
    read, else what is wrong with the first that cannot. -/
structure ReadsAll {α β ε : Type} (Reads : α → β → Prop) (Fails : α → ε → Prop) (as : List α)
    (result : Except ε (List β)) : Prop where
  /-- There are results exactly if each element has one. -/
  readable : (∃ bs, result = .ok bs) ↔ ∀ a ∈ as, ∃ b, Reads a b
  ok : ∀ bs, result = .ok bs ↔ List.Forall₂ Reads as bs
  error : ∀ e, result = .error e ↔ ∃ before a after, as = before ++ a :: after ∧
    (∀ b ∈ before, ∃ r, Reads b r) ∧ Fails a e

/-- Each of a list is related to something exactly if the list is related to a list. -/
theorem exists_forall₂_iff {α β : Type} {R : α → β → Prop} {as : List α} :
    (∃ bs, List.Forall₂ R as bs) ↔ ∀ a ∈ as, ∃ b, R a b := by
  induction as with
  | nil => exact iff_of_true ⟨[], .nil⟩ (by simp)
  | cons a as ih =>
    rw [List.forall_mem_cons, ← ih]
    constructor
    · rintro ⟨bs, h⟩
      obtain ⟨b, rest, hb, hrest, rfl⟩ := List.forall₂_cons_left_iff.mp h
      exact ⟨⟨b, hb⟩, rest, hrest⟩
    · rintro ⟨⟨b, hb⟩, rest, hrest⟩
      exact ⟨b :: rest, .cons hb hrest⟩

/-- What reads and fails as told of single elements does so with a list. -/
theorem readsAll_mapM {α β ε : Type} {f : α → Except ε β} {Reads : α → β → Prop}
    {Fails : α → ε → Prop} (hok : ∀ a b, f a = .ok b ↔ Reads a b)
    (herror : ∀ a e, f a = .error e ↔ Fails a e) (as : List α) :
    ReadsAll Reads Fails as (as.mapM f) := by
  obtain rfl : Reads = fun a b => f a = .ok b := by
    funext a b
    exact propext (hok a b).symm
  obtain rfl : Fails = fun a e => f a = .error e := by
    funext a e
    exact propext (herror a e).symm
  exact ⟨(exists_congr fun _ => mapM_eq_ok_iff).trans exists_forall₂_iff, fun _ => mapM_eq_ok_iff,
    fun _ => mapM_eq_error_iff⟩

/-! ### Paths -/

/-- A path element has path data that stands for the path. -/
def IsPath (t : Transform) (node : Node) (path : Path) : Prop :=
  ∃ d, node.attribute? none "d" = some d ∧ PathData.path d t = .ok path

/-- What is wrong with a path element that has no path. -/
inductive PathDefect (t : Transform) (node : Node) : Defect → Prop
  | missing (h : node.attribute? none "d" = none) : PathDefect t node (.missingAttribute "d")
  | pathData {d : String} {fault : PathData.Fault} (h : node.attribute? none "d" = some d)
      (hfault : PathData.path d t = .error fault) : PathDefect t node (.pathData fault)

/-- What a path element of a layer is called: by its identifier, or by the layer if it has none. -/
def pathSubject (label : String) (node : Node) : Subject :=
  match node.attribute? none "id" with
  | some id => .path id
  | none => .unnamedPath (.layer label)

/-- The error of a path element in a layer. -/
def PathFails (label : String) (t : Transform) (node : Node) (e : Error) : Prop :=
  ∃ defect, PathDefect t node defect ∧ e = .malformed (pathSubject label node) defect

/-- The words for a path that has been read are those for its node. -/
theorem PathElement.subject_ofNode (label : String) (node : Node) :
    (PathElement.ofNode node).subject (.layer label) = pathSubject label node :=
  rfl

theorem Subject.name_unnamedPath_layer (label : String) :
    (Subject.unnamedPath (.layer label)).name = "unnamed path in layer '" ++ label ++ "'" := by
  change "unnamed path in " ++ ("layer '" ++ label ++ "'") = _
  rw [← String.append_assoc, ← String.append_assoc]
  rfl

/-- A path element is read if its path data stands for a path. -/
theorem PathElement.read_ofNode_eq_ok_iff {node : Node} {owner : Owner} {t : Transform}
    {path : Path} :
    (PathElement.ofNode node).read owner t = .ok path ↔ IsPath t node path := by
  simp only [PathElement.read, PathElement.ofNode, IsPath]
  cases node.attribute? none "d" with
  | none => simp
  | some d => cases hd : PathData.path d t <;> simp [Except.mapError, hd]

/-- Otherwise the error names what is wrong with it. -/
theorem PathElement.read_ofNode_eq_error_iff {node : Node} {label : String} {t : Transform}
    {e : Error} :
    (PathElement.ofNode node).read (.layer label) t = .error e ↔ PathFails label t node e := by
  constructor
  · intro h
    rw [PathElement.read, PathElement.subject_ofNode] at h
    split at h
    · rename_i hd
      exact ⟨_, .missing hd, (Except.error.inj h).symm⟩
    · rename_i d hd
      obtain ⟨fault, hfault, rfl⟩ := mapError_eq_error_iff.mp h
      exact ⟨_, .pathData hd hfault, rfl⟩
  · rintro ⟨_, ⟨hd⟩ | ⟨hd, hfault⟩, rfl⟩
    · simp only [PathElement.read, PathElement.ofNode, hd]
      rfl
    · simp only [PathElement.read, PathElement.ofNode, hd, hfault]
      rfl

/-! ### Labels -/

/-- An attribute of the node is a numeral with this value, perhaps with blanks around it. -/
def IsCoordinate (name : String) (node : Node) (x : Float) : Prop :=
  ∃ value, node.attribute? none name = some value ∧
    Decimal.readChars? (Text.trim value.toList) = some x

/-- What is wrong with a coordinate attribute. -/
inductive CoordinateDefect (name : String) (node : Node) : Defect → Prop
  | missing (h : node.attribute? none name = none) :
      CoordinateDefect name node (.missingAttribute name)
  | notANumber {value : String} (h : node.attribute? none name = some value)
      (hvalue : Decimal.readChars? (Text.trim value.toList) = none) :
      CoordinateDefect name node (.notANumber name value)

/-- A text element has two coordinates and a span, and the label stands at the point with the text
    that its first span begins with. -/
def IsLabel (t : Transform) (node : Node) (label : Label) : Prop :=
  ∃ x y span, IsCoordinate "x" node x ∧ IsCoordinate "y" node y ∧
    node.children.find? (isDrawn "tspan") = some span ∧
      label = ⟨t.apply ⟨x, y⟩, span.text?.getD ""⟩

/-- What is wrong with a text element that has no label.  The first coordinate comes before the
    second one, and both before the span. -/
inductive LabelDefect (node : Node) : Defect → Prop
  | x {defect : Defect} (h : CoordinateDefect "x" node defect) : LabelDefect node defect
  | y {x : Float} {defect : Defect} (hx : IsCoordinate "x" node x)
      (h : CoordinateDefect "y" node defect) : LabelDefect node defect
  | span {x y : Float} (hx : IsCoordinate "x" node x) (hy : IsCoordinate "y" node y)
      (h : ∀ child ∈ node.children, isDrawn "tspan" child = false) : LabelDefect node .missingSpan

/-- The error of a text element in a layer. -/
def LabelFails (label : String) (node : Node) (e : Error) : Prop :=
  ∃ defect, LabelDefect node defect ∧ e = .malformed (.text label) defect

/-- The number of an attribute is what its text writes. -/
theorem readAttribute_ok_iff {name : String} {node : Node} {x : Float} :
    readAttribute name (node.attribute? none name) = .ok x ↔ IsCoordinate name node x := by
  unfold readAttribute IsCoordinate
  cases node.attribute? none name with
  | none => simp
  | some value => cases hvalue : Decimal.readChars? (Text.trim value.toList) <;> simp [hvalue]

/-- There is none if the attribute is missing or writes none. -/
theorem readAttribute_error_iff {name : String} {node : Node} {defect : Defect} :
    readAttribute name (node.attribute? none name) = .error defect ↔
      CoordinateDefect name node defect := by
  constructor
  · intro h
    unfold readAttribute at h
    split at h
    · rename_i hattribute
      obtain rfl := Except.error.inj h
      exact .missing hattribute
    · rename_i value hattribute
      split at h
      · cases h
      · rename_i hvalue
        obtain rfl := Except.error.inj h
        exact .notANumber hattribute hvalue
  · rintro (hattribute | ⟨hattribute, hvalue⟩)
    · rw [hattribute]
      rfl
    · rw [hattribute]
      simp only [readAttribute, hvalue]

/-- A text element is read if it has all that a label needs. -/
theorem TextElement.read_ofNode_eq_ok_iff {node : Node} {t : Transform} {label : Label} :
    (TextElement.ofNode node).read t = .ok label ↔ IsLabel t node label := by
  constructor
  · intro h
    obtain ⟨x, hx, h⟩ := exists_of_bind_eq_ok h
    obtain ⟨y, hy, h⟩ := exists_of_bind_eq_ok h
    cases hspan : node.children.find? (isDrawn "tspan") with
    | none =>
      simp only [TextElement.ofNode, hspan] at h
      cases h
    | some span =>
      simp only [TextElement.ofNode, hspan] at h
      exact ⟨x, y, span, readAttribute_ok_iff.mp hx, readAttribute_ok_iff.mp hy, hspan,
        (Except.ok.inj h).symm⟩
  · rintro ⟨x, y, span, hx, hy, hspan, rfl⟩
    simp only [TextElement.read, TextElement.ofNode, readAttribute_ok_iff.mpr hx,
      readAttribute_ok_iff.mpr hy, hspan]
    rfl

/-- Otherwise the error is about the first thing that it lacks. -/
theorem TextElement.read_ofNode_eq_error_iff {node : Node} {t : Transform} {defect : Defect} :
    (TextElement.ofNode node).read t = .error defect ↔ LabelDefect node defect := by
  rw [TextElement.read, TextElement.ofNode]
  constructor
  · intro h
    -- the three parts are read one after the other, and the first that fails ends it
    cases hx : readAttribute "x" (node.attribute? none "x") with
    | error defect' =>
      rw [hx] at h
      obtain rfl : defect' = defect := Except.error.inj h
      exact .x (readAttribute_error_iff.mp hx)
    | ok x =>
      cases hy : readAttribute "y" (node.attribute? none "y") with
      | error defect' =>
        rw [hx, hy] at h
        obtain rfl : defect' = defect := Except.error.inj h
        exact .y (readAttribute_ok_iff.mp hx) (readAttribute_error_iff.mp hy)
      | ok y =>
        cases hspan : node.children.find? (isDrawn "tspan") with
        | some span =>
          rw [hx, hy, hspan] at h
          cases h
        | none =>
          rw [hx, hy, hspan] at h
          obtain rfl : Defect.missingSpan = defect := Except.error.inj h
          exact .span (readAttribute_ok_iff.mp hx) (readAttribute_ok_iff.mp hy)
            fun child hchild => by simpa using List.find?_eq_none.mp hspan child hchild
  · rintro (hx | ⟨hx, hy⟩ | ⟨hx, hy, hspan⟩)
    · simp only [readAttribute_error_iff.mpr hx]
      rfl
    · simp only [readAttribute_ok_iff.mpr hx, readAttribute_error_iff.mpr hy]
      rfl
    · have hfind : node.children.find? (isDrawn "tspan") = none :=
        List.find?_eq_none.mpr fun child hchild => by simp [hspan child hchild]
      simp only [readAttribute_ok_iff.mpr hx, readAttribute_ok_iff.mpr hy, hfind]
      rfl

/-- The label of a text element is read for a layer as it is read for itself. -/
theorem TextElement.mapError_read_ofNode_eq_ok_iff {what : Subject} {node : Node} {t : Transform}
    {label : Label} :
    ((TextElement.ofNode node).read t).mapError (Error.malformed what) = .ok label ↔
      IsLabel t node label :=
  ⟨fun h => read_ofNode_eq_ok_iff.mp (of_mapError_eq_ok h), fun h => by
    rw [read_ofNode_eq_ok_iff.mpr h]
    rfl⟩

/-- What is wrong with a text element is told under the name of the layer. -/
theorem TextElement.mapError_read_ofNode_eq_error_iff {label : String} {node : Node} {t : Transform}
    {e : Error} :
    ((TextElement.ofNode node).read t).mapError (Error.malformed (.text label)) = .error e ↔
      LabelFails label node e :=
  mapError_eq_error_iff.trans
    (exists_congr fun _ => and_congr_left fun _ => read_ofNode_eq_error_iff)

/-! ### Layers -/

/-- The groups directly inside the root element that carry the label. -/
def groupsLabelled (document : List Node) (label : String) : List Node :=
  ((Markup.root? document).map Node.children).getD [] |>.filter fun node =>
    isDrawn "g" node && node.attribute? (some labelSpace) "label" == some label

namespace Drawing

variable {document : List Node} {label : String}

/-- The layers with a label are those of the groups that carry it. -/
theorem layersNamed_ofDocument :
    (ofDocument document).layersNamed label = (groupsLabelled document label).map Layer.ofNode := by
  rw [layersNamed, ofDocument, groupsLabelled, List.filter_map, List.filter_filter]
  congr 1
  exact List.filter_congr fun node _ => Bool.and_comm _ _

/-- The only group with a label is the layer found by it. -/
theorem layer_of_groupsLabelled {group : Node} (h : groupsLabelled document label = [group]) :
    (ofDocument document).layer label = .ok (Layer.ofNode group) := by
  rw [layer, layersNamed_ofDocument, h]
  rfl

/-- **A layer is read all or not at all.**  Where one group directly inside the root element carries
    the label, its path elements are those directly inside this group in document order, and there
    are paths exactly if each has path data that stands for one; they go with the elements.  Else
    the error is that of the first element without a path, which it calls by its identifier, or by
    the layer if it has none.  The texts of the layer give their labels in the same way: each has
    two numerals for coordinates and a span, and the first text that fails is told by the first
    coordinate, then the second, then the span, under the name of the layer. -/
theorem read_of_groupsLabelled {group : Node} (h : groupsLabelled document label = [group])
    (t : Transform) :
    ReadsAll (IsPath t) (PathFails label t) (group.children.filter (isDrawn "path"))
      ((ofDocument document).layerPaths label t) ∧
    ReadsAll (IsLabel t) (LabelFails label) (group.children.filter (isDrawn "text"))
      ((ofDocument document).layerLabels label t) ∧
    (∀ node e, PathFails label t node e → ∃ defect, PathDefect t node defect ∧
      (∀ id, node.attribute? none "id" = some id →
        e.message = "malformed " ++ ("path '" ++ id ++ "'") ++ ": " ++ defect.message) ∧
      (node.attribute? none "id" = none →
        e.message =
          "malformed " ++ ("unnamed path in layer '" ++ label ++ "'") ++ ": " ++ defect.message)) ∧
    ∀ node e, LabelFails label node e → ∃ defect, LabelDefect node defect ∧
      e.message = "malformed " ++ ("text in layer '" ++ label ++ "'") ++ ": " ++
        defect.message := by
  refine ⟨?_, ?_, ?_, ?_⟩
  · rw [layerPaths, layer_of_groupsLabelled h]
    change ReadsAll _ _ _ (List.mapM _ (Layer.ofNode group).paths)
    rw [Layer.ofNode, List.mapM_map]
    exact readsAll_mapM (fun _ _ => PathElement.read_ofNode_eq_ok_iff)
      (fun _ _ => PathElement.read_ofNode_eq_error_iff) _
  · rw [layerLabels, layer_of_groupsLabelled h]
    change ReadsAll _ _ _ (List.mapM _ (Layer.ofNode group).texts)
    rw [Layer.ofNode, List.mapM_map]
    exact readsAll_mapM (fun _ _ => TextElement.mapError_read_ofNode_eq_ok_iff)
      (fun _ _ => TextElement.mapError_read_ofNode_eq_error_iff) _
  · rintro node _ ⟨defect, hdefect, rfl⟩
    refine ⟨defect, hdefect, fun id hid => ?_, fun hid => ?_⟩
    · simp only [pathSubject, hid]
      rfl
    · simp only [pathSubject, hid]
      rw [← Subject.name_unnamedPath_layer]
      rfl
  · rintro node _ ⟨defect, hdefect, rfl⟩
    exact ⟨defect, hdefect, rfl⟩

/-- A path that can be read. -/
def pointPath : Node := .element (some svgSpace) "path" [⟨none, "id", "p"⟩, ⟨none, "d", "M 0 0"⟩] []

/-- A path with neither identifier nor path data. -/
def barePath : Node := .element (some svgSpace) "path" [] []

/-- A text that can be read. -/
def spannedText : Node :=
  .element (some svgSpace) "text" [⟨none, "x", " 5"⟩, ⟨none, "y", "6"⟩]
    [.element (some svgSpace) "tspan" [] [.text "A"]]

/-- A text with neither coordinates nor span. -/
def bareText : Node := .element (some svgSpace) "text" [] []

/-- A layer of all these. -/
def mixedLayer : Node :=
  .element (some svgSpace) "g" [⟨some labelSpace, "label", "l"⟩]
    [pointPath, spannedText, bareText, barePath]

/-- A document with this layer. -/
def mixedDocument : List Node := [.element (some svgSpace) "svg" [] [mixedLayer]]

/-- The second path of the layer is the first that fails, and so is its second text, which is told
    by the first of all that it lacks. -/
theorem read_of_mixedLayer :
    groupsLabelled mixedDocument "l" = [mixedLayer] ∧
    (ofDocument mixedDocument).layerPaths "l" ⟨1.0⟩ =
      .error (.malformed (.unnamedPath (.layer "l")) (.missingAttribute "d")) ∧
    (ofDocument mixedDocument).layerLabels "l" ⟨1.0⟩ =
      .error (.malformed (.text "l") (.missingAttribute "x")) := by
  have hgroups : groupsLabelled mixedDocument "l" = [mixedLayer] := rfl
  obtain ⟨hpaths, hlabels, -, -⟩ := read_of_groupsLabelled hgroups ⟨1.0⟩
  have hpoint : ∃ path, IsPath ⟨1.0⟩ pointPath path := ⟨_, _, rfl, rfl⟩
  have hspanned : ∃ label, IsLabel ⟨1.0⟩ spannedText label :=
    ⟨_, _, _, _, ⟨_, rfl, rfl⟩, ⟨_, rfl, rfl⟩, rfl, rfl⟩
  refine ⟨hgroups, (hpaths.error _).mpr ⟨[pointPath], barePath, [], rfl, ?_, _, .missing rfl, rfl⟩,
    (hlabels.error _).mpr ⟨[spannedText], bareText, [], rfl, ?_, _, .x (.missing rfl), rfl⟩⟩
  · exact List.forall_mem_singleton.mpr hpoint
  · exact List.forall_mem_singleton.mpr hspanned

end Drawing

end NavScript
