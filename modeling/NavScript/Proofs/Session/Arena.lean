import NavScript.Proofs.Session.OnDrawing

namespace NavScript

open NavScript.Geometry
open NavScript.Text (IsWord)
open Markup (Node descendants)

/-!
# Arenas and fences

The layers of a drawing are the groups directly inside the root, and the paths of a layer stand
directly inside the group, while the paths of the drawing stand anywhere.  The first are a selection
of the second, and so a layer can be written as an arena exactly if each of its paths can be written
as a fence, and with the same polygons.

* `Drawing.paths_sublist_of_mem_layers` — the paths of a layer are paths of the drawing, in order
* `exists_forall₂_read_iff`, `forall₂_fences` — several paths and the fence of each
* `Setting.arena_of_fences` — the arena of a layer and the fences of its paths
-/

/-! ### Direct children among all descendants -/

/-- The nodes of a list come among all that is below it, in order. -/
theorem sublist_descendants (nodes : List Node) : nodes.Sublist (descendants nodes) := by
  induction nodes with
  | nil => exact List.Sublist.slnil
  | cons node rest ih =>
    rw [Markup.descendants_cons, List.cons_append]
    exact (ih.trans (List.sublist_append_right _ _)).cons_cons node

/-- What is below one node of a list comes among all that is below the list, in order. -/
theorem descendants_children_sublist {node : Node} {nodes : List Node} (h : node ∈ nodes) :
    (descendants node.children).Sublist (descendants nodes) := by
  induction nodes with
  | nil => cases h
  | cons first rest ih =>
    rw [Markup.descendants_cons, List.cons_append]
    rcases List.mem_cons.mp h with rfl | h
    · exact (List.sublist_append_left _ _).cons _
    · exact ((ih h).trans (List.sublist_append_right _ _)).cons _

/-- The paths of a layer are paths of the drawing, in the same order. -/
theorem Drawing.paths_sublist_of_mem_layers {document : List Node} {layer : Layer}
    (h : layer ∈ (ofDocument document).layers) :
    layer.paths.Sublist (ofDocument document).paths := by
  obtain ⟨group, hgroup, rfl⟩ := List.mem_map.mp h
  obtain ⟨hchild, -⟩ := List.mem_filter.mp hgroup
  cases hroot : Markup.root? document with
  | none =>
    rw [hroot] at hchild
    cases hchild
  | some root =>
    rw [hroot] at hchild
    -- the group stands directly inside the root, and the root directly inside the document
    have hchildren : group.children.Sublist (descendants document) :=
      (sublist_descendants _).trans <| (descendants_children_sublist hchild).trans <|
        descendants_children_sublist (List.mem_of_find?_eq_some hroot)
    exact (hchildren.filter _).map _

/-! ### Drawings of texts -/

/-- A drawing is read off a document. -/
theorem Drawing.exists_document_of_ofText {text : String} {d : Drawing}
    (h : Drawing.ofText text = .ok d) : ∃ document, d = .ofDocument document := by
  unfold Drawing.ofText at h
  cases hdocument : Drawing.document text with
  | error e =>
    rw [hdocument] at h
    cases h
  | ok document =>
    rw [hdocument] at h
    exact ⟨document, (Except.ok.inj h).symm⟩

/-! ### The paths of a layer one by one -/

/-- An arena is the polygons of its rings. -/
theorem Directive.render_arena_eq_polygons (places : Nat) (rings : List Path) :
    (arena rings).render places =
      "set-arena MULTIPOLYGON(" ++ ",".intercalate (rings.map (polygon places)) ++ ")" := by
  rw [render_arena, multipolygon_eq]
  apply String.toList_injective
  simp

/-- The line of a command. -/
def DrawingCommand.line (command : DrawingCommand) : String :=
  " ".intercalate [command.keyword, command.argument]

/-- The line of a command asks for that. -/
theorem asks_line (command : DrawingCommand) (h : IsWord command.argument.toList) :
    Asks command.line command := by
  have hwords : ∀ w ∈ [command.keyword, command.argument], IsWord w.toList := by
    simp only [List.mem_cons, List.not_mem_nil, or_false, forall_eq_or_imp, forall_eq]
    exact ⟨by cases command <;> simp only [DrawingCommand.keyword] <;> decide, h⟩
  have hcomment : (command.line.toList.head? == some '#') = false := by
    cases command <;> simp [DrawingCommand.line, DrawingCommand.keyword]
  refine ⟨[], ?_⟩
  rw [Setting.wordsOfLine, hcomment]
  exact Text.wordsOf_intercalate hwords

/-- A path with an identifier is read alike wherever it is asked for. -/
theorem PathElement.read_eq_of_id {p : PathElement} {id : String} (h : p.id = some id)
    (owner owner' : Owner) (t : Transform) : p.read owner t = p.read owner' t := by
  simp only [PathElement.read, PathElement.subject, h]

/-- The only path with an identifier is found by it. -/
theorem Drawing.path_eq_read {d : Drawing} {p : PathElement} {id : String} (hp : p ∈ d.paths)
    (hid : p.id = some id) (honce : (d.pathsNamed id).length = 1) (t : Transform) :
    d.path id t = p.read .document t := by
  have hmem : p ∈ d.pathsNamed id := List.mem_filter.mpr ⟨hp, by rw [hid]; exact beq_self_eq_true _⟩
  obtain ⟨q, hq⟩ := List.length_eq_one_iff.mp honce
  obtain rfl : p = q := List.mem_singleton.mp (hq ▸ hmem)
  rw [Drawing.path, hq]
  rfl

section Fences

variable {places : Nat} {read : PathElement → Except Error Path} {compiled : String → Compiled}
  {ps : List PathElement} {ids : List String}
  (h : List.Forall₂ (fun p id =>
    compiled id = .of places ((read p).map fun path => [.fence id path])) ps ids)

include h

/-- Paths can all be read exactly if there is a fence for each. -/
theorem exists_forall₂_read_iff :
    (∃ paths, List.Forall₂ (fun p path => read p = .ok path) ps paths) ↔
      ∀ id ∈ ids, ∃ out, compiled id = .lines out := by
  induction h with
  | nil => exact iff_of_true ⟨[], .nil⟩ (by simp)
  | @cons p id ps ids hfirst _ ih =>
    rw [List.forall_mem_cons, ← ih]
    constructor
    · rintro ⟨paths, hpaths⟩
      obtain ⟨path, rest, hread, hrest, rfl⟩ := List.forall₂_cons_left_iff.mp hpaths
      rw [hread] at hfirst
      exact ⟨⟨_, hfirst⟩, rest, hrest⟩
    · rintro ⟨⟨out, hout⟩, paths, hpaths⟩
      cases hread : read p with
      | error e =>
        rw [hread] at hfirst
        cases hfirst.symm.trans hout
      | ok path => exact ⟨path :: paths, .cons hread hpaths⟩

/-- The fences of paths that can all be read have the polygons of these paths. -/
theorem forall₂_fences {paths : List Path}
    (hpaths : List.Forall₂ (fun p path => read p = .ok path) ps paths) :
    List.Forall₂ (fun id polygon =>
      compiled id = .lines ["set-fence " ++ id ++ " MULTIPOLYGON(" ++ polygon ++ ")"])
      ids (paths.map (polygon places)) := by
  induction h generalizing paths with
  | nil =>
    cases hpaths
    exact .nil
  | @cons p id ps ids hfirst _ ih =>
    obtain ⟨path, rest, hread, hrest, rfl⟩ := List.forall₂_cons_left_iff.mp hpaths
    refine .cons ?_ (ih hrest)
    rw [hfirst, hread, ← Directive.render_fence_eq_polygon]
    rfl

end Fences

namespace Setting

variable (s : Setting)

/-- The fence of a path that is found by its identifier is the path as its layer has it. -/
theorem forall₂_fence_read (hp : s.options.precision ≤ Decimal.placesLimit) {session : Session}
    {l : Loaded} (hl : session.loaded = some l) (owner : Owner) {ps : List PathElement}
    (hps : ∀ p ∈ ps, p ∈ l.drawing.paths) {ids : List String}
    (hids : ps.map PathElement.id = ids.map some)
    (honce : ∀ id ∈ ids, IsWord id.toList ∧ (l.drawing.pathsNamed id).length = 1) :
    List.Forall₂ (fun p id => (s.compile session (DrawingCommand.setFence id).line).1 =
      .of s.options.precision ((p.read owner l.transform).map fun path => [.fence id path]))
      ps ids := by
  induction ps generalizing ids with
  | nil =>
    obtain rfl := List.map_eq_nil_iff.mp hids.symm
    exact .nil
  | cons p ps ih =>
    obtain ⟨id, ids, rfl, hid, hrest⟩ := List.map_eq_cons_iff.mp hids.symm
    obtain ⟨hp', hps⟩ := List.forall_mem_cons.mp hps
    obtain ⟨⟨hword, hone⟩, honce⟩ := List.forall_mem_cons.mp honce
    refine .cons ?_ (ih hps hrest.symm honce)
    rw [s.compile_of_asks hp hl (asks_line (.setFence id) hword),
      p.read_eq_of_id hid.symm owner .document, ← Drawing.path_eq_read hp' hid.symm hone]
    cases hpath : l.drawing.path id l.transform with
    | error e => rw [(s.onDrawing_of_path_eq_error l hpath).2.1]; rfl
    | ok path => rw [(s.onDrawing_of_path_eq_ok l hpath).2.1]; rfl

/-- **An arena is the fences of its paths.**  The paths of a layer that is found are paths of the
    drawing, in the same order.  Where each has an identifier that is a word and that no other path
    of the drawing has, the layer can be written as an arena exactly if each can be written as a
    fence, and the arena has the polygons of these fences. -/
theorem arena_of_fences (hp : s.options.precision ≤ Decimal.placesLimit) {session : Session}
    {l : Loaded} (hl : session.loaded = some l) {text : String}
    (htext : Drawing.ofText text = .ok l.drawing) {label : String} {layer : Layer}
    (hlayer : l.drawing.layersNamed label = [layer]) {arena : String}
    (harena : Asks arena (.setArena label)) :
    layer.paths.Sublist l.drawing.paths ∧
    ∀ ids : List String, layer.paths.map PathElement.id = ids.map some →
      (∀ id ∈ ids, IsWord id.toList ∧ (l.drawing.pathsNamed id).length = 1) →
      let fence := fun id => (s.compile session (DrawingCommand.setFence id).line).1
      ((∃ out, (s.compile session arena).1 = .lines out) ↔
        ∀ id ∈ ids, ∃ out, fence id = .lines out) ∧
      ∀ out, (s.compile session arena).1 = .lines out →
        ∃ polygons, List.Forall₂ (fun id polygon =>
            fence id = .lines ["set-fence " ++ id ++ " MULTIPOLYGON(" ++ polygon ++ ")"])
            ids polygons ∧
          out = ["set-arena MULTIPOLYGON(" ++ ",".intercalate polygons ++ ")"] := by
  obtain ⟨document, hdocument⟩ := Drawing.exists_document_of_ofText htext
  have hmem : layer ∈ l.drawing.layers :=
    (List.mem_filter.mp
      (hlayer ▸ List.mem_singleton_self layer : layer ∈ l.drawing.layersNamed label)).1
  have hsublist : layer.paths.Sublist l.drawing.paths := by
    rw [hdocument] at hmem ⊢
    exact Drawing.paths_sublist_of_mem_layers hmem
  refine ⟨hsublist, fun ids hids honce => ?_⟩
  have hfences := s.forall₂_fence_read hp hl (.layer label)
    (fun p hp => hsublist.subset hp) hids honce
  -- the arena reads the paths of the layer, and the fences read the same ones of the drawing
  have hcompile : (s.compile session arena).1 = .of s.options.precision
      ((l.drawing.layerPaths label l.transform).map fun paths => [.arena paths]) :=
    s.compile_of_asks hp hl harena
  have hread : l.drawing.layerPaths label l.transform =
      layer.paths.mapM fun p => p.read (.layer label) l.transform := by
    rw [Drawing.layerPaths, Drawing.layer, hlayer]
    rfl
  cases hpaths : l.drawing.layerPaths label l.transform with
  | error e =>
    rw [hpaths] at hcompile
    have hrefused : ∀ out, (s.compile session arena).1 ≠ .lines out :=
      fun out hout => Compiled.noConfusion (hcompile.symm.trans hout)
    refine ⟨iff_of_false (fun ⟨out, hout⟩ => hrefused out hout) ?_, fun out hout =>
      absurd hout (hrefused out)⟩
    rw [← exists_forall₂_read_iff hfences]
    rintro ⟨paths, hall⟩
    cases hpaths.symm.trans (hread.trans (mapM_eq_ok_iff.mpr hall))
  | ok paths =>
    rw [hpaths] at hcompile
    have hall := mapM_eq_ok_iff.mp (hread.symm.trans hpaths)
    refine ⟨iff_of_true ⟨_, hcompile⟩ ((exists_forall₂_read_iff hfences).mp ⟨paths, hall⟩),
      fun out hout => ⟨_, forall₂_fences hfences hall, ?_⟩⟩
    obtain rfl := Compiled.lines.inj (hcompile.symm.trans hout)
    rw [← Directive.render_arena_eq_polygons]
    rfl

/-- A document with two paths directly inside a layer and one further down. -/
def layeredText : String :=
  "<svg xmlns=\"http://www.w3.org/2000/svg\"" ++
    " xmlns:i=\"http://www.inkscape.org/namespaces/inkscape\"><g i:label=\"l\">" ++
  "<path id=\"p\" d=\"M 0 0 1 0 z\"/><g><path id=\"r\" d=\"M 5 5\"/></g>" ++
  "<path id=\"q\" d=\"M 2 2 3 2 z\"/></g></svg>"

/-- Its drawing. -/
def layeredDrawing : Drawing :=
  ⟨[⟨some "l", [⟨some "p", some "M 0 0 1 0 z"⟩, ⟨some "q", some "M 2 2 3 2 z"⟩], []⟩],
    [⟨some "p", some "M 0 0 1 0 z"⟩, ⟨some "r", some "M 5 5"⟩, ⟨some "q", some "M 2 2 3 2 z"⟩]⟩

/-- What the text is read as. -/
theorem ofText_layeredText : Drawing.ofText layeredText = .ok layeredDrawing :=
  Drawing.document_map_of_ofList
    (append_eq_ofList (append_eq_ofList (append_eq_ofList rfl rfl) rfl) rfl) (by decide +kernel)

/-- A session that has loaded it. -/
def layeredSession : Session :=
  ⟨⟨[], []⟩, some ⟨layeredDrawing, ⟨1.0⟩⟩⟩

set_option maxRecDepth 4096 in
/-- The arena of the layer has the polygons of two fences. -/
theorem arena_of_two_fences :
    plain.options.precision ≤ Decimal.placesLimit ∧
    Asks "set-arena-from-svg-layer l" (.setArena "l") ∧
    (∀ id ∈ ["p", "q"], IsWord id.toList ∧ (layeredDrawing.pathsNamed id).length = 1) ∧
    ∃ a b,
      (plain.compile layeredSession "set-fence-from-svg-path p").1 =
        .lines ["set-fence p MULTIPOLYGON(" ++ a ++ ")"] ∧
      (plain.compile layeredSession "set-fence-from-svg-path q").1 =
        .lines ["set-fence q MULTIPOLYGON(" ++ b ++ ")"] ∧
      (plain.compile layeredSession "set-arena-from-svg-layer l").1 =
        .lines ["set-arena MULTIPOLYGON(" ++ ",".intercalate [a, b] ++ ")"] := by
  have hp : plain.options.precision ≤ Decimal.placesLimit := by decide
  have hl : layeredSession.loaded = some ⟨layeredDrawing, ⟨1.0⟩⟩ := rfl
  have harena : Asks "set-arena-from-svg-layer l" (.setArena "l") := ⟨[], rfl⟩
  have hlines : (plain.compile layeredSession "set-arena-from-svg-layer l").1 =
      .lines
        ["set-arena MULTIPOLYGON(((0.000000 -0.000000,1.000000 -0.000000,0.000000 -0.000000))," ++
        "((2.000000 -2.000000,3.000000 -2.000000,2.000000 -2.000000)))"] := rfl
  obtain ⟨-, hids⟩ := plain.arena_of_fences hp hl ofText_layeredText rfl harena
  have honce : ∀ id ∈ ["p", "q"], IsWord id.toList ∧ (layeredDrawing.pathsNamed id).length = 1 := by
    decide
  obtain ⟨-, hpolygons⟩ := hids ["p", "q"] rfl honce
  obtain ⟨polygons, hfences, hout⟩ := hpolygons _ hlines
  obtain ⟨a, rest, ha, hrest, rfl⟩ := List.forall₂_cons_left_iff.mp hfences
  obtain ⟨b, none, hb, hnone, rfl⟩ := List.forall₂_cons_left_iff.mp hrest
  obtain rfl := List.forall₂_nil_left_iff.mp hnone
  exact ⟨hp, harena, honce, a, b, ha, hb, hlines.trans (congrArg Compiled.lines hout)⟩

end Setting

end NavScript
