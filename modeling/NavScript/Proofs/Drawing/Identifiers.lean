import NavScript.Proofs.Markup.Order
import NavScript.Proofs.Session.Step

namespace NavScript

open NavScript.Geometry
open Markup (Node nodeAt?)

/-!
# Identifiers listed and looked up

The flattener is asked for the identifiers of a document, and paths are looked up in the drawing of
a document.  Both stand for the same path elements in document order, so that how often an
identifier is listed tells what comes of looking it up.

* `pathIds_eq_filterMap`, `Drawing.count_filterMap_id` — the identifiers listed, and how often
* `Drawing.path_eq_lookup_iff`, `Drawing.exists_path_eq` — what looking one up comes to
* `Drawing.identifiers_of_text` — both for the text of a document
-/

/-- The identifiers of a document are those of the paths of its drawing, in the same order. -/
theorem pathIds_eq_filterMap (document : List Node) :
    pathIds document = (Drawing.ofDocument document).paths.filterMap PathElement.id := by
  rw [Drawing.ofDocument, List.filterMap_map]
  rfl

/-- A path with an identifier is read under this name, wherever it stands. -/
theorem PathElement.read_of_id {p : PathElement} {id : String} (h : p.id = some id) (owner : Owner)
    (t : Transform) :
    p.read owner t = match p.d with
      | some d => (PathData.path d t).mapError fun fault => .malformed (.path id) (.pathData fault)
      | none => .error (.malformed (.path id) (.missingAttribute "d")) := by
  rw [PathElement.read, PathElement.subject, h]
  cases p.d <;> rfl

/-- Reading a path does not fail for its being the wrong one. -/
theorem PathElement.read_ne_lookup (p : PathElement) (owner : Owner) (t : Transform) (kind : Kind)
    (key : String) (found : Nat) : p.read owner t ≠ .error (.lookup kind key found) := by
  rw [PathElement.read]
  cases p.d with
  | none => simp
  | some d =>
    dsimp only
    cases PathData.path d t <;> simp [Except.mapError]

namespace Drawing

variable (d : Drawing) (id : String) (t : Transform)

/-- An identifier is listed as often as it is found. -/
theorem count_filterMap_id :
    (d.paths.filterMap PathElement.id).count id = (d.pathsNamed id).length := by
  rw [List.count_filterMap, List.countP_eq_length_filter]
  rfl

/-- A path that is found once is read under its name. -/
theorem exists_path_eq (h : (d.pathsNamed id).length = 1) :
    ∃ p, d.pathsNamed id = [p] ∧ p.id = some id ∧
      d.path id t = match p.d with
        | some data => (PathData.path data t).mapError fun fault =>
            .malformed (.path id) (.pathData fault)
        | none => .error (.malformed (.path id) (.missingAttribute "d")) := by
  obtain ⟨p, hp⟩ := List.length_eq_one_iff.mp h
  have hmem : p ∈ d.pathsNamed id := hp ▸ List.mem_singleton_self p
  have hid : p.id = some id := eq_of_beq (List.mem_filter.mp hmem).2
  refine ⟨p, hp, hid, ?_⟩
  rw [Drawing.path, hp, ← PathElement.read_of_id hid .document t]
  rfl

/-- Looking up a path fails for the number of matches exactly if that is not one. -/
theorem path_eq_lookup_iff (m : Nat) :
    d.path id t = .error (.lookup .path id m) ↔ m = (d.pathsNamed id).length ∧ m ≠ 1 := by
  by_cases hone : (d.pathsNamed id).length = 1
  · obtain ⟨p, hp⟩ := List.length_eq_one_iff.mp hone
    have hread : d.path id t = p.read .document t := by
      rw [Drawing.path, hp]
      rfl
    rw [hread, hone]
    exact iff_of_false (p.read_ne_lookup _ _ _ _ _) fun h => h.2 h.1
  · have hlookup : d.path id t = .error (.lookup .path id (d.pathsNamed id).length) := by
      rw [Drawing.path, onlyMatch.eq_def]
      split
      · rename_i p hp
        exact absurd (by rw [hp]; rfl) hone
      · rfl
    rw [hlookup]
    constructor
    · intro h
      injection h with h
      injection h with _ _ h
      exact ⟨h.symm, h ▸ hone⟩
    · rintro ⟨rfl, -⟩
      rfl

/-- **The identifiers of a document are those that its paths are found by.**  A text has no
    identifiers exactly where it has no drawing, for the same reason.  The paths of a drawing are
    the path elements of the document, wherever they stand and in document order, and the
    identifiers are those that these paths carry, in the same order and as often.  Looking an
    identifier up fails for the number of its matches exactly if it is not listed once; else the one
    path that carries it is read. -/
theorem identifiers_of_text (text : String) :
    (∀ e, idsOfText text = .error e ↔ ofText text = .error e) ∧
    ∀ document, Markup.parse text = .ok document →
      ∃ drawing ids, ofText text = .ok drawing ∧ idsOfText text = .ok ids ∧
        (∃ places : List (List Nat), places.Pairwise (· < ·) ∧
          (∀ place, place ∈ places ↔
            ∃ node, nodeAt? document place = some node ∧ isDrawn "path" node) ∧
          drawing.paths.map some =
            places.map fun place => (nodeAt? document place).map PathElement.ofNode) ∧
        ids = drawing.paths.filterMap PathElement.id ∧
        ∀ id t,
          (∀ m, drawing.path id t = .error (.lookup .path id m) ↔ m = ids.count id ∧ m ≠ 1) ∧
          (ids.count id = 1 → ∃ p, drawing.pathsNamed id = [p] ∧ p.id = some id ∧
            drawing.path id t = match p.d with
              | some data => (PathData.path data t).mapError fun fault =>
                  .malformed (.path id) (.pathData fault)
              | none => .error (.malformed (.path id) (.missingAttribute "d"))) := by
  constructor
  · intro e
    rw [idsOfText, ofText]
    cases Drawing.document text with
    | error e' =>
      exact ⟨fun h => congrArg Except.error (Except.error.inj h),
        fun h => congrArg Except.error (Except.error.inj h)⟩
    | ok document => exact iff_of_false (by rintro ⟨⟩) (by rintro ⟨⟩)
  · intro document hparse
    have hdocument : Drawing.document text = .ok document := by rw [Drawing.document, hparse]; rfl
    refine ⟨ofDocument document, pathIds document, by rw [ofText, hdocument]; rfl,
      by rw [idsOfText, hdocument]; rfl, ?_, pathIds_eq_filterMap document, fun id t => ?_⟩
    · obtain ⟨places, hordered, hmem, hnodes⟩ :=
        Markup.exists_places_of_filter (isDrawn "path") document
      refine ⟨places, hordered, hmem, ?_⟩
      have hpaths := congrArg (List.map (Option.map PathElement.ofNode)) hnodes
      rw [List.map_map, List.map_map] at hpaths
      rw [ofDocument, List.map_map]
      exact hpaths
    · rw [pathIds_eq_filterMap, count_filterMap_id]
      exact ⟨path_eq_lookup_iff _ id t, exists_path_eq _ id t⟩

/-- A document whose paths stand at several depths.  One identifier is carried twice, one path has
    no identifier, and the path `q` has no path data. -/
def nestedText : String :=
  "<svg xmlns=\"http://www.w3.org/2000/svg\"><g><path id=\"p\" d=\"M 0 0\"/>" ++
    "<g><path id=\"q\"/></g></g><path d=\"M 1 1\"/><path id=\"p\"/></svg>"

/-- Its drawing. -/
def nestedDrawing : Drawing :=
  ⟨[⟨none, [⟨some "p", some "M 0 0"⟩], []⟩],
    [⟨some "p", some "M 0 0"⟩, ⟨some "q", none⟩, ⟨none, some "M 1 1"⟩, ⟨some "p", none⟩]⟩

theorem ofText_nestedText : ofText nestedText = .ok nestedDrawing :=
  document_map_of_ofList (append_eq_ofList rfl rfl) (by decide +kernel)

/-- An identifier listed twice is not found, one listed once names the path that is read. -/
theorem identifiers_of_nested_path :
    idsOfText nestedText = .ok ["p", "q", "p"] ∧
    nestedDrawing.path "p" ⟨1.0⟩ = .error (.lookup .path "p" 2) ∧
    nestedDrawing.path "q" ⟨1.0⟩ = .error (.malformed (.path "q") (.missingAttribute "d")) := by
  cases hparse : Markup.parse nestedText with
  | error fault =>
    have hdrawing := ofText_nestedText
    rw [ofText, Drawing.document, hparse] at hdrawing
    cases hdrawing
  | ok document =>
    obtain ⟨drawing, ids, hdrawing, hids, -, hlisted, hfound⟩ :=
      (identifiers_of_text nestedText).2 document hparse
    obtain rfl : nestedDrawing = drawing := Except.ok.inj (ofText_nestedText.symm.trans hdrawing)
    obtain rfl : ids = ["p", "q", "p"] := hlisted
    obtain ⟨q, hq, -, hread⟩ := (hfound "q" ⟨1.0⟩).2 rfl
    obtain rfl : (⟨some "q", none⟩ : PathElement) = q := (List.cons.inj hq).1
    exact ⟨hids, ((hfound "p" ⟨1.0⟩).1 2).mpr ⟨rfl, by decide⟩, hread⟩

end Drawing

end NavScript
