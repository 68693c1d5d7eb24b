import Mathlib.Data.List.Basic
import NavScript.Markup.Node

namespace NavScript.Markup

/-!
# Document order

A node stands at a place: the numbers of the nodes on the way down to it, each counted from zero
among its siblings.  Of two places the one above the other, or further to the front where they part,
comes first, which is the lexicographic order of their numbers.  The descendants of a document are
the nodes at all its places, in this order.

* `nodeAt?` — the node at a place
* `forestInduction` — induction on what is inside the first node and what is behind it
* `places` — all places of a document
* `mem_places_iff`, `pairwise_places`, `map_some_descendants` — which they are, their order, and the
  nodes at them
* `exists_places_of_filter` — the nodes of one kind, in document order
-/

/-! ### Places -/

/-- The node at a place of a document, which is given by its outermost nodes. -/
def nodeAt? (nodes : List Node) : List Nat → Option Node
  | [] => none
  | [i] => nodes[i]?
  | i :: j :: rest => nodes[i]?.bind fun node => nodeAt? node.children (j :: rest)

/-- The first of the outermost nodes. -/
theorem nodeAt?_zero (node : Node) (rest : List Node) :
    nodeAt? (node :: rest) [0] = some node := rfl

/-- A place inside it. -/
theorem nodeAt?_zero_cons (node : Node) (rest : List Node) {p : List Nat} (h : p ≠ []) :
    nodeAt? (node :: rest) (0 :: p) = nodeAt? node.children p := by
  obtain ⟨i, p, rfl⟩ := List.exists_cons_of_ne_nil h
  rfl

/-- A place behind it. -/
theorem nodeAt?_succ_cons (node : Node) (rest : List Node) (i : Nat) (p : List Nat) :
    nodeAt? (node :: rest) ((i + 1) :: p) = nodeAt? rest (i :: p) := by
  cases p <;> rfl

/-- The same place behind one more node. -/
def next : List Nat → List Nat
  | [] => []
  | i :: p => (i + 1) :: p

mutual

/-- All places inside a node, in document order. -/
def placesInside : Node → List (List Nat)
  | .element _ _ _ children => places children
  | .text _ => []
  | .comment => []
  | .instruction => []

/-- All places of a document, in document order. -/
def places : List Node → List (List Nat)
  | [] => []
  | node :: rest => [0] :: (placesInside node).map (0 :: ·) ++ (places rest).map next

end

/-- The places inside a node are those of its children. -/
theorem placesInside_eq (node : Node) : placesInside node = places node.children := by
  cases node <;> simp [placesInside, places, Node.children]

@[simp] theorem places_nil : places [] = [] := by
  rw [places]

/-- First the node, then what is inside it, then what is behind it. -/
theorem places_cons (node : Node) (rest : List Node) :
    places (node :: rest) =
      [0] :: (places node.children).map (0 :: ·) ++ (places rest).map next := by
  rw [places, placesInside_eq]

/-! ### Induction -/

theorem sizeOf_children_lt (node : Node) (rest : List Node) :
    sizeOf node.children < sizeOf (node :: rest) := by
  cases node <;> simp only [Node.children, List.cons.sizeOf_spec, List.nil.sizeOf_spec,
    Node.element.sizeOf_spec, Node.text.sizeOf_spec, Node.comment.sizeOf_spec,
    Node.instruction.sizeOf_spec] <;> omega

/-- What holds of no nodes, and of nodes if it holds of what is inside the first of them and of
    those behind it, holds of every document. -/
@[elab_as_elim]
theorem forestInduction {P : List Node → Prop} (nil : P [])
    (cons : ∀ node rest, P node.children → P rest → P (node :: rest)) : ∀ nodes, P nodes
  | [] => nil
  | node :: rest =>
    cons node rest (forestInduction nil cons node.children) (forestInduction nil cons rest)
termination_by nodes => sizeOf nodes
decreasing_by
  · exact sizeOf_children_lt node rest
  · simp only [List.cons.sizeOf_spec]
    omega

/-! ### All places -/

/-- A place has at least one number. -/
theorem ne_nil_of_mem_places {nodes : List Node} {p : List Nat} (h : p ∈ places nodes) :
    p ≠ [] := by
  induction nodes generalizing p with
  | nil => simp at h
  | cons node rest ih =>
    rw [places_cons, List.cons_append, List.mem_cons, List.mem_append, List.mem_map,
      List.mem_map] at h
    rcases h with rfl | ⟨q, -, rfl⟩ | ⟨q, hq, rfl⟩
    · simp
    · simp
    · obtain ⟨i, q, rfl⟩ := List.exists_cons_of_ne_nil (ih hq)
      simp [next]

/-- The places of a document are those where a node stands. -/
theorem mem_places_iff (nodes : List Node) (p : List Nat) :
    p ∈ places nodes ↔ (nodeAt? nodes p).isSome := by
  induction nodes using forestInduction generalizing p with
  | nil =>
    match p with
    | [] | [i] | i :: j :: p => simp [nodeAt?]
  | cons node rest hinside hbehind =>
    rw [places_cons, List.cons_append, List.mem_cons, List.mem_append, List.mem_map, List.mem_map]
    have hnext : ∀ q ∈ places rest, ∃ i q', q = i :: q' := fun q hq =>
      List.exists_cons_of_ne_nil (ne_nil_of_mem_places hq)
    match p with
    | [] =>
      simp only [nodeAt?, Option.isSome_none, Bool.false_eq_true, iff_false, not_or, not_exists]
      refine ⟨by simp, by simp, ?_⟩
      rintro q ⟨hq, hnil⟩
      obtain ⟨i, q, rfl⟩ := hnext q hq
      simp [next] at hnil
    | 0 :: p =>
      have hne : ∀ q ∈ places rest, next q ≠ 0 :: p := by
        intro q hq hzero
        obtain ⟨i, q, rfl⟩ := hnext q hq
        simp [next] at hzero
      by_cases hp : p = []
      · subst hp
        simp [nodeAt?_zero]
      · rw [nodeAt?_zero_cons node rest hp, ← hinside]
        simp only [List.cons.injEq, hp, and_false, true_and, exists_eq_right, false_or]
        exact or_iff_left fun ⟨q, hq, hzero⟩ => hne q hq hzero
    | (i + 1) :: p =>
      rw [nodeAt?_succ_cons, ← hbehind]
      simp only [List.cons.injEq, Nat.add_one_ne_zero, Nat.zero_ne_add_one, false_and, and_false,
        exists_false, false_or]
      constructor
      · rintro ⟨q, hq, hnext'⟩
        obtain ⟨j, q, rfl⟩ := hnext q hq
        obtain ⟨rfl, rfl⟩ : j = i ∧ q = p := by simpa [next] using hnext'
        exact hq
      · exact fun h => ⟨i :: p, h, rfl⟩

/-- The places of a document are listed from its front to its back, and none of them twice. -/
theorem pairwise_places (nodes : List Node) : (places nodes).Pairwise (· < ·) := by
  induction nodes using forestInduction with
  | nil => simp
  | cons node rest hinside hbehind =>
    have hcons : ∀ (i : Nat) (p : List Nat), p ≠ [] → [i] < i :: p := by
      intro i p hp
      obtain ⟨j, p, rfl⟩ := List.exists_cons_of_ne_nil hp
      exact List.cons_lt_cons_iff.mpr (.inr ⟨rfl, List.nil_lt_cons j p⟩)
    have hzero : ∀ p, ∀ q ∈ places rest, 0 :: p < next q := by
      intro p q hq
      obtain ⟨i, q, rfl⟩ := List.exists_cons_of_ne_nil (ne_nil_of_mem_places hq)
      exact List.cons_lt_cons_iff.mpr (.inl (Nat.succ_pos i))
    rw [places_cons, List.cons_append, List.pairwise_cons, List.pairwise_append, List.pairwise_map,
      List.pairwise_map]
    refine ⟨?_, ?_, ?_, ?_⟩
    · intro p hp
      rcases List.mem_append.mp hp with hp | hp
      · obtain ⟨q, hq, rfl⟩ := List.mem_map.mp hp
        exact hcons 0 q (ne_nil_of_mem_places hq)
      · obtain ⟨q, hq, rfl⟩ := List.mem_map.mp hp
        exact hzero [] q hq
    · exact hinside.imp fun hlt => List.cons_lt_cons_iff.mpr (.inr ⟨rfl, hlt⟩)
    · refine hbehind.imp_of_mem fun {p q} hp hq hlt => ?_
      obtain ⟨i, p, rfl⟩ := List.exists_cons_of_ne_nil (ne_nil_of_mem_places hp)
      obtain ⟨j, q, rfl⟩ := List.exists_cons_of_ne_nil (ne_nil_of_mem_places hq)
      rw [List.cons_lt_cons_iff] at hlt
      refine List.cons_lt_cons_iff.mpr (hlt.imp (fun h => Nat.succ_lt_succ h) fun h => ?_)
      exact ⟨congrArg (· + 1) h.1, h.2⟩
    · intro p hp q hq
      obtain ⟨p', -, rfl⟩ := List.mem_map.mp hp
      obtain ⟨q', hq', rfl⟩ := List.mem_map.mp hq
      exact hzero p' q' hq'

/-! ### Descendants -/

/-- The descendants of a document are the nodes at its places. -/
theorem map_some_descendants (nodes : List Node) :
    (descendants nodes).map some = (places nodes).map (nodeAt? nodes) := by
  induction nodes using forestInduction with
  | nil => simp
  | cons node rest hinside hbehind =>
    rw [descendants_cons, places_cons, List.cons_append, List.cons_append, List.map_cons,
      List.map_cons,
      List.map_append, List.map_append, List.map_map, List.map_map, hinside, hbehind, nodeAt?_zero]
    congr 2
    · refine List.map_congr_left fun p hp => ?_
      exact (nodeAt?_zero_cons node rest (ne_nil_of_mem_places hp)).symm
    · refine List.map_congr_left fun p hp => ?_
      obtain ⟨i, p, rfl⟩ := List.exists_cons_of_ne_nil (ne_nil_of_mem_places hp)
      exact (nodeAt?_succ_cons node rest i p).symm

/-- The descendants of one kind are the nodes at the places where such a node stands, in document
    order. -/
theorem exists_places_of_filter (kind : Node → Bool) (nodes : List Node) :
    ∃ ps : List (List Nat), ps.Pairwise (· < ·) ∧
      (∀ p, p ∈ ps ↔ ∃ node, nodeAt? nodes p = some node ∧ kind node) ∧
      ((descendants nodes).filter kind).map some = ps.map (nodeAt? nodes) := by
  refine ⟨(places nodes).filter fun p => (nodeAt? nodes p).any kind,
    (pairwise_places nodes).filter _, fun p => ?_, ?_⟩
  · rw [List.mem_filter, mem_places_iff]
    cases nodeAt? nodes p <;> simp
  · have hsome : kind = Option.any kind ∘ some := rfl
    have hplaces : (fun p => (nodeAt? nodes p).any kind) = Option.any kind ∘ nodeAt? nodes := rfl
    rw [hplaces, ← List.filter_map, ← map_some_descendants, List.filter_map, ← hsome]

end NavScript.Markup
