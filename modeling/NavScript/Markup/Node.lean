namespace NavScript.Markup

/-!
# The node tree

A document is a tree of elements, character data, comments and processing instructions.  Names of
elements and attributes are expanded: a local name together with a namespace, if it has one.

* `Node` — the tree
* `Node.attribute?`, `Node.text?` — what is read off one element
* `descendants` — all nodes below a list of nodes, in document order
-/

/-- An attribute of an element. -/
structure Attribute where
  space : Option String
  name : String
  value : String
  deriving DecidableEq, Repr

/-- A node of a document. -/
inductive Node where
  | element (space : Option String) (name : String) (attributes : List Attribute)
      (children : List Node)
  | text (content : String)
  | comment
  | instruction

namespace Node

/-- An element, as opposed to character data and nodes that carry nothing. -/
def isElement : Node → Bool
  | element .. => true
  | _ => false

/-- An element with the given namespace and local name. -/
def hasName (space name : String) : Node → Bool
  | element s n _ _ => s == some space && n == name
  | _ => false

/-- The nodes directly inside an element. -/
def children : Node → List Node
  | element _ _ _ children => children
  | _ => []

/-- The value of an element's attribute with the given expanded name. -/
def attribute? (space : Option String) (name : String) : Node → Option String
  | element _ _ attributes _ =>
    (attributes.find? fun a => a.space == space && a.name == name).map (·.value)
  | _ => none

/-- The character data that an element begins with. -/
def text? (node : Node) : Option String :=
  match node.children with
  | text content :: _ => some content
  | _ => none

end Node

/-! ### Descendants -/

mutual

/-- A node and all nodes below it, added in reverse document order. -/
def pushDescendants (done : List Node) : Node → List Node
  | .element space name attributes children =>
    pushAll (.element space name attributes children :: done) children
  | .text content => .text content :: done
  | .comment => .comment :: done
  | .instruction => .instruction :: done

/-- The nodes of a list and all nodes below them, added in reverse document order. -/
def pushAll (done : List Node) : List Node → List Node
  | [] => done
  | node :: rest => pushAll (pushDescendants done node) rest

end

/-- The nodes of a list and all nodes below them, in document order. -/
def descendants (nodes : List Node) : List Node :=
  (pushAll [] nodes).reverse

mutual

/-- What has been collected before stays behind what is added. -/
theorem pushDescendants_append (done before : List Node) (node : Node) :
    pushDescendants (done ++ before) node = pushDescendants done node ++ before := by
  cases node with
  | element space name attributes children =>
    simpa [pushDescendants] using
      pushAll_append (.element space name attributes children :: done) before children
  | text content => simp [pushDescendants]
  | comment => simp [pushDescendants]
  | instruction => simp [pushDescendants]

/-- So it does for a list of nodes. -/
theorem pushAll_append (done before nodes : List Node) :
    pushAll (done ++ before) nodes = pushAll done nodes ++ before := by
  cases nodes with
  | nil => simp [pushAll]
  | cons node rest =>
    rw [pushAll, pushAll, pushDescendants_append done before node,
      pushAll_append (pushDescendants done node) before rest]

end

@[simp] theorem descendants_nil : descendants [] = [] := rfl

/-- A node comes first, then what is below it, then its later siblings with what is below them. -/
theorem descendants_cons (node : Node) (rest : List Node) :
    descendants (node :: rest) = node :: descendants node.children ++ descendants rest := by
  have split : ∀ nodes done, pushAll done nodes = pushAll [] nodes ++ done := fun nodes done => by
    simpa using pushAll_append [] done nodes
  cases node <;>
    simp [descendants, pushAll, pushDescendants, Node.children, split _ (_ :: _),
      split rest (pushAll _ _ ++ _)]

/-- The nodes of two lists, one after the other. -/
theorem descendants_append (before after : List Node) :
    descendants (before ++ after) = descendants before ++ descendants after := by
  induction before with
  | nil => rfl
  | cons node before ih =>
    rw [List.cons_append, descendants_cons, descendants_cons, ih, ← List.append_assoc,
      List.cons_append, List.cons_append]

end NavScript.Markup
