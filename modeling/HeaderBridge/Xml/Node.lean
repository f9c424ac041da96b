import HeaderBridge.Text

/-!
# Trees

A document as a tree of elements and text.

`elements_append` and `element?_append` say that the elements of a list of nodes, and the
first of them with a given tag, are found from the left.
-/

namespace HeaderBridge.Xml

/-- A node of a document. -/
inductive Node where
  | text (t : Text)
  /-- An element with its attributes, in the order in which they were written. -/
  | element (tag : Text) (attributes : List (Text × Text)) (children : List Node)

namespace Node

/-- The tag of an element. -/
def tag? : Node → Option Text
  | .text _ => none
  | .element tag _ _ => some tag

/-- The children of an element. -/
def children : Node → List Node
  | .text _ => []
  | .element _ _ children => children

/-- The value of an attribute. -/
def attribute? (n : Node) (name : Text) : Option Text :=
  match n with
  | .text _ => none
  | .element _ attributes _ => (attributes.find? fun a => a.1 = name).map Prod.snd

/-- The elements with a tag among the children. -/
def elements (n : Node) (tag : Text) : List Node := n.children.filter fun c => c.tag? = some tag

/-- The first element with a tag among the children. -/
def element? (n : Node) (tag : Text) : Option Node := (n.elements tag).head?

/-- The elements among more children are found from the left. -/
theorem elements_append (tag : Text) (attributes : List (Text × Text)) (a b : List Node)
    (k : Text) :
    (element tag attributes (a ++ b)).elements k =
      (element tag attributes a).elements k ++ (element tag attributes b).elements k := by
  simp [elements, children]

/-- An element among the first children hides those behind it. -/
theorem element?_append (tag : Text) (attributes : List (Text × Text)) (a b : List Node)
    (k : Text) :
    (element tag attributes (a ++ b)).element? k =
      ((element tag attributes a).element? k).or ((element tag attributes b).element? k) := by
  simp [element?, elements_append, List.head?_append]

end Node

end HeaderBridge.Xml
