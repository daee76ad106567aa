import TreeQuery.Document.Attributes
import TreeQuery.Text.Letter
import TreeQuery.Text.Lowercase
import TreeQuery.Text.Numeral

/-!
# Documents

A document is an array of nodes, in the order in which they were created, that refer to each
other by identifiers.  An identifier names the document that it belongs to, so that a node of one
document is never taken for a node of another.
-/

namespace TreeQuery

/-- The identity of a node: its document and its place in the order of creation. -/
structure NodeId where
  document : Nat
  index : Nat
deriving DecidableEq, Repr, Inhabited

def NodeId.render (id : NodeId) : Text :=
  "NodeId(" ++ Text.ofNat id.document ++ ":" ++ Text.ofNat id.index ++ ")"

structure Element where
  tag : Text
  attributes : Attributes
  lowered : exists given, tag = Text.lower given
deriving DecidableEq, Repr

namespace Element

def ofTag (tag : Text) (attributes : Attributes) : Element :=
  ⟨Text.lower tag, attributes, tag, rfl⟩

instance : Inhabited Element := ⟨ofTag [] default⟩

def id? (element : Element) : Option Text :=
  element.attributes.get? "id"

def classes (element : Element) : List Text :=
  Text.words ((element.attributes.get? "class").getD [])

def hasClass (element : Element) (name : Text) : Bool :=
  element.classes.any (fun word => Text.lower word == Text.lower name)

end Element

inductive Content where
  | element (element : Element)
  | text (payload : Text)
deriving DecidableEq, Repr, Inhabited

structure Node where
  content : Content
  parent : Option NodeId
  children : List NodeId
  next : Option NodeId
  previous : Option NodeId
deriving DecidableEq, Repr, Inhabited

def Node.detached (content : Content) : Node :=
  ⟨content, none, [], none, none⟩

/-- The nodes of a document and its root element, if one is set. -/
structure Document where
  id : Nat
  nodes : Array Node
  root : Option NodeId
deriving Repr, Inhabited

namespace Document

def empty (id : Nat) : Document := ⟨id, #[], none⟩

def size (doc : Document) : Nat := doc.nodes.size

def isEmpty (doc : Document) : Bool := doc.nodes.isEmpty

def node? (doc : Document) (id : NodeId) : Option Node :=
  if id.document = doc.id then doc.nodes[id.index]? else none

def contains (doc : Document) (id : NodeId) : Bool :=
  (doc.node? id).isSome

def element? (doc : Document) (id : NodeId) : Option Element :=
  match doc.node? id with
  | some ⟨.element element, _, _, _, _⟩ => some element
  | _ => none

def payload? (doc : Document) (id : NodeId) : Option Text :=
  match doc.node? id with
  | some ⟨.text payload, _, _, _, _⟩ => some payload
  | _ => none

def isElement (doc : Document) (id : NodeId) : Bool :=
  (doc.element? id).isSome

/-! # Links -/

def parent? (doc : Document) (id : NodeId) : Option NodeId :=
  (doc.node? id).bind Node.parent

def children (doc : Document) (id : NodeId) : List NodeId :=
  match doc.node? id with
  | some node => node.children
  | none => []

def next? (doc : Document) (id : NodeId) : Option NodeId :=
  (doc.node? id).bind Node.next

def previous? (doc : Document) (id : NodeId) : Option NodeId :=
  (doc.node? id).bind Node.previous

/-- The place of a node among the children of its parent, counted from zero. -/
def indexInParent? (doc : Document) (id : NodeId) : Option Nat :=
  match doc.parent? id with
  | none => none
  | some parent => (doc.children parent).idxOf? id

end Document
end TreeQuery
