import TreeQuery.Document.Walk

/-!
# Changing a document

Nodes are created detached and then appended to a parent or made the root element.  A change that
would break the tree is refused.  Refused or not, every change leaves a document.
-/

namespace TreeQuery

inductive EditError where
  | foreignNode (id : NodeId)
  | alreadyAttached (id : NodeId)
  | notAnElement (id : NodeId)
  | hierarchyRequest (parent child : NodeId)
deriving DecidableEq, Repr

def EditError.message : EditError -> Text
  | .foreignNode id => id.render ++ " belongs to a different document"
  | .alreadyAttached id => id.render ++ " already has a parent"
  | .notAnElement id => id.render ++ " is not an element"
  | .hierarchyRequest parent child =>
      "cannot append " ++ child.render ++ " under its own descendant " ++ parent.render

/-- The document that a change leaves, and its result. -/
structure Edited (α : Type) where
  doc : Document
  result : Except EditError α

namespace Edited

/-- Go on with the document that is left, unless the change was refused. -/
def andThen {α β : Type} (edited : Edited α) (continuation : Document -> α -> Edited β) :
    Edited β :=
  match edited.result with
  | .error error => ⟨edited.doc, .error error⟩
  | .ok value => continuation edited.doc value

end Edited

namespace Document

/-! # Creating nodes -/

def create (doc : Document) (content : Content) : Document × NodeId :=
  ({ doc with nodes := doc.nodes.push (.detached content) }, ⟨doc.id, doc.size⟩)

def createElement (doc : Document) (tag : Text) (attributes : Attributes) :
    Document × NodeId :=
  doc.create (.element (.ofTag tag attributes))

def createText (doc : Document) (payload : Text) : Document × NodeId :=
  doc.create (.text payload)

/-! # Changing nodes -/

def modify (doc : Document) (id : NodeId) (change : Node -> Node) : Document :=
  { doc with nodes := doc.nodes.modify id.index change }

def setRoot (doc : Document) (id : NodeId) : Edited Unit :=
  match doc.node? id with
  | none => ⟨doc, .error (.foreignNode id)⟩
  | some node =>
      if !doc.isElement id then ⟨doc, .error (.notAnElement id)⟩
      else if node.parent.isSome then ⟨doc, .error (.alreadyAttached id)⟩
      else ⟨{ doc with root := some id }, .ok ()⟩

def attach (doc : Document) (parent child : NodeId) : Document :=
  let last := (doc.children parent).getLast?
  let linked := (doc.modify parent (fun node => { node with children := node.children ++ [child] })
    ).modify child (fun node => { node with parent := some parent })
  match last with
  | none => linked
  | some last =>
      (linked.modify last (fun node => { node with next := some child })
        ).modify child (fun node => { node with previous := some last })

def appendChild (doc : Document) (parent child : NodeId) : Edited Unit :=
  if !doc.contains parent then ⟨doc, .error (.foreignNode parent)⟩
  else if !doc.isElement parent then ⟨doc, .error (.notAnElement parent)⟩
  else if !doc.contains child then ⟨doc, .error (.foreignNode child)⟩
  else if (doc.parent? child).isSome || doc.root == some child then
    ⟨doc, .error (.alreadyAttached child)⟩
  else if parent = child || (doc.ancestors parent).contains child then
    ⟨doc, .error (.hierarchyRequest parent child)⟩
  else ⟨doc.attach parent child, .ok ()⟩

def setAttribute (doc : Document) (id : NodeId) (name value : Text) : Edited Unit :=
  if !doc.contains id then ⟨doc, .error (.foreignNode id)⟩
  else
    match doc.element? id with
    | none => ⟨doc, .error (.notAnElement id)⟩
    | some element =>
        let changed := { element with attributes := element.attributes.set name value }
        ⟨doc.modify id (fun node => { node with content := .element changed }), .ok ()⟩

end Document
end TreeQuery
