import TreeQuery.Document.Edit
import TreeQuery.Document.Tree

/-!
# Documents and trees

A tree is built into a document from the top down, each node before its children, and a node of a
document is described by a tree with everything below it.
-/

namespace TreeQuery
namespace Document

mutual
/-- Create the nodes of a tree, without a parent for the topmost one. -/
def build (doc : Document) : Tree -> Edited NodeId
  | .text payload =>
      let (doc, id) := doc.createText payload
      ⟨doc, .ok id⟩
  | .element tag attributes children =>
      let (doc, id) := doc.createElement tag (.ofList attributes.entries)
      (doc.buildChildren id children).andThen (fun doc _ => ⟨doc, .ok id⟩)

def buildChildren (doc : Document) (parent : NodeId) : List Tree -> Edited Unit
  | [] => ⟨doc, .ok ()⟩
  | tree :: rest =>
      (doc.build tree).andThen (fun doc child =>
        (doc.appendChild parent child).andThen (fun doc _ => doc.buildChildren parent rest))
end

def ofTree (id : Nat) (tree : Tree) : Except EditError Document :=
  let edited := ((empty id).build tree).andThen setRoot
  edited.result.map (fun _ => edited.doc)

def describeWithin (doc : Document) : Nat -> NodeId -> Option Tree
  | 0, _ => none
  | depth + 1, id =>
      match doc.node? id with
      | none => none
      | some ⟨.text payload, _, _, _, _⟩ => some (.text payload)
      | some ⟨.element element, _, children, _, _⟩ =>
          some (.element element.tag element.attributes.values
            (children.filterMap (describeWithin doc depth)))

/-- Describe a node and everything below it.  No branch is longer than the document. -/
def describe? (doc : Document) (id : NodeId) : Option Tree :=
  doc.describeWithin (doc.size + 1) id

end Document
end TreeQuery
