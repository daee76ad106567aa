import TreeQuery.Document.Basic

/-!
# Walks through a document

Ancestors, preceding siblings and descendants of a node, and the text below it.  No walk visits a
node twice, so the number of nodes bounds the length of each.
-/

namespace TreeQuery
namespace Document

def chain (link : NodeId -> Option NodeId) : Nat -> Option NodeId -> List NodeId
  | 0, _ => []
  | _ + 1, none => []
  | fuel + 1, some id => id :: chain link fuel (link id)

def ancestors (doc : Document) (id : NodeId) : List NodeId :=
  chain doc.parent? doc.size (doc.parent? id)

def precedingSiblings (doc : Document) (id : NodeId) : List NodeId :=
  chain doc.previous? doc.size (doc.previous? id)

/-- The pending nodes, each followed by what is below it, at most the given number of nodes. -/
def preorder (doc : Document) : Nat -> List NodeId -> List NodeId
  | 0, _ => []
  | _ + 1, [] => []
  | fuel + 1, id :: pending => id :: preorder doc fuel (doc.children id ++ pending)

def descendants (doc : Document) (id : NodeId) : List NodeId :=
  doc.preorder doc.size (doc.children id)

/-- The text of a node: the trimmed texts below it that are not blank, with blanks between them.
The text of a text node is its own, trimmed. -/
def text (doc : Document) (id : NodeId) : Text :=
  match doc.payload? id with
  | some payload => Text.trim payload
  | none =>
      let pieces := (doc.descendants id).filterMap doc.payload?
      Text.join " " ((pieces.map Text.trim).filter (fun piece => !piece.isEmpty))

end Document
end TreeQuery
