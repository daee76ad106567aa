import TreeQuery.Document.Edit

/-!
# What a change does to each link

A change of a document is seen through the node that stands at each identity afterwards.  The
links of a node, what it holds and whether it is there are then read off that node.
-/

namespace TreeQuery
namespace Document

/-! # Looking up nodes -/

theorem contains_iff {doc : Document} {id : NodeId} :
    doc.contains id = true ↔ exists node, doc.node? id = some node :=
  Option.isSome_iff_exists

theorem contains_iff_index {doc : Document} {id : NodeId} :
    doc.contains id = true ↔ id.document = doc.id ∧ id.index < doc.size := by
  unfold contains node? size
  by_cases h : id.document = doc.id
  · simp [h]
  · simp [h]

theorem node?_eq_none_of_not_contains {doc : Document} {id : NodeId}
    (h : ¬ doc.contains id = true) : doc.node? id = none := by
  cases hnode : doc.node? id with
  | none => rfl
  | some node => exact absurd (contains_iff.mpr ⟨node, hnode⟩) h

theorem contains_of_node? {doc : Document} {id : NodeId} {node : Node}
    (h : doc.node? id = some node) : doc.contains id = true :=
  contains_iff.mpr ⟨node, h⟩

def content? (doc : Document) (id : NodeId) : Option Content :=
  (doc.node? id).map Node.content

theorem element?_eq (doc : Document) (id : NodeId) :
    doc.element? id =
      match doc.content? id with
      | some (.element element) => some element
      | _ => none := by
  unfold element? content?
  cases doc.node? id with
  | none => rfl
  | some node =>
      obtain ⟨content, _, _, _, _⟩ := node
      cases content <;> rfl

theorem isElement_iff {doc : Document} {id : NodeId} :
    doc.isElement id = true ↔ exists element, doc.content? id = some (.element element) := by
  unfold isElement
  rw [element?_eq]
  cases doc.content? id with
  | none => simp
  | some content => cases content <;> simp

theorem contains_of_isElement {doc : Document} {id : NodeId} (h : doc.isElement id = true) :
    doc.contains id = true := by
  rcases isElement_iff.mp h with ⟨element, hcontent⟩
  unfold content? at hcontent
  rcases Option.map_eq_some_iff.mp hcontent with ⟨node, hnode, _⟩
  exact contains_of_node? hnode

theorem parent?_eq (doc : Document) (id : NodeId) :
    doc.parent? id = ((doc.node? id).map Node.parent).join := by
  unfold parent?
  cases doc.node? id <;> rfl

theorem next?_eq (doc : Document) (id : NodeId) :
    doc.next? id = ((doc.node? id).map Node.next).join := by
  unfold next?
  cases doc.node? id <;> rfl

theorem previous?_eq (doc : Document) (id : NodeId) :
    doc.previous? id = ((doc.node? id).map Node.previous).join := by
  unfold previous?
  cases doc.node? id <;> rfl

theorem children_eq (doc : Document) (id : NodeId) :
    doc.children id = ((doc.node? id).map Node.children).getD [] := by
  unfold children
  cases doc.node? id <;> rfl

theorem contains_of_parent? {doc : Document} {parent child : NodeId}
    (h : doc.parent? child = some parent) : doc.contains child = true := by
  unfold parent? at h
  rcases Option.bind_eq_some_iff.mp h with ⟨node, hnode, _⟩
  exact contains_of_node? hnode

/-! # Creating a node -/

def fresh (doc : Document) : NodeId := ⟨doc.id, doc.size⟩

theorem not_contains_fresh (doc : Document) : ¬ doc.contains doc.fresh = true := by
  simp [contains_iff_index, fresh]

@[simp] theorem create_snd (doc : Document) (content : Content) :
    (doc.create content).2 = doc.fresh := rfl

@[simp] theorem id_create (doc : Document) (content : Content) :
    (doc.create content).1.id = doc.id := rfl

@[simp] theorem root_create (doc : Document) (content : Content) :
    (doc.create content).1.root = doc.root := rfl

@[simp] theorem size_create (doc : Document) (content : Content) :
    (doc.create content).1.size = doc.size + 1 := by
  simp [create, size]

theorem node?_create (doc : Document) (content : Content) (id : NodeId) :
    (doc.create content).1.node? id =
      if id = doc.fresh then some (.detached content) else doc.node? id := by
  obtain ⟨document, index⟩ := id
  simp only [node?, create, fresh, NodeId.mk.injEq]
  by_cases hdocument : document = doc.id
  · simp [hdocument, size, Array.getElem?_push]
  · simp [hdocument]

/-! # Changing a node -/

@[simp] theorem id_modify (doc : Document) (target : NodeId) (change : Node -> Node) :
    (doc.modify target change).id = doc.id := rfl

@[simp] theorem root_modify (doc : Document) (target : NodeId) (change : Node -> Node) :
    (doc.modify target change).root = doc.root := rfl

@[simp] theorem size_modify (doc : Document) (target : NodeId) (change : Node -> Node) :
    (doc.modify target change).size = doc.size := by
  simp [modify, size]

theorem node?_modify (doc : Document) {target : NodeId} (change : Node -> Node) (id : NodeId)
    (h : target.document = doc.id) :
    (doc.modify target change).node? id =
      (doc.node? id).map (fun node => if id = target then change node else node) := by
  obtain ⟨document, index⟩ := id
  obtain ⟨targetDocument, targetIndex⟩ := target
  cases h
  simp only [node?, modify, NodeId.mk.injEq]
  by_cases hdocument : document = doc.id
  · simp only [hdocument, if_true, true_and, Array.getElem?_modify]
    by_cases hindex : targetIndex = index
    · simp [hindex]
    · simp [hindex, Ne.symm hindex]
  · simp [hdocument]

/-! # Attaching a child -/

/-- The node that stands at an identity after a child was linked behind the last child of a
parent. -/
def relinked (parent child : NodeId) (last : Option NodeId) (id : NodeId) (node : Node) : Node where
  content := node.content
  parent := if id = child then some parent else node.parent
  children := if id = parent then node.children ++ [child] else node.children
  next := if last = some id then some child else node.next
  previous := if id = child then last.or node.previous else node.previous

theorem node?_attach {doc : Document} {parent child : NodeId} (id : NodeId)
    (hparent : parent.document = doc.id) (hchild : child.document = doc.id)
    (hlast : forall last, (doc.children parent).getLast? = some last -> last.document = doc.id) :
    (doc.attach parent child).node? id =
      (doc.node? id).map (relinked parent child (doc.children parent).getLast? id) := by
  unfold attach
  cases hcase : (doc.children parent).getLast? with
  | none =>
      simp only
      rw [node?_modify _ _ _ (by simpa using hchild), node?_modify _ _ _ hparent, Option.map_map]
      congr 1
      funext node
      cases node
      grind [relinked]
  | some last =>
      simp only
      rw [node?_modify _ _ _ (by simpa using hchild),
        node?_modify _ _ _ (by simpa using hlast last hcase),
        node?_modify _ _ _ (by simpa using hchild), node?_modify _ _ _ hparent,
        Option.map_map, Option.map_map, Option.map_map]
      congr 1
      funext node
      cases node
      grind [relinked]

end Document
end TreeQuery
