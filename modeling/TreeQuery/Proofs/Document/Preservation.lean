import TreeQuery.Proofs.Document.WellFormed

/-!
# Changes keep a document well-formed

Creating a node, setting the root and setting an attribute leave every link as it is.  Attaching
a child changes one link of at most three nodes, and the check against ancestors is what keeps
the parents free of cycles.
-/

namespace TreeQuery
namespace Document

/-! # Changes that leave the links alone -/

/-- The second document has the links of the first, and at least its nodes and elements. -/
structure SameLinks (old new : Document) : Prop where
  parent? : forall id, new.parent? id = old.parent? id
  children : forall id, new.children id = old.children id
  next? : forall id, new.next? id = old.next? id
  previous? : forall id, new.previous? id = old.previous? id
  contains : forall {id}, old.contains id = true -> new.contains id = true
  isElement : forall {id}, old.isElement id = true -> new.isElement id = true

theorem WellFormed.of_sameLinks {old new : Document} (wellFormed : old.WellFormed)
    (same : SameLinks old new)
    (hroot : forall {root}, new.root = some root ->
      new.isElement root = true ∧ new.parent? root = none) : new.WellFormed where
  contains_parent h := same.contains (wellFormed.contains_parent (same.parent? _ ▸ h))
  contains_child h := same.contains (wellFormed.contains_child (same.children _ ▸ h))
  contains_next h := same.contains (wellFormed.contains_next (same.next? _ ▸ h))
  contains_previous h := same.contains (wellFormed.contains_previous (same.previous? _ ▸ h))
  mem_children_iff := by
    intro parent child
    rw [same.children, same.parent?]
    exact wellFormed.mem_children_iff
  nodup_children parent := by
    rw [same.children]
    exact wellFormed.nodup_children parent
  isElement_of_children h :=
    same.isElement (wellFormed.isElement_of_children (same.children _ ▸ h))
  next_of_neighbours h := by
    rw [same.children] at h
    rw [same.next?]
    exact wellFormed.next_of_neighbours h
  previous_of_neighbours h := by
    rw [same.children] at h
    rw [same.previous?]
    exact wellFormed.previous_of_neighbours h
  previous_of_first h := by
    rw [same.children] at h
    rw [same.previous?]
    exact wellFormed.previous_of_first h
  next_of_last h := by
    rw [same.children] at h
    rw [same.next?]
    exact wellFormed.next_of_last h
  next_of_detached h := by
    rw [same.parent?] at h
    rw [same.next?]
    exact wellFormed.next_of_detached h
  previous_of_detached h := by
    rw [same.parent?] at h
    rw [same.previous?]
    exact wellFormed.previous_of_detached h
  ends := by
    have hsame : new.IsParent = old.IsParent := by
      funext parent child
      unfold IsParent
      rw [same.parent?]
    rw [hsame]
    exact wellFormed.ends
  root_isElement h := (hroot h).1
  root_detached h := (hroot h).2

theorem wellFormed_empty (id : Nat) : (empty id).WellFormed := by
  have hnode : forall other, (empty id).node? other = none := by
    intro other
    simp [node?, empty]
  have hparent : forall other, (empty id).parent? other = none := by
    intro other
    rw [parent?, hnode]
    rfl
  have hchildren : forall other, (empty id).children other = [] := by
    intro other
    rw [children, hnode]
  have hnext : forall other, (empty id).next? other = none := by
    intro other
    rw [next?, hnode]
    rfl
  have hprevious : forall other, (empty id).previous? other = none := by
    intro other
    rw [previous?, hnode]
    rfl
  have hroot : (empty id).root = none := rfl
  constructor
  case ends =>
    refine ⟨fun child => Acc.intro child fun parent h => ?_⟩
    rw [IsParent, hparent] at h
    cases h
  all_goals simp [hparent, hchildren, hnext, hprevious, hroot]

/-! # Creating a node -/

/-- What is read off a node is unchanged if a detached node reads like no node at all. -/
theorem read_create {α : Type} (doc : Document) (content : Content) (id : NodeId)
    (read : Option Node -> α) (h : read (some (.detached content)) = read none) :
    read ((doc.create content).1.node? id) = read (doc.node? id) := by
  rw [node?_create]
  split
  · rename_i same
    rw [same, node?_eq_none_of_not_contains (not_contains_fresh doc), h]
  · rfl

theorem sameLinks_create (doc : Document) (content : Content) :
    SameLinks doc (doc.create content).1 := by
  constructor
  · intro id
    exact read_create doc content id (fun node => node.bind Node.parent) rfl
  · intro id
    rw [children_eq, children_eq]
    exact read_create doc content id (fun node => (node.map Node.children).getD []) rfl
  · intro id
    exact read_create doc content id (fun node => node.bind Node.next) rfl
  · intro id
    exact read_create doc content id (fun node => node.bind Node.previous) rfl
  · intro id h
    unfold contains
    rw [node?_create]
    split
    · rfl
    · exact h
  · intro id h
    rcases isElement_iff.mp h with ⟨element, helement⟩
    apply isElement_iff.mpr
    refine ⟨element, ?_⟩
    rw [content?, node?_create, if_neg]
    · exact helement
    · intro same
      rw [same] at h
      exact not_contains_fresh doc (contains_of_isElement h)

theorem WellFormed.create {doc : Document} (wellFormed : doc.WellFormed) (content : Content) :
    (doc.create content).1.WellFormed := by
  have same := sameLinks_create doc content
  refine wellFormed.of_sameLinks same fun {root} hroot => ?_
  rw [root_create] at hroot
  exact ⟨same.isElement (wellFormed.root_isElement hroot), by
    rw [same.parent?]
    exact wellFormed.root_detached hroot⟩

/-! # Setting the root -/

theorem setRoot_eq_ok_iff {doc changed : Document} {id : NodeId} :
    doc.setRoot id = ⟨changed, .ok ()⟩ ↔
      doc.isElement id = true ∧ doc.parent? id = none ∧ changed = { doc with root := some id } := by
  unfold setRoot parent?
  cases hnode : doc.node? id with
  | none =>
      constructor
      · intro h
        cases h
      · rintro ⟨helement, _⟩
        have := contains_iff.mp (contains_of_isElement helement)
        simp [hnode] at this
  | some node =>
      cases helement : doc.isElement id <;> cases hparent : node.parent <;>
        simp [hparent, eq_comm (a := changed)]

theorem setRoot_refused {doc left : Document} {id : NodeId} {error : EditError}
    (h : doc.setRoot id = ⟨left, .error error⟩) : left = doc := by
  unfold setRoot at h
  split at h
  · cases h
    rfl
  · split at h
    · cases h
      rfl
    · split at h
      · cases h
        rfl
      · cases h

theorem sameLinks_root (doc : Document) (root : Option NodeId) :
    SameLinks doc { doc with root := root } where
  parent? _ := rfl
  children _ := rfl
  next? _ := rfl
  previous? _ := rfl
  contains h := h
  isElement h := h

theorem WellFormed.setRoot {doc changed : Document} (wellFormed : doc.WellFormed) {id : NodeId}
    (h : doc.setRoot id = ⟨changed, .ok ()⟩) : changed.WellFormed := by
  rcases setRoot_eq_ok_iff.mp h with ⟨helement, hparent, rfl⟩
  refine wellFormed.of_sameLinks (sameLinks_root doc (some id)) fun {root} hroot => ?_
  cases hroot
  exact ⟨helement, hparent⟩

/-! # Setting an attribute -/

theorem setAttribute_eq_ok_iff {doc changed : Document} {id : NodeId} {name value : Text} :
    doc.setAttribute id name value = ⟨changed, .ok ()⟩ ↔
      exists element, doc.element? id = some element ∧
        changed = doc.modify id (fun node =>
          { node with content := .element { element with
              attributes := element.attributes.set name value } }) := by
  unfold setAttribute
  cases hcontains : doc.contains id with
  | false =>
      have hnone : doc.element? id = none := by
        rw [element?, node?_eq_none_of_not_contains (by simp [hcontains])]
      simp [hnone]
  | true =>
      cases helement : doc.element? id <;> simp [eq_comm (a := changed)]

theorem setAttribute_refused {doc left : Document} {id : NodeId} {name value : Text}
    {error : EditError} (h : doc.setAttribute id name value = ⟨left, .error error⟩) :
    left = doc := by
  unfold setAttribute at h
  split at h
  · cases h
    rfl
  · split at h
    · cases h
      rfl
    · cases h

theorem read_modify_content {α : Type} {doc : Document} {target : NodeId} (content : Content)
    (id : NodeId) (hdocument : target.document = doc.id) (read : Node -> α)
    (h : forall node, read { node with content := content } = read node) :
    ((doc.modify target fun node => { node with content := content }).node? id).map read =
      (doc.node? id).map read := by
  rw [node?_modify _ _ _ hdocument, Option.map_map]
  congr 1
  funext node
  by_cases hid : id = target
  · simp [hid, h]
  · simp [hid]

theorem sameLinks_modify_content {doc : Document} {target : NodeId} (element : Element)
    (h : target.document = doc.id) :
    SameLinks doc (doc.modify target fun node => { node with content := .element element }) := by
  constructor
  · intro id
    rw [parent?_eq, parent?_eq, read_modify_content _ id h Node.parent fun _ => rfl]
  · intro id
    rw [children_eq, children_eq, read_modify_content _ id h Node.children fun _ => rfl]
  · intro id
    rw [next?_eq, next?_eq, read_modify_content _ id h Node.next fun _ => rfl]
  · intro id
    rw [previous?_eq, previous?_eq, read_modify_content _ id h Node.previous fun _ => rfl]
  · intro id hcontains
    rw [contains, node?_modify _ _ _ h, Option.isSome_map]
    exact hcontains
  · intro id helement
    rcases isElement_iff.mp helement with ⟨held, hheld⟩
    rcases Option.map_eq_some_iff.mp hheld with ⟨node, hnode, hcontent⟩
    apply isElement_iff.mpr
    rw [content?, node?_modify _ _ _ h, hnode]
    by_cases hid : id = target
    · exact ⟨element, by simp [hid]⟩
    · exact ⟨held, by simp [hid, hcontent]⟩

theorem WellFormed.setAttribute {doc changed : Document} (wellFormed : doc.WellFormed)
    {id : NodeId} {name value : Text} (h : doc.setAttribute id name value = ⟨changed, .ok ()⟩) :
    changed.WellFormed := by
  rcases setAttribute_eq_ok_iff.mp h with ⟨element, helement, rfl⟩
  have hid : doc.isElement id = true := by rw [isElement, helement]; rfl
  have hdocument := (contains_iff_index.mp (contains_of_isElement hid)).1
  have same := sameLinks_modify_content
    { element with attributes := element.attributes.set name value } hdocument
  refine wellFormed.of_sameLinks same fun {root} hroot => ?_
  rw [root_modify] at hroot
  exact ⟨same.isElement (wellFormed.root_isElement hroot), by
    rw [same.parent?]
    exact wellFormed.root_detached hroot⟩

end Document
end TreeQuery
