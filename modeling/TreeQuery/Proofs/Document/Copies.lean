import Mathlib.Data.List.Nodup
import TreeQuery.Proofs.Document.Resemblance

/-!
# Copies of a tree

A tree is copied to a tree of another document, or of the same one after other trees have
changed, if the two resemble each other and neither hangs below another node.  Whatever is
reached from a node of the tree is then reached from its image, and nothing outside the tree is
reached at all.
-/

namespace TreeQuery
namespace Document

/-- A map takes the tree below a detached node to the tree below another one. -/
structure Copies (old new : Document) (image : NodeId -> NodeId) (top : NodeId) : Prop where
  resembles : Resembles old new image top
  wellFormed : old.WellFormed
  wellFormed' : new.WellFormed
  detached : old.parent? top = none
  detached' : new.parent? (image top) = none

namespace Copies

theorem refl {doc : Document} {top : NodeId} (wellFormed : doc.WellFormed)
    (hdetached : doc.parent? top = none) : Copies doc doc (fun id => id) top where
  resembles := ⟨fun _ _ => rfl, fun _ _ => (List.map_id' _).symm⟩
  wellFormed := wellFormed
  wellFormed' := wellFormed
  detached := hdetached
  detached' := hdetached

theorem trans {first second third : Document} {image image' : NodeId -> NodeId} {top : NodeId}
    (copies : Copies first second image top) (copies' : Copies second third image' (image top)) :
    Copies first third (fun id => image' (image id)) top where
  resembles := by
    have hmem : forall id, id ∈ first.subtree top -> image id ∈ second.subtree (image top) := by
      intro id hid
      rw [copies.resembles.subtree_image copies.wellFormed copies.wellFormed']
      exact List.mem_map_of_mem hid
    constructor
    · intro id hid
      rw [copies'.resembles.content? _ (hmem id hid), copies.resembles.content? id hid]
    · intro id hid
      rw [copies'.resembles.children _ (hmem id hid), copies.resembles.children id hid,
        List.map_map]
      rfl
  wellFormed := copies.wellFormed
  wellFormed' := copies'.wellFormed'
  detached := copies.detached
  detached' := copies'.detached'

end Copies

/-! # Walks stay in the tree -/

namespace WellFormed

variable {doc : Document} {top id : NodeId}

theorem eq_of_detached (wellFormed : doc.WellFormed) (h : id ∈ doc.subtree top)
    (hdetached : doc.parent? id = none) : id = top := by
  rcases wellFormed.mem_subtree_iff.mp h with hsame | habove
  · exact hsame
  · rw [wellFormed.ancestors_of_detached hdetached] at habove
    cases habove

theorem parent_mem_subtree (wellFormed : doc.WellFormed) (hdetached : doc.parent? top = none)
    (h : id ∈ doc.subtree top) {parent : NodeId} (hparent : doc.parent? id = some parent) :
    parent ∈ doc.subtree top := by
  rcases wellFormed.mem_subtree_iff.mp h with rfl | habove
  · rw [hdetached] at hparent
    cases hparent
  · rw [wellFormed.ancestors_of_parent hparent] at habove
    exact wellFormed.mem_subtree_iff.mpr ((List.mem_cons.mp habove).imp_left Eq.symm)

theorem ancestor_mem_subtree (wellFormed : doc.WellFormed) (hdetached : doc.parent? top = none)
    (h : id ∈ doc.subtree top) {ancestor : NodeId} (hancestor : ancestor ∈ doc.ancestors id) :
    ancestor ∈ doc.subtree top := by
  induction id using wellFormed.ends.induction with
  | _ id ih =>
      rcases wellFormed.mem_ancestors_iff.mp hancestor with ⟨parent, hparent, hcase⟩
      have hmem := wellFormed.parent_mem_subtree hdetached h hparent
      rcases hcase with rfl | habove
      · exact hmem
      · exact ih parent hparent hmem habove

theorem descendant_mem_subtree (wellFormed : doc.WellFormed) (h : id ∈ doc.subtree top)
    {descendant : NodeId} (hdescendant : descendant ∈ doc.descendants id) :
    descendant ∈ doc.subtree top := by
  have hbelow : descendant ∈ doc.subtree id := by
    rw [wellFormed.subtree_eq_cons_descendants]
    exact List.mem_cons_of_mem _ hdescendant
  exact wellFormed.mem_subtree_trans hbelow h

theorem preceding_mem_subtree (wellFormed : doc.WellFormed) (hdetached : doc.parent? top = none)
    (h : id ∈ doc.subtree top) {sibling : NodeId} (hsibling : sibling ∈ doc.precedingSiblings id) :
    sibling ∈ doc.subtree top := by
  cases hparent : doc.parent? id with
  | none =>
      rw [wellFormed.precedingSiblings_of_detached hparent] at hsibling
      cases hsibling
  | some parent =>
      rcases wellFormed.exists_split hparent with ⟨before, after, hchildren⟩
      rw [wellFormed.precedingSiblings_eq hchildren] at hsibling
      have hchild : sibling ∈ doc.children parent := by
        rw [hchildren]
        exact List.mem_append_left _ (List.mem_reverse.mp hsibling)
      exact wellFormed.child_mem_subtree (wellFormed.parent_mem_subtree hdetached h hparent) hchild

end WellFormed

/-! # Walks and their images -/

theorem payload?_eq (doc : Document) (id : NodeId) :
    doc.payload? id =
      match doc.content? id with
      | some (.text payload) => some payload
      | _ => none := by
  unfold payload? content?
  cases doc.node? id with
  | none => rfl
  | some node =>
      obtain ⟨content, _, _, _, _⟩ := node
      cases content <;> rfl

theorem idxOf?_map {α β : Type} [DecidableEq α] [DecidableEq β] {image : α -> β}
    {items : List α} {item : α}
    (h : forall other, other ∈ items -> image other = image item -> other = item) :
    (items.map image).idxOf? (image item) = items.idxOf? item := by
  induction items with
  | nil => rfl
  | cons head rest ih =>
      have hhead : (image head == image item) = (head == item) := by
        rw [Bool.eq_iff_iff, beq_iff_eq, beq_iff_eq]
        exact ⟨h head List.mem_cons_self, fun hsame => hsame ▸ rfl⟩
      rw [List.map_cons, List.idxOf?_cons, List.idxOf?_cons, hhead,
        ih fun other hother => h other (List.mem_cons_of_mem _ hother)]

namespace Copies

variable {old new : Document} {image : NodeId -> NodeId} {top id : NodeId}

theorem injective (copies : Copies old new image top) {first second : NodeId}
    (hfirst : first ∈ old.subtree top) (hsecond : second ∈ old.subtree top)
    (h : image first = image second) : first = second := by
  have hnodup := copies.wellFormed'.nodup_subtree (image top)
  rw [copies.resembles.subtree_image copies.wellFormed copies.wellFormed'] at hnodup
  exact List.inj_on_of_nodup_map hnodup hfirst hsecond h

theorem element?_image (copies : Copies old new image top) (h : id ∈ old.subtree top) :
    new.element? (image id) = old.element? id := by
  rw [element?_eq, copies.resembles.content? id h, element?_eq]

theorem isElement_image (copies : Copies old new image top) (h : id ∈ old.subtree top) :
    new.isElement (image id) = old.isElement id := by
  rw [isElement, copies.element?_image h, isElement]

theorem payload?_image (copies : Copies old new image top) (h : id ∈ old.subtree top) :
    new.payload? (image id) = old.payload? id := by
  rw [payload?_eq, copies.resembles.content? id h, payload?_eq]

theorem parent?_image (copies : Copies old new image top) (h : id ∈ old.subtree top) :
    new.parent? (image id) = (old.parent? id).map image := by
  cases hparent : old.parent? id with
  | none =>
      rw [copies.wellFormed.eq_of_detached h hparent]
      exact copies.detached'
  | some parent =>
      have hmem := copies.wellFormed.parent_mem_subtree copies.detached h hparent
      have hchild : image id ∈ new.children (image parent) := by
        rw [copies.resembles.children parent hmem]
        exact List.mem_map_of_mem (copies.wellFormed.mem_children hparent)
      exact copies.wellFormed'.parent?_of_mem hchild

theorem ancestors_image (copies : Copies old new image top) (h : id ∈ old.subtree top) :
    new.ancestors (image id) = (old.ancestors id).map image := by
  induction id using copies.wellFormed.ends.induction with
  | _ id ih =>
      have hparent' := copies.parent?_image h
      cases hparent : old.parent? id with
      | none =>
          rw [hparent] at hparent'
          rw [copies.wellFormed'.ancestors_of_detached hparent',
            copies.wellFormed.ancestors_of_detached hparent, List.map_nil]
      | some parent =>
          rw [hparent] at hparent'
          have hmem := copies.wellFormed.parent_mem_subtree copies.detached h hparent
          rw [copies.wellFormed'.ancestors_of_parent hparent',
            copies.wellFormed.ancestors_of_parent hparent, ih parent hparent hmem, List.map_cons]

theorem descendants_image (copies : Copies old new image top) (h : id ∈ old.subtree top) :
    new.descendants (image id) = (old.descendants id).map image := by
  have hsubtree := (copies.resembles.below copies.wellFormed h).subtree_image copies.wellFormed
    copies.wellFormed'
  rw [copies.wellFormed'.subtree_eq_cons_descendants,
    copies.wellFormed.subtree_eq_cons_descendants, List.map_cons] at hsubtree
  exact (List.cons.inj hsubtree).2

theorem children_split (copies : Copies old new image top) (h : id ∈ old.subtree top)
    {parent : NodeId} {before after : List NodeId} (hparent : old.parent? id = some parent)
    (hchildren : old.children parent = before ++ id :: after) :
    new.children (image parent) = before.map image ++ image id :: after.map image := by
  have hmem := copies.wellFormed.parent_mem_subtree copies.detached h hparent
  rw [copies.resembles.children parent hmem, hchildren, List.map_append, List.map_cons]

theorem precedingSiblings_image (copies : Copies old new image top) (h : id ∈ old.subtree top) :
    new.precedingSiblings (image id) = (old.precedingSiblings id).map image := by
  have hparent' := copies.parent?_image h
  cases hparent : old.parent? id with
  | none =>
      rw [hparent] at hparent'
      rw [copies.wellFormed'.precedingSiblings_of_detached hparent',
        copies.wellFormed.precedingSiblings_of_detached hparent, List.map_nil]
  | some parent =>
      rcases copies.wellFormed.exists_split hparent with ⟨before, after, hchildren⟩
      rw [copies.wellFormed.precedingSiblings_eq hchildren,
        copies.wellFormed'.precedingSiblings_eq (copies.children_split h hparent hchildren),
        List.map_reverse]

theorem indexInParent?_image (copies : Copies old new image top) (h : id ∈ old.subtree top) :
    new.indexInParent? (image id) = old.indexInParent? id := by
  have hparent' := copies.parent?_image h
  unfold indexInParent?
  cases hparent : old.parent? id with
  | none =>
      rw [hparent] at hparent'
      simp [hparent']
  | some parent =>
      rw [hparent] at hparent'
      have hmem := copies.wellFormed.parent_mem_subtree copies.detached h hparent
      simp only [hparent', Option.map_some]
      rw [copies.resembles.children parent hmem]
      apply idxOf?_map
      intro other hother hsame
      exact copies.injective (copies.wellFormed.child_mem_subtree hmem hother) h hsame

theorem text_image (copies : Copies old new image top) (h : id ∈ old.subtree top) :
    new.text (image id) = old.text id := by
  have hpieces : (new.descendants (image id)).filterMap new.payload? =
      (old.descendants id).filterMap old.payload? := by
    rw [copies.descendants_image h, List.filterMap_map]
    apply List.filterMap_congr
    intro descendant hdescendant
    exact copies.payload?_image (copies.wellFormed.descendant_mem_subtree h hdescendant)
  rw [text, copies.payload?_image h, text, hpieces]

end Copies
end Document
end TreeQuery
