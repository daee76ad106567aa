import TreeQuery.Proofs.Document.Copies
import TreeQuery.Proofs.Document.History

/-!
# Changes elsewhere

A change that names no node of a tree leaves the tree as it is, whatever it does to the nodes that
it names and however many nodes it adds to the document.
-/

namespace TreeQuery
namespace Document

def Change.named : Change -> List NodeId
  | .createElement _ _ => []
  | .createText _ => []
  | .appendChild parent child => [parent, child]
  | .setRoot id => [id]
  | .setAttribute id _ _ => [id]
  | .build _ => []

section Elsewhere

variable {doc new : Document} {top : NodeId}

theorem Copies.of_links (wellFormed : doc.WellFormed) (wellFormed' : new.WellFormed)
    (hdetached : doc.parent? top = none)
    (hcontent : forall id, id ∈ doc.subtree top -> new.content? id = doc.content? id)
    (hchildren : forall id, id ∈ doc.subtree top -> new.children id = doc.children id)
    (hparent : new.parent? top = doc.parent? top) : Copies doc new (fun id => id) top where
  resembles := ⟨hcontent, fun id hid => (hchildren id hid).trans (List.map_id' _).symm⟩
  wellFormed := wellFormed
  wellFormed' := wellFormed'
  detached := hdetached
  detached' := hparent.trans hdetached

theorem Copies.of_node? (wellFormed : doc.WellFormed) (wellFormed' : new.WellFormed)
    (hdetached : doc.parent? top = none)
    (hnode : forall id, id ∈ doc.subtree top -> new.node? id = doc.node? id) :
    Copies doc new (fun id => id) top := by
  apply Copies.of_links wellFormed wellFormed' hdetached
  · intro id hid
    rw [content?, hnode id hid, content?]
  · intro id hid
    rw [children_eq, hnode id hid, children_eq]
  · rw [parent?, hnode top (wellFormed.self_mem_subtree top), parent?]

theorem copies_create (wellFormed : doc.WellFormed) (htop : doc.contains top = true)
    (hdetached : doc.parent? top = none) (content : Content) :
    Copies doc (doc.create content).1 (fun id => id) top := by
  apply Copies.of_node? wellFormed (wellFormed.create content) hdetached
  intro id hid
  rw [node?_create, if_neg]
  rintro rfl
  exact not_contains_fresh doc (wellFormed.contains_of_mem_subtree htop hid)

theorem copies_attempt (wellFormed : doc.WellFormed) (htop : doc.contains top = true)
    (hdetached : doc.parent? top = none) {change : Change}
    (houtside : forall id, id ∈ change.named -> id ∉ doc.subtree top)
    (h : doc.attempt change = ⟨new, .ok ()⟩) : Copies doc new (fun id => id) top := by
  have wellFormed' := wellFormed.attempt h
  cases change with
  | createElement tag attributes =>
      cases h
      exact copies_create wellFormed htop hdetached _
  | createText payload =>
      cases h
      exact copies_create wellFormed htop hdetached _
  | appendChild parent child =>
      rcases appendChild_eq_ok_iff.mp h with ⟨attachable, rfl⟩
      apply Copies.of_links wellFormed wellFormed' hdetached
      · intro id _
        exact wellFormed.content?_attach attachable id
      · intro id hid
        rw [wellFormed.children_attach attachable, if_neg]
        rintro rfl
        exact houtside id (by simp [Change.named]) hid
      · rw [wellFormed.parent?_attach attachable, if_neg]
        rintro rfl
        exact houtside top (by simp [Change.named]) (wellFormed.self_mem_subtree top)
  | setRoot id =>
      rcases setRoot_eq_ok_iff.mp h with ⟨_, _, rfl⟩
      exact Copies.of_node? wellFormed wellFormed' hdetached fun _ _ => rfl
  | setAttribute target name value =>
      rcases setAttribute_eq_ok_iff.mp h with ⟨element, helement, rfl⟩
      have htarget : doc.isElement target = true := by
        rw [isElement, helement]
        rfl
      have hdocument := (contains_iff_index.mp (contains_of_isElement htarget)).1
      apply Copies.of_node? wellFormed wellFormed' hdetached
      intro id hid
      have hne : id ≠ target := by
        rintro rfl
        exact houtside id (by simp [Change.named]) hid
      rw [node?_modify _ _ _ hdocument]
      simp [hne]
  | build tree =>
      rcases exists_build wellFormed tree with ⟨grown, hbuild, built⟩
      rw [attempt_build hbuild] at h
      cases h
      apply Copies.of_node? wellFormed wellFormed' hdetached
      intro id hid
      exact built.node? id (wellFormed.contains_of_mem_subtree htop hid)

theorem copies_after (wellFormed : doc.WellFormed) (htop : doc.contains top = true)
    (hdetached : doc.parent? top = none) {change : Change}
    (houtside : forall id, id ∈ change.named -> id ∉ doc.subtree top) :
    Copies doc (doc.after change) (fun id => id) top := by
  unfold Document.after
  rcases h : doc.attempt change with ⟨left, error | made⟩
  · rw [wellFormed.attempt_refused h]
    exact Copies.refl wellFormed hdetached
  · exact copies_attempt wellFormed htop hdetached houtside h

theorem Copies.contains_top (copies : Copies doc new (fun id => id) top)
    (htop : doc.contains top = true) : new.contains top = true := by
  have hcontent := copies.resembles.content? top (copies.wellFormed.self_mem_subtree top)
  rcases exists_content? htop with ⟨content, hheld⟩
  exact contains_of_content? (hcontent.trans hheld)

/-- A tree stays as it is through changes that name none of its nodes. -/
theorem copies_run (wellFormed : doc.WellFormed) (htop : doc.contains top = true)
    (hdetached : doc.parent? top = none) (changes : List Change)
    (houtside : forall change, change ∈ changes ->
      forall id, id ∈ change.named -> id ∉ doc.subtree top) :
    Copies doc (doc.run changes) (fun id => id) top := by
  induction changes generalizing doc with
  | nil => exact Copies.refl wellFormed hdetached
  | cons change rest ih =>
      have copies := copies_after wellFormed htop hdetached (houtside change List.mem_cons_self)
      have hsubtree := copies.resembles.subtree_image wellFormed copies.wellFormed'
      rw [List.map_id'] at hsubtree
      refine copies.trans (ih copies.wellFormed' (copies.contains_top htop) copies.detached' ?_)
      intro other hother id hid
      rw [hsubtree]
      exact houtside other (List.mem_cons_of_mem _ hother) id hid

end Elsewhere
end Document
end TreeQuery
