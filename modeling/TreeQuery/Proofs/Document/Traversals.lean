import Mathlib.Data.List.Nodup
import TreeQuery.Proofs.Document.History
import TreeQuery.Proofs.Document.Preorder
import TreeQuery.Proofs.Document.Siblings

/-!
# Traversals

A document is walked downwards with the nodes that are still to be visited, upwards along the
parents, and to the left along the neighbours, and the place of a node is looked up in the child
list of its parent.  Every walk comes to its end, and all of them describe the same tree.
-/

namespace TreeQuery
namespace Document

/-! # Visiting what is pending -/

/-- The nodes on the way when the first of the pending nodes is visited and its children are put
in its place, until nothing is pending. -/
inductive Visits (doc : Document) : List NodeId -> List NodeId -> Prop where
  | stop : Visits doc [] []
  | go {id : NodeId} {pending rest : List NodeId} :
      Visits doc (doc.children id ++ pending) rest -> Visits doc (id :: pending) (id :: rest)

theorem Visits.append {doc : Document} {first second visited visited' : List NodeId}
    (hfirst : Visits doc first visited) (hsecond : Visits doc second visited') :
    Visits doc (first ++ second) (visited ++ visited') := by
  induction hfirst with
  | stop => exact hsecond
  | go _ ih =>
      rw [List.append_assoc] at ih
      exact Visits.go ih

theorem Visits.flatMap {doc : Document} {ids : List NodeId}
    (h : forall id, id ∈ ids -> Visits doc [id] (doc.subtree id)) :
    Visits doc ids (ids.flatMap doc.subtree) := by
  induction ids with
  | nil => exact Visits.stop
  | cons id rest ih =>
      rw [List.flatMap_cons]
      exact (h id List.mem_cons_self).append (ih fun id hid => h id (List.mem_cons_of_mem _ hid))

namespace WellFormed

variable {doc : Document}

theorem visits_subtree (wellFormed : doc.WellFormed) (id : NodeId) :
    Visits doc [id] (doc.subtree id) := by
  induction id using wellFormed.children_induction with
  | step id ih =>
      rw [wellFormed.subtree_eq]
      apply Visits.go
      rw [List.append_nil]
      exact Visits.flatMap ih

theorem visits_descendants (wellFormed : doc.WellFormed) (id : NodeId) :
    Visits doc (doc.children id) (doc.descendants id) := by
  rw [wellFormed.descendants_eq]
  exact Visits.flatMap fun child _ => wellFormed.visits_subtree child

/-! # Below and above -/

theorem descendants_eq_flatMap (wellFormed : doc.WellFormed) (id : NodeId) :
    doc.descendants id =
      (doc.children id).flatMap (fun child => child :: doc.descendants child) := by
  rw [wellFormed.descendants_eq]
  apply List.flatMap_congr
  intro child _
  exact wellFormed.subtree_eq_cons_descendants child

theorem nodup_cons_descendants (wellFormed : doc.WellFormed) (id : NodeId) :
    (id :: doc.descendants id).Nodup := by
  rw [← wellFormed.subtree_eq_cons_descendants]
  exact wellFormed.nodup_subtree id

theorem nodup_descendants (wellFormed : doc.WellFormed) (id : NodeId) :
    (doc.descendants id).Nodup :=
  (List.nodup_cons.mp (wellFormed.nodup_cons_descendants id)).2

theorem mem_descendants_iff (wellFormed : doc.WellFormed) {id node : NodeId} :
    node ∈ doc.descendants id ↔ id ∈ doc.ancestors node := by
  have hsubtree : node ∈ doc.subtree id ↔ node = id ∨ id ∈ doc.ancestors node :=
    wellFormed.mem_subtree_iff
  rw [wellFormed.subtree_eq_cons_descendants, List.mem_cons] at hsubtree
  constructor
  · intro hbelow
    rcases hsubtree.mp (Or.inr hbelow) with hsame | habove
    · rw [hsame] at hbelow
      exact absurd hbelow (List.nodup_cons.mp (wellFormed.nodup_cons_descendants id)).1
    · exact habove
  · intro habove
    rcases hsubtree.mpr (Or.inr habove) with hsame | hbelow
    · rw [hsame] at habove
      exact absurd habove (wellFormed.not_mem_ancestors_self id)
    · exact hbelow

/-! # Beside -/

theorem previous_trail_precedingSiblings (wellFormed : doc.WellFormed) (id : NodeId) :
    Trail doc.previous? (doc.previous? id) (doc.precedingSiblings id) := by
  cases hparent : doc.parent? id with
  | none =>
      rw [wellFormed.precedingSiblings_of_detached hparent,
        wellFormed.previous_of_detached hparent]
      exact Trail.stop
  | some parent =>
      rcases wellFormed.exists_split hparent with ⟨before, after, hsplit⟩
      rw [wellFormed.precedingSiblings_eq hsplit]
      exact wellFormed.previous_trail hsplit

theorem indexInParent?_eq_some_iff (wellFormed : doc.WellFormed) {parent id : NodeId}
    (h : doc.parent? id = some parent) {place : Nat} :
    doc.indexInParent? id = some place ↔ (doc.children parent)[place]? = some id := by
  have hlookup : doc.indexInParent? id = (doc.children parent).idxOf? id := by
    rw [indexInParent?, h]
  rw [hlookup, List.idxOf?_eq_some_iff, List.getElem?_eq_some_iff]
  constructor
  · intro hindex
    rcases hindex with ⟨hplace, hid, _⟩
    exact ⟨hplace, hid⟩
  · intro hheld
    rcases hheld with ⟨hplace, hid⟩
    refine ⟨hplace, hid, ?_⟩
    intro earlier hearlier hsame
    have hplaces : earlier = place :=
      (wellFormed.nodup_children parent).getElem_inj_iff.mp (hsame.trans hid.symm)
    omega

theorem exists_place (wellFormed : doc.WellFormed) {parent id : NodeId}
    (h : doc.parent? id = some parent) :
    exists place : Nat, (doc.children parent)[place]? = some id :=
  List.mem_iff_getElem?.mp (wellFormed.mem_children h)

theorem precedingSiblings_of_place (wellFormed : doc.WellFormed) {parent id : NodeId} {place : Nat}
    (h : (doc.children parent)[place]? = some id) :
    doc.precedingSiblings id = ((doc.children parent).take place).reverse := by
  rcases List.getElem?_eq_some_iff.mp h with ⟨hplace, hid⟩
  have hsplit : doc.children parent =
      (doc.children parent).take place ++ id :: (doc.children parent).drop (place + 1) := by
    rw [← hid, ← List.drop_eq_getElem_cons hplace, List.take_append_drop]
  exact wellFormed.precedingSiblings_eq hsplit

theorem indexInParent?_of_detached {id : NodeId} (h : doc.parent? id = none) :
    doc.indexInParent? id = none := by
  rw [indexInParent?, h]

end WellFormed

/-- Every walk ends without visiting a node twice.  The nodes below a node are the ones that it is
above, in preorder, and the nodes before it are those at earlier places among the children of its
parent. -/
theorem traversals_agree {doc : Document} (reachable : doc.Reachable) (id : NodeId) :
    (Visits doc (doc.children id) (doc.descendants id) ∧
      (doc.descendants id).Nodup ∧
      doc.descendants id =
        (doc.children id).flatMap (fun child => child :: doc.descendants child) ∧
      forall node, node ∈ doc.descendants id ↔ id ∈ doc.ancestors node) ∧
    (Trail doc.parent? (doc.parent? id) (doc.ancestors id) ∧ (doc.ancestors id).Nodup) ∧
    Trail doc.previous? (doc.previous? id) (doc.precedingSiblings id) ∧
    (forall parent, doc.parent? id = some parent -> exists place,
      doc.indexInParent? id = some place ∧
      (forall other, (doc.children parent)[other]? = some id ↔ other = place) ∧
      doc.precedingSiblings id = ((doc.children parent).take place).reverse) ∧
    (doc.parent? id = none -> doc.indexInParent? id = none ∧ doc.precedingSiblings id = []) := by
  have wellFormed := reachable.wellFormed
  refine ⟨⟨wellFormed.visits_descendants id, wellFormed.nodup_descendants id,
      wellFormed.descendants_eq_flatMap id, fun _ => wellFormed.mem_descendants_iff⟩,
    ⟨wellFormed.ancestors_trail id, wellFormed.nodup_ancestors id⟩,
    wellFormed.previous_trail_precedingSiblings id, ?_, ?_⟩
  · intro parent hparent
    rcases wellFormed.exists_place hparent with ⟨place, hplace⟩
    have hindex := (wellFormed.indexInParent?_eq_some_iff hparent).mpr hplace
    refine ⟨place, hindex, ?_, wellFormed.precedingSiblings_of_place hplace⟩
    intro other
    rw [← wellFormed.indexInParent?_eq_some_iff hparent, hindex, Option.some.injEq, eq_comm]
  · intro hdetached
    exact ⟨WellFormed.indexInParent?_of_detached hdetached,
      wellFormed.precedingSiblings_of_detached hdetached⟩

theorem traversals_agree_twoItems :
    twoItems.Reachable ∧
    Visits twoItems [⟨0, 1⟩, ⟨0, 2⟩, ⟨0, 3⟩] [⟨0, 1⟩, ⟨0, 2⟩, ⟨0, 3⟩] ∧
    ⟨0, 3⟩ ∈ twoItems.descendants ⟨0, 0⟩ ∧
    twoItems.indexInParent? ⟨0, 3⟩ = some 2 ∧
    twoItems.precedingSiblings ⟨0, 3⟩ = [⟨0, 2⟩, ⟨0, 1⟩] ∧
    twoItems.precedingSiblings ⟨0, 0⟩ = [] := by
  rcases traversals_agree reachable_twoItems ⟨0, 0⟩ with ⟨⟨hvisits, _, _, hbelow⟩, _, _, _, htop⟩
  rcases traversals_agree reachable_twoItems ⟨0, 3⟩ with ⟨_, _, _, hbeside, _⟩
  rcases hbeside ⟨0, 0⟩ rfl with ⟨place, hindex, hplace, hpreceding⟩
  cases (hplace 2).mp rfl
  exact ⟨reachable_twoItems, hvisits, (hbelow ⟨0, 3⟩).mpr (by decide), hindex, hpreceding,
    (htop rfl).2⟩

end Document
end TreeQuery
