import Mathlib.Data.List.Basic
import TreeQuery.Proofs.Document.WellFormed

/-!
# Preorder

The subtree of a node is listed by recursion: the node itself, then the subtrees of its children
one after the other.  The walk with a list of pending nodes gives the same order, and no node
comes twice.
-/

namespace TreeQuery
namespace Document

def subtreeWithin (doc : Document) : Nat -> NodeId -> List NodeId
  | 0, _ => []
  | depth + 1, id => id :: (doc.children id).flatMap (doc.subtreeWithin depth)

theorem subtreeWithin_congr {doc : Document} {first second : Nat} {id : NodeId}
    (h : forall child, child ∈ doc.children id ->
      doc.subtreeWithin first child = doc.subtreeWithin second child) :
    doc.subtreeWithin (first + 1) id = doc.subtreeWithin (second + 1) id := by
  rw [subtreeWithin, subtreeWithin, List.flatMap_congr h]

/-- The nodes of a subtree, each before what is below it, and children in their order.  No branch
is longer than the document. -/
def subtree (doc : Document) (id : NodeId) : List NodeId :=
  doc.subtreeWithin (doc.size + 1) id

namespace WellFormed

variable {doc : Document}

theorem length_ancestors_le (wellFormed : doc.WellFormed) (id : NodeId) :
    (doc.ancestors id).length ≤ doc.size :=
  length_le_size (wellFormed.nodup_ancestors id)
    (fun _ hancestor => wellFormed.contains_of_mem_ancestors hancestor)

theorem ancestors_of_child (wellFormed : doc.WellFormed) {id child : NodeId}
    (h : child ∈ doc.children id) : doc.ancestors child = id :: doc.ancestors id :=
  wellFormed.ancestors_of_parent (wellFormed.parent?_of_mem h)

theorem length_ancestors_of_child (wellFormed : doc.WellFormed) {id child : NodeId}
    (h : child ∈ doc.children id) :
    (doc.ancestors child).length = (doc.ancestors id).length + 1 := by
  rw [wellFormed.ancestors_of_child h]
  rfl

/-- What holds of a node as soon as it holds of its children holds of every node.  Children have
one ancestor more than their parent, and there are only so many nodes. -/
theorem children_induction (wellFormed : doc.WellFormed) {motive : NodeId -> Prop}
    (step : forall id, (forall child, child ∈ doc.children id -> motive child) -> motive id)
    (id : NodeId) : motive id := by
  generalize hroom : doc.size - (doc.ancestors id).length = room
  induction room using Nat.strongRecOn generalizing id with
  | _ room ih =>
      apply step
      intro child hchild
      have hlength := wellFormed.length_ancestors_of_child hchild
      have hbound := wellFormed.length_ancestors_le child
      exact ih (doc.size - (doc.ancestors child).length) (by omega) child rfl

/-! # The recursion does not run out of depth -/

/-- What is made at a node of what is made at its children, with one level less, does not depend on
the number of levels if there are enough for the longest branch. -/
theorem within_eq (wellFormed : doc.WellFormed) {α : Type} (within : Nat -> NodeId -> α)
    (hbelow : forall {first second : Nat} {id : NodeId},
      (forall child, child ∈ doc.children id -> within first child = within second child) ->
        within (first + 1) id = within (second + 1) id)
    {first second : Nat} {id : NodeId} (hfirst : doc.size < first + (doc.ancestors id).length)
    (hsecond : doc.size < second + (doc.ancestors id).length) :
    within first id = within second id := by
  have hbound := wellFormed.length_ancestors_le id
  induction first generalizing second id with
  | zero => omega
  | succ first ih =>
      cases second with
      | zero => omega
      | succ second =>
          apply hbelow
          intro child hchild
          have hlength := wellFormed.length_ancestors_of_child hchild
          exact ih (by omega) (by omega) (wellFormed.length_ancestors_le child)

theorem subtree_eq (wellFormed : doc.WellFormed) (id : NodeId) :
    doc.subtree id = id :: (doc.children id).flatMap doc.subtree := by
  rw [subtree, subtreeWithin]
  congr 1
  apply List.flatMap_congr
  intro child hchild
  have hlength := wellFormed.length_ancestors_of_child hchild
  exact wellFormed.within_eq doc.subtreeWithin subtreeWithin_congr (by omega) (by omega)

/-! # Which nodes are listed -/

theorem self_mem_subtree (wellFormed : doc.WellFormed) (id : NodeId) : id ∈ doc.subtree id := by
  rw [wellFormed.subtree_eq]
  exact List.mem_cons_self

theorem mem_subtree_of_child (wellFormed : doc.WellFormed) {id child node : NodeId}
    (hchild : child ∈ doc.children id) (h : node ∈ doc.subtree child) :
    node ∈ doc.subtree id := by
  rw [wellFormed.subtree_eq]
  exact List.mem_cons_of_mem _ (List.mem_flatMap.mpr ⟨child, hchild, h⟩)

theorem child_mem_subtree (wellFormed : doc.WellFormed) {top id child : NodeId}
    (h : id ∈ doc.subtree top) (hchild : child ∈ doc.children id) : child ∈ doc.subtree top := by
  induction top using wellFormed.children_induction with
  | step top ih =>
      rw [wellFormed.subtree_eq] at h
      cases h with
      | head => exact wellFormed.mem_subtree_of_child hchild (wellFormed.self_mem_subtree child)
      | tail _ h =>
          rcases List.mem_flatMap.mp h with ⟨below, hbelow, h⟩
          exact wellFormed.mem_subtree_of_child hbelow (ih below hbelow h)

theorem mem_subtree_iff (wellFormed : doc.WellFormed) {top id : NodeId} :
    id ∈ doc.subtree top ↔ id = top ∨ top ∈ doc.ancestors id := by
  constructor
  · intro h
    induction top using wellFormed.children_induction with
    | step top ih =>
        rw [wellFormed.subtree_eq] at h
        cases h with
        | head => exact Or.inl rfl
        | tail _ h =>
            rcases List.mem_flatMap.mp h with ⟨child, hchild, h⟩
            have htop : top ∈ doc.ancestors child := by
              rw [wellFormed.ancestors_of_child hchild]
              exact List.mem_cons_self
            rcases ih child hchild h with hid | hid
            · rw [hid]
              exact Or.inr htop
            · exact Or.inr (wellFormed.mem_ancestors_trans hid htop)
  · intro h
    induction id using wellFormed.ends.induction with
    | _ id ih =>
        rcases h with hid | hid
        · rw [hid]
          exact wellFormed.self_mem_subtree top
        · rcases wellFormed.mem_ancestors_iff.mp hid with ⟨parent, hparent, hcase⟩
          have hmem : parent ∈ doc.subtree top :=
            ih parent hparent (hcase.imp Eq.symm (fun h => h))
          exact wellFormed.child_mem_subtree hmem (wellFormed.mem_children hparent)

theorem mem_subtree_trans (wellFormed : doc.WellFormed) {low middle high : NodeId}
    (hlow : low ∈ doc.subtree middle) (hmiddle : middle ∈ doc.subtree high) :
    low ∈ doc.subtree high := by
  rcases wellFormed.mem_subtree_iff.mp hlow with hsame | habove
  · rw [hsame]
    exact hmiddle
  · rcases wellFormed.mem_subtree_iff.mp hmiddle with hsame | habove'
    · rw [← hsame]
      exact hlow
    · exact wellFormed.mem_subtree_iff.mpr
        (Or.inr (wellFormed.mem_ancestors_trans habove habove'))

theorem contains_of_mem_subtree (wellFormed : doc.WellFormed) {top id : NodeId}
    (htop : doc.contains top = true) (h : id ∈ doc.subtree top) : doc.contains id = true := by
  rcases wellFormed.mem_subtree_iff.mp h with hid | hid
  · rw [hid]
    exact htop
  · rcases wellFormed.mem_ancestors_iff.mp hid with ⟨parent, hparent, _⟩
    exact contains_of_parent? hparent

/-! # No node is listed twice -/

theorem ancestors_linear (wellFormed : doc.WellFormed) {id first second : NodeId}
    (hfirst : first ∈ doc.ancestors id) (hsecond : second ∈ doc.ancestors id) :
    first = second ∨ first ∈ doc.ancestors second ∨ second ∈ doc.ancestors first := by
  induction id using wellFormed.ends.induction with
  | _ id ih =>
      rcases wellFormed.mem_ancestors_iff.mp hfirst with ⟨parent, hparent, hfirst⟩
      rcases wellFormed.mem_ancestors_iff.mp hsecond with ⟨parent', hparent', hsecond⟩
      rw [hparent] at hparent'
      cases hparent'
      rcases hfirst with hfirst | hfirst <;> rcases hsecond with hsecond | hsecond
      · exact Or.inl (hfirst.trans hsecond.symm)
      · rw [hfirst]
        exact Or.inr (Or.inr hsecond)
      · rw [hsecond]
        exact Or.inr (Or.inl hfirst)
      · exact ih parent hparent hfirst hsecond

theorem sibling_not_mem_ancestors (wellFormed : doc.WellFormed) {id first second : NodeId}
    (hfirst : first ∈ doc.children id) (hsecond : second ∈ doc.children id) :
    first ∉ doc.ancestors second := by
  intro h
  rw [wellFormed.ancestors_of_child hsecond] at h
  have hid : id ∈ doc.ancestors first := by
    rw [wellFormed.ancestors_of_child hfirst]
    exact List.mem_cons_self
  cases h with
  | head => exact wellFormed.not_mem_ancestors_self _ hid
  | tail _ h => exact wellFormed.not_mem_ancestors_self _ (wellFormed.mem_ancestors_trans h hid)

theorem siblings_disjoint (wellFormed : doc.WellFormed) {id first second node : NodeId}
    (hfirst : first ∈ doc.children id) (hsecond : second ∈ doc.children id)
    (hnodeFirst : node ∈ doc.subtree first) (hnodeSecond : node ∈ doc.subtree second) :
    first = second := by
  rcases wellFormed.mem_subtree_iff.mp hnodeFirst with h | h <;>
    rcases wellFormed.mem_subtree_iff.mp hnodeSecond with h' | h'
  · exact h.symm.trans h'
  · rw [h] at h'
    exact absurd h' (wellFormed.sibling_not_mem_ancestors hsecond hfirst)
  · rw [h'] at h
    exact absurd h (wellFormed.sibling_not_mem_ancestors hfirst hsecond)
  · rcases wellFormed.ancestors_linear h h' with hsame | habove | habove
    · exact hsame
    · exact absurd habove (wellFormed.sibling_not_mem_ancestors hfirst hsecond)
    · exact absurd habove (wellFormed.sibling_not_mem_ancestors hsecond hfirst)

theorem nodup_subtree (wellFormed : doc.WellFormed) (id : NodeId) : (doc.subtree id).Nodup := by
  induction id using wellFormed.children_induction with
  | step id ih =>
      rw [wellFormed.subtree_eq]
      refine List.nodup_cons.mpr ⟨fun hmem => ?_, ?_⟩
      · rcases List.mem_flatMap.mp hmem with ⟨child, hchild, hmem⟩
        rcases wellFormed.mem_subtree_iff.mp hmem with hid | hid
        · exact wellFormed.ne_of_mem_children hchild hid.symm
        · have hself : id ∈ doc.ancestors child := by
            rw [wellFormed.ancestors_of_child hchild]
            exact List.mem_cons_self
          exact wellFormed.not_mem_ancestors_self id (wellFormed.mem_ancestors_trans hid hself)
      · refine List.pairwise_flatMap.mpr ⟨ih, ?_⟩
        refine (wellFormed.nodup_children id).imp_of_mem ?_
        intro first second hfirst hsecond hne node hnode node' hnode' hsame
        rw [← hsame] at hnode'
        exact hne (wellFormed.siblings_disjoint hfirst hsecond hnode hnode')

theorem length_subtree_le (wellFormed : doc.WellFormed) {id : NodeId}
    (h : doc.contains id = true) : (doc.subtree id).length ≤ doc.size :=
  length_le_size (wellFormed.nodup_subtree id)
    (fun _ hnode => wellFormed.contains_of_mem_subtree h hnode)

/-! # The walk with pending nodes -/

/-- The walk lists the subtrees of the pending nodes, as far as its steps reach. -/
theorem preorder_eq_take (wellFormed : doc.WellFormed) (fuel : Nat) (pending : List NodeId) :
    doc.preorder fuel pending = (pending.flatMap doc.subtree).take fuel := by
  induction fuel generalizing pending with
  | zero => rw [preorder, List.take_zero]
  | succ fuel ih =>
      cases pending with
      | nil => rw [preorder, List.flatMap_nil, List.take_nil]
      | cons id pending =>
          rw [preorder, ih, List.flatMap_cons, wellFormed.subtree_eq id, List.cons_append,
            List.take_succ_cons, List.flatMap_append]

theorem descendants_eq (wellFormed : doc.WellFormed) (id : NodeId) :
    doc.descendants id = (doc.children id).flatMap doc.subtree := by
  rw [descendants, wellFormed.preorder_eq_take]
  apply List.take_of_length_le
  cases hcontains : doc.contains id with
  | false =>
      have hnode : doc.node? id = none := node?_eq_none_of_not_contains (by simp [hcontains])
      simp [children_eq, hnode]
  | true =>
      have hlength := wellFormed.length_subtree_le hcontains
      rw [wellFormed.subtree_eq, List.length_cons] at hlength
      omega

theorem subtree_eq_cons_descendants (wellFormed : doc.WellFormed) (id : NodeId) :
    doc.subtree id = id :: doc.descendants id := by
  rw [wellFormed.descendants_eq, wellFormed.subtree_eq]

/-! # Listings within listings -/

theorem subtree_infix (wellFormed : doc.WellFormed) {top id : NodeId} (h : id ∈ doc.subtree top) :
    doc.subtree id <:+: doc.subtree top := by
  induction top using wellFormed.children_induction with
  | step top ih =>
      rw [wellFormed.subtree_eq top] at h
      cases h with
      | head => exact List.infix_refl _
      | tail _ h =>
          rcases List.mem_flatMap.mp h with ⟨child, hchild, hid⟩
          have hchildren : doc.subtree id <:+: (doc.children top).flatMap doc.subtree :=
            (ih child hchild hid).trans (List.infix_flatMap_of_mem hchild doc.subtree)
          rw [wellFormed.subtree_eq top]
          exact hchildren.trans (List.suffix_cons top _).isInfix

theorem descendants_infix (wellFormed : doc.WellFormed) {id ancestor : NodeId}
    (h : ancestor ∈ doc.ancestors id) : doc.descendants id <:+: doc.descendants ancestor := by
  have hmem : id ∈ doc.subtree ancestor := wellFormed.mem_subtree_iff.mpr (Or.inr h)
  rw [wellFormed.subtree_eq] at hmem
  cases hmem with
  | head => exact absurd h (wellFormed.not_mem_ancestors_self _)
  | tail _ hmem =>
      rcases List.mem_flatMap.mp hmem with ⟨child, hchild, hid⟩
      have hbelow : doc.descendants id <:+: doc.subtree child := by
        refine List.IsInfix.trans ?_ (wellFormed.subtree_infix hid)
        rw [wellFormed.subtree_eq_cons_descendants]
        exact (List.suffix_cons id _).isInfix
      rw [wellFormed.descendants_eq ancestor]
      exact hbelow.trans (List.infix_flatMap_of_mem hchild doc.subtree)

end WellFormed
end Document
end TreeQuery
