import Mathlib.Data.List.Induction
import Mathlib.Logic.Relation
import TreeQuery.Proofs.Document.WellFormed

/-!
# Walks upwards and to the left

The ancestors of a node are the nodes from which its parents lead down to it, and its preceding
siblings are what stands before it in the child list of its parent, read backwards.
-/

namespace TreeQuery
namespace Document
namespace WellFormed

variable {doc : Document}

theorem mem_ancestors_iff_transGen (wellFormed : doc.WellFormed) {id ancestor : NodeId} :
    ancestor ∈ doc.ancestors id ↔ Relation.TransGen doc.IsParent ancestor id := by
  constructor
  · intro h
    induction id using wellFormed.ends.induction with
    | _ id ih =>
        rcases wellFormed.mem_ancestors_iff.mp h with ⟨parent, hparent, hcase⟩
        rcases hcase with hsame | habove
        · rw [hsame]
          exact Relation.TransGen.single hparent
        · exact Relation.TransGen.tail (ih parent hparent habove) hparent
  · intro h
    induction h with
    | single hparent => exact wellFormed.mem_ancestors_iff.mpr ⟨ancestor, hparent, Or.inl rfl⟩
    | tail _ hparent ih => exact wellFormed.mem_ancestors_iff.mpr ⟨_, hparent, Or.inr ih⟩

theorem previous_trail (wellFormed : doc.WellFormed) {parent id : NodeId}
    {before after : List NodeId} (h : doc.children parent = before ++ id :: after) :
    Trail doc.previous? (doc.previous? id) before.reverse := by
  induction before using List.reverseRecOn generalizing id after with
  | nil =>
      have hfirst : (doc.children parent).head? = some id := by
        rw [h]
        rfl
      rw [wellFormed.previous_of_first hfirst]
      exact Trail.stop
  | append_singleton before left ih =>
      have hneighbours : doc.children parent = before ++ left :: id :: after := by
        rw [h]
        simp
      rw [wellFormed.previous_of_neighbours hneighbours, List.reverse_concat]
      exact Trail.go (ih hneighbours)

theorem precedingSiblings_eq (wellFormed : doc.WellFormed) {parent id : NodeId}
    {before after : List NodeId} (h : doc.children parent = before ++ id :: after) :
    doc.precedingSiblings id = before.reverse := by
  have trail := wellFormed.previous_trail h
  apply chain_eq_of_trail trail
  apply length_le_size trail.nodup
  intro sibling hsibling
  have hmem : sibling ∈ doc.children parent := by
    rw [h]
    exact List.mem_append_left _ (List.mem_reverse.mp hsibling)
  exact wellFormed.contains_child hmem

theorem precedingSiblings_of_detached (wellFormed : doc.WellFormed) {id : NodeId}
    (h : doc.parent? id = none) : doc.precedingSiblings id = [] := by
  apply chain_eq_of_trail
  · rw [wellFormed.previous_of_detached h]
    exact Trail.stop
  · exact Nat.zero_le _

theorem exists_split (wellFormed : doc.WellFormed) {parent id : NodeId}
    (h : doc.parent? id = some parent) :
    exists before after, doc.children parent = before ++ id :: after :=
  List.append_of_mem (wellFormed.mem_children h)

/-- A node is met on the walk to the left where it stands before in the child list, and what is
met first stands between the two. -/
theorem precedingSiblings_split_iff (wellFormed : doc.WellFormed) {left right : NodeId}
    {between rest : List NodeId} :
    doc.precedingSiblings right = between ++ left :: rest ↔
      exists parent after, doc.parent? right = some parent ∧
        doc.children parent = rest.reverse ++ left :: (between.reverse ++ right :: after) := by
  constructor
  · intro h
    cases hparent : doc.parent? right with
    | none => simp [wellFormed.precedingSiblings_of_detached hparent] at h
    | some parent =>
        rcases wellFormed.exists_split hparent with ⟨before, after, hchildren⟩
        rw [wellFormed.precedingSiblings_eq hchildren] at h
        refine ⟨parent, after, rfl, ?_⟩
        rw [hchildren, List.reverse_eq_iff.mp h]
        simp
  · intro h
    rcases h with ⟨parent, after, _, hsplit⟩
    have hchildren : doc.children parent =
        (rest.reverse ++ left :: between.reverse) ++ right :: after := by
      rw [hsplit]
      simp
    rw [wellFormed.precedingSiblings_eq hchildren]
    simp

end WellFormed
end Document
end TreeQuery
