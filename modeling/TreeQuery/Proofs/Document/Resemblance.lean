import Mathlib.Data.List.GetD
import TreeQuery.Proofs.Document.Description
import TreeQuery.Proofs.Document.Siblings

/-!
# Resemblance

Two documents resemble each other below a node if a map of nodes to nodes keeps what they hold and
takes the children of a node to the children of its image.  Every walk from a node of a tree then
commutes with the map.  Nodes that are described by the same tree resemble each other, and the map
takes each node to the one at the same place.
-/

namespace TreeQuery
namespace Document

/-- At or below the node every node holds what its image holds, and the images of its children
are the children of its image. -/
structure Resembles (old new : Document) (image : NodeId -> NodeId) (top : NodeId) : Prop where
  content? : forall id, id ∈ old.subtree top -> new.content? (image id) = old.content? id
  children : forall id, id ∈ old.subtree top ->
    new.children (image id) = (old.children id).map image

namespace Resembles

variable {old new : Document} {image : NodeId -> NodeId} {top : NodeId}

theorem below (resembles : Resembles old new image top) (wellFormed : old.WellFormed)
    {id : NodeId} (h : id ∈ old.subtree top) : Resembles old new image id where
  content? below hbelow := resembles.content? below (wellFormed.mem_subtree_trans hbelow h)
  children below hbelow := resembles.children below (wellFormed.mem_subtree_trans hbelow h)

theorem below_child (resembles : Resembles old new image top) (wellFormed : old.WellFormed)
    {child : NodeId} (h : child ∈ old.children top) : Resembles old new image child :=
  resembles.below wellFormed (wellFormed.child_mem_subtree (wellFormed.self_mem_subtree top) h)

theorem of_children (wellFormed : old.WellFormed)
    (hcontent : new.content? (image top) = old.content? top)
    (hchildren : new.children (image top) = (old.children top).map image)
    (hbelow : forall child, child ∈ old.children top -> Resembles old new image child) :
    Resembles old new image top := by
  have hcases : forall id, id ∈ old.subtree top ->
      id = top ∨ exists child, child ∈ old.children top ∧ id ∈ old.subtree child := by
    intro id hid
    rw [wellFormed.subtree_eq] at hid
    exact (List.mem_cons.mp hid).imp_right List.mem_flatMap.mp
  constructor
  · intro id hid
    rcases hcases id hid with rfl | ⟨child, hchild, hid⟩
    · exact hcontent
    · exact (hbelow child hchild).content? id hid
  · intro id hid
    rcases hcases id hid with rfl | ⟨child, hchild, hid⟩
    · exact hchildren
    · exact (hbelow child hchild).children id hid

theorem congr (resembles : Resembles old new image top) (wellFormed : old.WellFormed)
    {image' : NodeId -> NodeId} (h : forall id, id ∈ old.subtree top -> image' id = image id) :
    Resembles old new image' top where
  content? id hid := by
    rw [h id hid]
    exact resembles.content? id hid
  children id hid := by
    have hchildren : (old.children id).map image' = (old.children id).map image := by
      apply List.map_congr_left
      intro child hchild
      exact h child (wellFormed.child_mem_subtree hid hchild)
    rw [h id hid, hchildren]
    exact resembles.children id hid

theorem subtree_image (resembles : Resembles old new image top) (wellFormed : old.WellFormed)
    (wellFormed' : new.WellFormed) : new.subtree (image top) = (old.subtree top).map image := by
  induction top using wellFormed.children_induction with
  | step top ih =>
      have hbelow : (old.children top).flatMap (fun child => new.subtree (image child)) =
          (old.children top).flatMap (fun child => (old.subtree child).map image) := by
        apply List.flatMap_congr
        intro child hchild
        exact ih child hchild (resembles.below_child wellFormed hchild)
      rw [wellFormed'.subtree_eq, resembles.children top (wellFormed.self_mem_subtree top),
        List.flatMap_map, hbelow, wellFormed.subtree_eq top, List.map_cons, List.map_flatMap]

theorem describe?_image (resembles : Resembles old new image top) (wellFormed : old.WellFormed)
    (wellFormed' : new.WellFormed) : new.describe? (image top) = old.describe? top := by
  induction top using wellFormed.children_induction with
  | step top ih =>
      have hself := wellFormed.self_mem_subtree top
      have hsame := resembles.content? top hself
      cases hcontent : old.content? top with
      | none =>
          rw [hcontent] at hsame
          rw [describe?, describeWithin_none (Option.map_eq_none_iff.mp hsame), describe?,
            describeWithin_none (Option.map_eq_none_iff.mp hcontent)]
      | some content =>
          rw [hcontent] at hsame
          cases content with
          | text payload => rw [describe?_text hcontent, describe?_text hsame]
          | element element =>
              rcases wellFormed.exists_describe?_children top with ⟨trees, htrees⟩
              have hchildren : (new.children (image top)).map new.describe? = trees.map some := by
                rw [resembles.children top hself, List.map_map, ← htrees]
                apply List.map_congr_left
                intro child hchild
                exact ih child hchild (resembles.below_child wellFormed hchild)
              rw [wellFormed.describe?_element hcontent htrees,
                wellFormed'.describe?_element hsame hchildren]

end Resembles

/-! # Nodes that are described by the same tree -/

/-- The member of the second list at the place of the first occurrence in the first list. -/
def counterpart (nodes nodes' : List NodeId) (id : NodeId) : NodeId :=
  nodes'.getD (nodes.idxOf id) id

theorem counterpart_head (id id' : NodeId) (rest rest' : List NodeId) :
    counterpart (id :: rest) (id' :: rest') id = id' := by
  simp [counterpart]

theorem counterpart_append_left {before before' : List NodeId} {id : NodeId}
    (hlength : before.length = before'.length) (h : id ∉ before) (nodes nodes' : List NodeId) :
    counterpart (before ++ nodes) (before' ++ nodes') id = counterpart nodes nodes' id := by
  rw [counterpart, List.idxOf_append_of_notMem h, hlength, counterpart, List.getD_append_right]
  · simp
  · omega

theorem counterpart_append_right {nodes nodes' : List NodeId} {id : NodeId}
    (hlength : nodes.length = nodes'.length) (h : id ∈ nodes) (after after' : List NodeId) :
    counterpart (nodes ++ after) (nodes' ++ after') id = counterpart nodes nodes' id := by
  have hplace : nodes.idxOf id < nodes'.length := hlength ▸ List.idxOf_lt_length_iff.mpr h
  rw [counterpart, List.idxOf_append_of_mem h, counterpart, List.getD_append _ _ _ _ hplace]

/-! Two lists of children that are described by the same trees. -/

theorem exists_split_at {α β : Type} {items before after : List α} {item : α} {others : List β}
    (hlength : items.length = others.length) (h : items = before ++ item :: after) :
    exists before' other after', others = before' ++ other :: after' ∧
      before.length = before'.length := by
  have hplace : before.length < others.length := by
    rw [← hlength, h]
    simp
  refine ⟨others.take before.length, others[before.length], others.drop (before.length + 1), ?_, ?_⟩
  · rw [List.getElem_cons_drop, List.take_append_drop]
  · rw [List.length_take_of_le (Nat.le_of_lt hplace)]

theorem map_eq_of_splits {α β : Type} {image : α -> β} {items : List α} {others : List β}
    (hlength : items.length = others.length)
    (h : forall before item after before' other after', items = before ++ item :: after ->
      others = before' ++ other :: after' -> before.length = before'.length -> image item = other) :
    items.map image = others := by
  apply List.ext_getElem
  · rw [List.length_map, hlength]
  · intro place hplace hplace'
    rw [List.length_map] at hplace
    rw [List.getElem_map]
    apply h (items.take place) _ (items.drop (place + 1)) (others.take place) _
      (others.drop (place + 1))
    · rw [List.getElem_cons_drop, List.take_append_drop]
    · rw [List.getElem_cons_drop, List.take_append_drop]
    · rw [List.length_take, List.length_take, hlength]

section Described

variable {old new : Document} {top top' : NodeId} {trees : List Tree}

theorem described_at {before before' after after' : List NodeId} {child child' : NodeId}
    (wellFormed : old.WellFormed) (wellFormed' : new.WellFormed)
    (h : (before ++ child :: after).map old.describe? = trees.map some)
    (h' : (before' ++ child' :: after').map new.describe? = trees.map some)
    (hplace : before.length = before'.length) :
    (exists tree, old.describe? child = some tree ∧ new.describe? child' = some tree) ∧
      (before.flatMap old.subtree).length = (before'.flatMap new.subtree).length := by
  rw [List.map_append, List.map_cons] at h h'
  rcases List.append_eq_map_iff.mp h with ⟨first, rest, rfl, hfirst, hrest⟩
  rcases List.map_eq_cons_iff.mp hrest with ⟨tree, last, rfl, htree, _⟩
  rw [List.map_append, List.map_cons] at h'
  have hlength : first.length = before.length := by
    simpa using congrArg List.length hfirst
  rcases List.append_inj h' (by simp [hlength, hplace]) with ⟨hfirst', hrest'⟩
  have hcontents := congrArg List.length (wellFormed.map_content?_flatMap hfirst.symm)
  have hcontents' := congrArg List.length (wellFormed'.map_content?_flatMap hfirst')
  constructor
  · exact ⟨tree, htree.symm, (List.cons.inj hrest').1⟩
  · simpa using hcontents.trans hcontents'.symm

theorem counterpart_child {before before' after after' : List NodeId} {child child' id : NodeId}
    (wellFormed : old.WellFormed) (wellFormed' : new.WellFormed)
    (hchildren : old.children top = before ++ child :: after)
    (hchildren' : new.children top' = before' ++ child' :: after')
    (h : (old.children top).map old.describe? = trees.map some)
    (h' : (new.children top').map new.describe? = trees.map some)
    (hplace : before.length = before'.length) (hid : id ∈ old.subtree child) :
    counterpart (old.subtree top) (new.subtree top') id =
      counterpart (old.subtree child) (new.subtree child') id := by
  rw [hchildren] at h
  rw [hchildren'] at h'
  rcases described_at wellFormed wellFormed' h h' hplace with ⟨⟨tree, htree, htree'⟩, hlength⟩
  have hsize : (old.subtree child).length = (new.subtree child').length := by
    have hcontents := congrArg List.length (wellFormed.map_content?_subtree htree)
    have hcontents' := congrArg List.length (wellFormed'.map_content?_subtree htree')
    simpa using hcontents.trans hcontents'.symm
  have hnodup := wellFormed.nodup_subtree top
  rw [wellFormed.subtree_eq, hchildren, List.flatMap_append, List.flatMap_cons,
    ← List.cons_append] at hnodup
  have hbefore : id ∉ top :: before.flatMap old.subtree := by
    intro hmem
    exact (List.nodup_append.mp hnodup).2.2 id hmem id (List.mem_append_left _ hid) rfl
  rw [wellFormed.subtree_eq top, wellFormed'.subtree_eq top', hchildren, hchildren',
    List.flatMap_append, List.flatMap_append, List.flatMap_cons, List.flatMap_cons,
    ← List.cons_append, ← List.cons_append,
    counterpart_append_left (by simpa using hlength) hbefore,
    counterpart_append_right hsize hid]

theorem counterpart_self (wellFormed : old.WellFormed) (wellFormed' : new.WellFormed)
    (top top' : NodeId) : counterpart (old.subtree top) (new.subtree top') top = top' := by
  rw [wellFormed.subtree_eq, wellFormed'.subtree_eq, counterpart_head]

theorem resembles_counterpart (wellFormed : old.WellFormed) (wellFormed' : new.WellFormed)
    {tree : Tree} (h : old.describe? top = some tree) (h' : new.describe? top' = some tree) :
    Resembles old new (counterpart (old.subtree top) (new.subtree top')) top := by
  induction top using wellFormed.children_induction generalizing top' tree with
  | step top ih =>
      have hself := counterpart_self wellFormed wellFormed' top top'
      rcases wellFormed.describe?_cases h with
        ⟨payload, hcontent, hnone, rfl⟩ | ⟨element, trees, hcontent, htrees, rfl⟩ <;>
      rcases wellFormed'.describe?_cases h' with
        ⟨payload', hcontent', hnone', htree⟩ | ⟨element', trees', hcontent', htrees', htree⟩
      · cases htree
        apply Resembles.of_children wellFormed
        · rw [hself, hcontent, hcontent']
        · rw [hself, hnone, hnone', List.map_nil]
        · simp [hnone]
      · cases htree
      · cases htree
      · rw [Tree.element.injEq] at htree
        have helement : element = element' := Element.ext htree.1 (Attributes.ext htree.2.1)
        rw [← htree.2.2] at htrees'
        have hlength : (old.children top).length = (new.children top').length := by
          have hcount := congrArg List.length (htrees.trans htrees'.symm)
          simpa using hcount
        apply Resembles.of_children wellFormed
        · rw [hself, hcontent, hcontent', helement]
        · rw [hself]
          symm
          apply map_eq_of_splits hlength
          intro before child after before' child' after' hchildren hchildren' hplace
          rw [counterpart_child wellFormed wellFormed' hchildren hchildren' htrees htrees' hplace
            (wellFormed.self_mem_subtree child), counterpart_self wellFormed wellFormed']
        · intro child hchild
          rcases List.append_of_mem hchild with ⟨before, after, hchildren⟩
          rcases exists_split_at hlength hchildren with
            ⟨before', child', after', hchildren', hplace⟩
          rcases (described_at wellFormed wellFormed' (hchildren ▸ htrees) (hchildren' ▸ htrees')
            hplace).1 with ⟨tree, hdescribed, hdescribed'⟩
          apply (ih child hchild hdescribed hdescribed').congr wellFormed
          intro id hid
          exact counterpart_child wellFormed wellFormed' hchildren hchildren' htrees htrees' hplace
            hid

end Described

end Document
end TreeQuery
