import TreeQuery.Document.Walk
import TreeQuery.Proofs.Document.Links

/-!
# Well-formed documents

The links of a document describe each tree several times over: from a parent to its children,
from a child to its parent, and between neighbouring children.  In a well-formed document all of
them describe the same forest of elements and texts.
-/

namespace TreeQuery
namespace Document

def IsParent (doc : Document) (parent child : NodeId) : Prop :=
  doc.parent? child = some parent

/-- The links agree with each other and the parents form no cycle. -/
structure WellFormed (doc : Document) : Prop where
  contains_parent : forall {id parent}, doc.parent? id = some parent -> doc.contains parent = true
  contains_child : forall {id child}, child ∈ doc.children id -> doc.contains child = true
  contains_next : forall {id next}, doc.next? id = some next -> doc.contains next = true
  contains_previous : forall {id previous},
    doc.previous? id = some previous -> doc.contains previous = true
  mem_children_iff : forall {parent child},
    child ∈ doc.children parent ↔ doc.parent? child = some parent
  nodup_children : forall parent, (doc.children parent).Nodup
  isElement_of_children : forall {parent}, doc.children parent ≠ [] -> doc.isElement parent = true
  next_of_neighbours : forall {parent before left right after},
    doc.children parent = before ++ left :: right :: after -> doc.next? left = some right
  previous_of_neighbours : forall {parent before left right after},
    doc.children parent = before ++ left :: right :: after -> doc.previous? right = some left
  previous_of_first : forall {parent first},
    (doc.children parent).head? = some first -> doc.previous? first = none
  next_of_last : forall {parent last},
    (doc.children parent).getLast? = some last -> doc.next? last = none
  next_of_detached : forall {id}, doc.parent? id = none -> doc.next? id = none
  previous_of_detached : forall {id}, doc.parent? id = none -> doc.previous? id = none
  /-- Going from each node to its parent, and on to the parent of that, comes to an end. -/
  ends : WellFounded doc.IsParent
  root_isElement : forall {root}, doc.root = some root -> doc.isElement root = true
  root_detached : forall {root}, doc.root = some root -> doc.parent? root = none

namespace WellFormed

variable {doc : Document}

theorem mem_children (wellFormed : doc.WellFormed) {parent child : NodeId}
    (h : doc.parent? child = some parent) : child ∈ doc.children parent :=
  wellFormed.mem_children_iff.mpr h

theorem parent?_of_mem (wellFormed : doc.WellFormed) {parent child : NodeId}
    (h : child ∈ doc.children parent) : doc.parent? child = some parent :=
  wellFormed.mem_children_iff.mp h

end WellFormed

/-! # How many nodes there can be -/

def all (doc : Document) : List NodeId :=
  (List.range doc.size).map (fun index => ⟨doc.id, index⟩)

theorem mem_all {doc : Document} {id : NodeId} (h : doc.contains id = true) : id ∈ doc.all := by
  rcases contains_iff_index.mp h with ⟨hdocument, hindex⟩
  apply List.mem_map.mpr
  exact ⟨id.index, List.mem_range.mpr hindex, by rw [← hdocument]⟩

theorem length_le_size {doc : Document} {ids : List NodeId} (hnodup : ids.Nodup)
    (hcontains : forall id, id ∈ ids -> doc.contains id = true) : ids.length ≤ doc.size := by
  have hsubset : ids ⊆ doc.all := fun id hid => mem_all (hcontains id hid)
  have hlength : ids.length ≤ doc.all.length := hnodup.length_le_of_subset hsubset
  simpa [all] using hlength

/-! # Following a link -/

/-- The nodes on the way when a link is followed from a start until it ends. -/
inductive Trail (link : NodeId -> Option NodeId) : Option NodeId -> List NodeId -> Prop where
  | stop : Trail link none []
  | go {id : NodeId} {rest : List NodeId} :
      Trail link (link id) rest -> Trail link (some id) (id :: rest)

theorem chain_eq_of_trail {link : NodeId -> Option NodeId} {start : Option NodeId}
    {ids : List NodeId} (trail : Trail link start ids) {fuel : Nat} (h : ids.length ≤ fuel) :
    chain link fuel start = ids := by
  induction trail generalizing fuel with
  | stop => cases fuel <;> rfl
  | go trail ih =>
      cases fuel with
      | zero => simp at h
      | succ fuel =>
          rw [chain, ih (by simpa using h)]

theorem Trail.unique {link : NodeId -> Option NodeId} {start : Option NodeId}
    {first second : List NodeId} (hfirst : Trail link start first)
    (hsecond : Trail link start second) : first = second := by
  induction hfirst generalizing second with
  | stop =>
      cases hsecond
      rfl
  | go _ ih =>
      cases hsecond with
      | go hrest => rw [ih hrest]

theorem Trail.after {link : NodeId -> Option NodeId} {start : Option NodeId}
    {before rest : List NodeId} {id : NodeId} (trail : Trail link start (before ++ id :: rest)) :
    Trail link (some id) (id :: rest) := by
  induction before generalizing start with
  | nil =>
      cases trail with
      | go hrest => exact Trail.go hrest
  | cons head before ih =>
      cases trail with
      | go hrest => exact ih hrest

/-- A trail visits no node twice: from there on it would have to be both longer and shorter. -/
theorem Trail.nodup {link : NodeId -> Option NodeId} {start : Option NodeId} {ids : List NodeId}
    (trail : Trail link start ids) : ids.Nodup := by
  induction trail with
  | stop => exact List.nodup_nil
  | @go id rest hrest ih =>
      refine List.nodup_cons.mpr ⟨fun hmem => ?_, ih⟩
      rcases List.append_of_mem hmem with ⟨before, after, hsplit⟩
      have hlater : Trail link (some id) (id :: after) := by
        rw [hsplit] at hrest
        exact hrest.after
      have hsame : id :: rest = id :: after := (Trail.go hrest).unique hlater
      have hlength : rest.length = after.length := by
        injection hsame with _ hrestEq
        rw [hrestEq]
      rw [hsplit] at hlength
      simp at hlength
      omega

/-! # Ancestors -/

namespace WellFormed

variable {doc : Document}

theorem exists_trail (wellFormed : doc.WellFormed) (id : NodeId) :
    exists ids, Trail doc.parent? (doc.parent? id) ids := by
  induction id using wellFormed.ends.induction with
  | _ id ih =>
      cases hparent : doc.parent? id with
      | none => exact ⟨[], Trail.stop⟩
      | some parent =>
          rcases ih parent hparent with ⟨rest, hrest⟩
          exact ⟨parent :: rest, Trail.go hrest⟩

theorem contains_of_trail (wellFormed : doc.WellFormed) {start : Option NodeId}
    {ids : List NodeId} (trail : Trail doc.parent? start ids)
    (hstart : forall id, start = some id -> doc.contains id = true) :
    forall id, id ∈ ids -> doc.contains id = true := by
  induction trail with
  | stop => simp
  | @go first rest _ ih =>
      intro id hid
      cases hid with
      | head => exact hstart first rfl
      | tail _ hid => exact ih (fun parent h => wellFormed.contains_parent h) id hid

theorem ancestors_trail (wellFormed : doc.WellFormed) (id : NodeId) :
    Trail doc.parent? (doc.parent? id) (doc.ancestors id) := by
  rcases wellFormed.exists_trail id with ⟨ids, trail⟩
  have hcontains := wellFormed.contains_of_trail trail
    (fun parent h => wellFormed.contains_parent h)
  have hids : doc.ancestors id = ids :=
    chain_eq_of_trail trail (length_le_size trail.nodup hcontains)
  rw [hids]
  exact trail

theorem ancestors_of_parent (wellFormed : doc.WellFormed) {id parent : NodeId}
    (h : doc.parent? id = some parent) :
    doc.ancestors id = parent :: doc.ancestors parent := by
  have trail := wellFormed.ancestors_trail id
  rw [h] at trail
  exact trail.unique (Trail.go (wellFormed.ancestors_trail parent))

theorem ancestors_of_detached (wellFormed : doc.WellFormed) {id : NodeId}
    (h : doc.parent? id = none) : doc.ancestors id = [] := by
  have trail := wellFormed.ancestors_trail id
  rw [h] at trail
  exact trail.unique Trail.stop

theorem nodup_ancestors (wellFormed : doc.WellFormed) (id : NodeId) :
    (doc.ancestors id).Nodup :=
  (wellFormed.ancestors_trail id).nodup

theorem contains_of_mem_ancestors (wellFormed : doc.WellFormed) {id ancestor : NodeId}
    (h : ancestor ∈ doc.ancestors id) : doc.contains ancestor = true :=
  wellFormed.contains_of_trail (wellFormed.ancestors_trail id)
    (fun _ hparent => wellFormed.contains_parent hparent) ancestor h

theorem mem_ancestors_iff (wellFormed : doc.WellFormed) {id ancestor : NodeId} :
    ancestor ∈ doc.ancestors id ↔
      exists parent, doc.parent? id = some parent ∧
        (ancestor = parent ∨ ancestor ∈ doc.ancestors parent) := by
  cases hparent : doc.parent? id with
  | none => simp [wellFormed.ancestors_of_detached hparent]
  | some parent => simp [wellFormed.ancestors_of_parent hparent]

theorem isElement_of_mem_ancestors (wellFormed : doc.WellFormed) {id ancestor : NodeId}
    (h : ancestor ∈ doc.ancestors id) : doc.isElement ancestor = true := by
  induction id using wellFormed.ends.induction with
  | _ id ih =>
      rcases wellFormed.mem_ancestors_iff.mp h with ⟨parent, hparent, rfl | habove⟩
      · exact wellFormed.isElement_of_children
          (List.ne_nil_of_mem (wellFormed.mem_children hparent))
      · exact ih parent hparent habove

theorem mem_ancestors_trans (wellFormed : doc.WellFormed) {low middle high : NodeId}
    (hmiddle : middle ∈ doc.ancestors low) (hhigh : high ∈ doc.ancestors middle) :
    high ∈ doc.ancestors low := by
  induction low using wellFormed.ends.induction with
  | _ low ih =>
      rcases wellFormed.mem_ancestors_iff.mp hmiddle with ⟨parent, hparent, hcase⟩
      apply wellFormed.mem_ancestors_iff.mpr
      refine ⟨parent, hparent, Or.inr ?_⟩
      rcases hcase with hsame | habove
      · rw [← hsame]
        exact hhigh
      · exact ih parent hparent habove

theorem not_mem_ancestors_self (wellFormed : doc.WellFormed) (id : NodeId) :
    id ∉ doc.ancestors id := by
  intro h
  rcases List.append_of_mem h with ⟨before, after, hsplit⟩
  have trail := wellFormed.ancestors_trail id
  rw [hsplit] at trail
  cases trail.after with
  | go hafter =>
      have hsame : doc.ancestors id = after :=
        (wellFormed.ancestors_trail id).unique hafter
      have hlength : (doc.ancestors id).length = after.length := by rw [hsame]
      rw [hsplit] at hlength
      simp at hlength
      omega

theorem ne_of_mem_children (wellFormed : doc.WellFormed) {parent child : NodeId}
    (h : child ∈ doc.children parent) : child ≠ parent := by
  intro same
  have hparent : doc.parent? child = some parent := wellFormed.parent?_of_mem h
  have hself : parent ∈ doc.ancestors child :=
    wellFormed.mem_ancestors_iff.mpr ⟨parent, hparent, Or.inl rfl⟩
  rw [same] at hself
  exact wellFormed.not_mem_ancestors_self parent hself

end WellFormed
end Document
end TreeQuery
