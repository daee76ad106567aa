import TreeQuery.Proofs.Document.Preservation

/-!
# Attaching a child keeps a document well-formed

The child goes behind the last child of its parent.  Only the links between these three nodes
change, so every statement about the links is one about the old links and one about the new pair.
-/

namespace TreeQuery
namespace Document

/-! # When a child may be attached -/

/-- The child is a tree of its own that does not hold the parent, which is an element. -/
structure Attachable (doc : Document) (parent child : NodeId) : Prop where
  isElement : doc.isElement parent = true
  contains : doc.contains child = true
  detached : doc.parent? child = none
  not_root : doc.root ≠ some child
  ne : parent ≠ child
  not_above : child ∉ doc.ancestors parent

theorem appendChild_eq_ok_iff {doc changed : Document} {parent child : NodeId} :
    doc.appendChild parent child = ⟨changed, .ok ()⟩ ↔
      Attachable doc parent child ∧ changed = doc.attach parent child := by
  unfold appendChild
  constructor
  · intro h
    split at h
    · cases h
    rename_i hcontainsParent
    split at h
    · cases h
    rename_i helement
    split at h
    · cases h
    rename_i hcontains
    split at h
    · cases h
    rename_i hattached
    split at h
    · cases h
    rename_i habove
    cases h
    simp only [Bool.not_eq_true, Bool.not_eq_false'] at helement hcontains
    simp only [Bool.or_eq_true, not_or] at hattached habove
    refine ⟨⟨helement, hcontains, ?_, ?_, ?_, ?_⟩, rfl⟩
    · simpa using hattached.1
    · simpa using hattached.2
    · simpa using habove.1
    · simpa using habove.2
  · rintro ⟨attachable, rfl⟩
    have hcontainsParent := contains_of_isElement attachable.isElement
    simp [hcontainsParent, attachable.isElement, attachable.contains, attachable.detached,
      attachable.not_root, attachable.ne, attachable.not_above]

theorem appendChild_refused {doc left : Document} {parent child : NodeId} {error : EditError}
    (h : doc.appendChild parent child = ⟨left, .error error⟩) : left = doc := by
  unfold appendChild at h
  split at h
  · cases h
    rfl
  · split at h
    · cases h
      rfl
    · split at h
      · cases h
        rfl
      · split at h
        · cases h
          rfl
        · split at h
          · cases h
            rfl
          · cases h

/-! # The links afterwards -/

@[simp] theorem id_attach (doc : Document) (parent child : NodeId) :
    (doc.attach parent child).id = doc.id := by
  unfold attach
  cases (doc.children parent).getLast? <;> rfl

@[simp] theorem root_attach (doc : Document) (parent child : NodeId) :
    (doc.attach parent child).root = doc.root := by
  unfold attach
  cases (doc.children parent).getLast? <;> rfl

@[simp] theorem size_attach (doc : Document) (parent child : NodeId) :
    (doc.attach parent child).size = doc.size := by
  unfold attach
  cases (doc.children parent).getLast? <;> simp

section Links

variable {doc : Document} {parent child : NodeId}

theorem WellFormed.node?_attach (wellFormed : doc.WellFormed)
    (attachable : Attachable doc parent child) (id : NodeId) :
    (doc.attach parent child).node? id =
      (doc.node? id).map (relinked parent child (doc.children parent).getLast? id) := by
  apply Document.node?_attach
  · exact (contains_iff_index.mp (contains_of_isElement attachable.isElement)).1
  · exact (contains_iff_index.mp attachable.contains).1
  · intro last hlast
    have hmem : last ∈ doc.children parent := List.mem_of_getLast? hlast
    exact (contains_iff_index.mp (wellFormed.contains_child hmem)).1

theorem WellFormed.contains_attach (wellFormed : doc.WellFormed)
    (attachable : Attachable doc parent child) (id : NodeId) :
    (doc.attach parent child).contains id = doc.contains id := by
  rw [contains, wellFormed.node?_attach attachable, Option.isSome_map, contains]

theorem WellFormed.content?_attach (wellFormed : doc.WellFormed)
    (attachable : Attachable doc parent child) (id : NodeId) :
    (doc.attach parent child).content? id = doc.content? id := by
  rw [content?, wellFormed.node?_attach attachable, Option.map_map]
  rfl

theorem WellFormed.isElement_attach (wellFormed : doc.WellFormed)
    (attachable : Attachable doc parent child) (id : NodeId) :
    (doc.attach parent child).isElement id = doc.isElement id := by
  rw [isElement, element?_eq, wellFormed.content?_attach attachable, isElement, element?_eq]

theorem WellFormed.parent?_attach (wellFormed : doc.WellFormed)
    (attachable : Attachable doc parent child) (id : NodeId) :
    (doc.attach parent child).parent? id = if id = child then some parent else doc.parent? id := by
  rw [parent?_eq, wellFormed.node?_attach attachable, parent?_eq]
  rcases contains_iff.mp attachable.contains with ⟨held, hheld⟩
  by_cases hid : id = child
  · simp [hid, hheld, relinked]
  · cases doc.node? id <;> simp [hid, relinked]

theorem WellFormed.children_attach (wellFormed : doc.WellFormed)
    (attachable : Attachable doc parent child) (id : NodeId) :
    (doc.attach parent child).children id =
      if id = parent then doc.children parent ++ [child] else doc.children id := by
  rw [children_eq, wellFormed.node?_attach attachable, children_eq, children_eq]
  rcases contains_iff.mp (contains_of_isElement attachable.isElement) with ⟨held, hheld⟩
  by_cases hid : id = parent
  · simp [hid, hheld, relinked]
  · cases doc.node? id <;> simp [hid, relinked]

theorem WellFormed.next?_attach (wellFormed : doc.WellFormed)
    (attachable : Attachable doc parent child) (id : NodeId) :
    (doc.attach parent child).next? id =
      if (doc.children parent).getLast? = some id then some child else doc.next? id := by
  rw [next?_eq, wellFormed.node?_attach attachable, next?_eq]
  by_cases hlast : (doc.children parent).getLast? = some id
  · have hmem : id ∈ doc.children parent := List.mem_of_getLast? hlast
    rcases contains_iff.mp (wellFormed.contains_child hmem) with ⟨held, hheld⟩
    simp [hlast, hheld, relinked]
  · cases doc.node? id <;> simp [hlast, relinked]

theorem WellFormed.previous?_attach (wellFormed : doc.WellFormed)
    (attachable : Attachable doc parent child) (id : NodeId) :
    (doc.attach parent child).previous? id =
      if id = child then (doc.children parent).getLast? else doc.previous? id := by
  rw [previous?_eq, wellFormed.node?_attach attachable, previous?_eq]
  by_cases hid : id = child
  · have hprevious := wellFormed.previous_of_detached attachable.detached
    rcases contains_iff.mp attachable.contains with ⟨held, hheld⟩
    rw [previous?, hheld] at hprevious
    have hheldPrevious : held.previous = none := hprevious
    simp [hid, hheld, hheldPrevious, relinked]
  · cases doc.node? id <;> simp [hid, relinked]

end Links

/-! # Neighbours in a list that has grown by one -/

theorem neighbours_concat {α : Type} {items before after : List α} {item left right : α}
    (h : items ++ [item] = before ++ left :: right :: after) :
    (exists rest, items = before ++ left :: right :: rest) ∨
      (items.getLast? = some left ∧ right = item) := by
  rcases List.eq_nil_or_concat after with hnil | ⟨rest, last, hconcat⟩
  · apply Or.inr
    rw [hnil] at h
    have hsplit : items ++ [item] = (before ++ [left]) ++ [right] := by simpa using h
    rcases List.append_inj' hsplit rfl with ⟨hitems, hitem⟩
    constructor
    · rw [hitems]
      simp
    · injection hitem with hsame _
      exact hsame.symm
  · apply Or.inl
    rw [hconcat] at h
    have hsplit : items ++ [item] = (before ++ left :: right :: rest) ++ [last] := by
      simpa using h
    exact ⟨rest, (List.append_inj' hsplit rfl).1⟩

theorem head?_concat {α : Type} {items : List α} {item first : α}
    (h : (items ++ [item]).head? = some first) :
    items.head? = some first ∨ (items = [] ∧ first = item) := by
  cases items with
  | nil =>
      apply Or.inr
      simpa [eq_comm] using h
  | cons head rest =>
      apply Or.inl
      simpa using h

/-! # The document afterwards -/

section Attach

variable {doc : Document} {parent child : NodeId}

/-- A node that does not have the child above it still reaches an end.  The new parent is such a
node, and so every other node reaches one as well. -/
theorem WellFormed.ends_attach (wellFormed : doc.WellFormed)
    (attachable : Attachable doc parent child) :
    WellFounded (doc.attach parent child).IsParent := by
  have hcases : forall {up down}, (doc.attach parent child).IsParent up down ->
      (down = child ∧ up = parent) ∨ (down ≠ child ∧ doc.parent? down = some up) := by
    intro up down h
    rw [IsParent, wellFormed.parent?_attach attachable] at h
    split at h
    · rename_i hdown
      exact Or.inl ⟨hdown, by simpa [eq_comm] using h⟩
    · rename_i hdown
      exact Or.inr ⟨hdown, h⟩
  have houtside : forall id, id ≠ child -> child ∉ doc.ancestors id ->
      Acc (doc.attach parent child).IsParent id := by
    intro id
    induction id using wellFormed.ends.induction with
    | _ id ih =>
        intro hne habove
        refine Acc.intro id fun up hup => ?_
        rcases hcases hup with ⟨hid, _⟩ | ⟨_, hparent⟩
        · exact absurd hid hne
        · rw [wellFormed.ancestors_of_parent hparent, List.mem_cons, not_or] at habove
          exact ih up hparent (Ne.symm habove.1) habove.2
  have hends : Acc (doc.attach parent child).IsParent parent :=
    houtside parent attachable.ne attachable.not_above
  refine ⟨fun id => ?_⟩
  induction id using wellFormed.ends.induction with
  | _ id ih =>
      refine Acc.intro id fun up hup => ?_
      rcases hcases hup with ⟨_, hup⟩ | ⟨_, hparent⟩
      · rw [hup]
        exact hends
      · exact ih up hparent

/-! Every link leads to a node of the document. -/

theorem WellFormed.contains_parent_attach (wellFormed : doc.WellFormed)
    (attachable : Attachable doc parent child) {id up : NodeId}
    (h : (doc.attach parent child).parent? id = some up) :
    (doc.attach parent child).contains up = true := by
  rw [wellFormed.contains_attach attachable]
  rw [wellFormed.parent?_attach attachable] at h
  split at h
  · cases h
    exact contains_of_isElement attachable.isElement
  · exact wellFormed.contains_parent h

theorem WellFormed.contains_child_attach (wellFormed : doc.WellFormed)
    (attachable : Attachable doc parent child) {id below : NodeId}
    (h : below ∈ (doc.attach parent child).children id) :
    (doc.attach parent child).contains below = true := by
  rw [wellFormed.contains_attach attachable]
  rw [wellFormed.children_attach attachable] at h
  split at h
  · rcases List.mem_append.mp h with hold | hnew
    · exact wellFormed.contains_child hold
    · rw [List.mem_singleton.mp hnew]
      exact attachable.contains
  · exact wellFormed.contains_child h

theorem WellFormed.contains_next_attach (wellFormed : doc.WellFormed)
    (attachable : Attachable doc parent child) {id next : NodeId}
    (h : (doc.attach parent child).next? id = some next) :
    (doc.attach parent child).contains next = true := by
  rw [wellFormed.contains_attach attachable]
  rw [wellFormed.next?_attach attachable] at h
  split at h
  · cases h
    exact attachable.contains
  · exact wellFormed.contains_next h

theorem WellFormed.contains_previous_attach (wellFormed : doc.WellFormed)
    (attachable : Attachable doc parent child) {id previous : NodeId}
    (h : (doc.attach parent child).previous? id = some previous) :
    (doc.attach parent child).contains previous = true := by
  rw [wellFormed.contains_attach attachable]
  rw [wellFormed.previous?_attach attachable] at h
  split at h
  · exact wellFormed.contains_child (List.mem_of_getLast? h)
  · exact wellFormed.contains_previous h

theorem WellFormed.isElement_of_children_attach (wellFormed : doc.WellFormed)
    (attachable : Attachable doc parent child) {up : NodeId}
    (h : (doc.attach parent child).children up ≠ []) :
    (doc.attach parent child).isElement up = true := by
  rw [wellFormed.isElement_attach attachable]
  rw [wellFormed.children_attach attachable] at h
  split at h
  · rename_i hup
    rw [hup]
    exact attachable.isElement
  · exact wellFormed.isElement_of_children h

/-! The order of the children: the child is last, and the previous last child is before it. -/

theorem WellFormed.not_mem_children_of_detached (wellFormed : doc.WellFormed)
    (h : doc.parent? child = none) (id : NodeId) : child ∉ doc.children id := by
  intro hmem
  have hparent := wellFormed.parent?_of_mem hmem
  rw [h] at hparent
  cases hparent

theorem WellFormed.getLast?_children_unique (wellFormed : doc.WellFormed) {first second id : NodeId}
    (hlast : (doc.children first).getLast? = some id) (hmem : id ∈ doc.children second) :
    second = first := by
  have hfirst := wellFormed.parent?_of_mem (List.mem_of_getLast? hlast)
  have hsecond := wellFormed.parent?_of_mem hmem
  rw [hfirst] at hsecond
  cases hsecond
  rfl

theorem WellFormed.mem_children_attach (wellFormed : doc.WellFormed)
    (attachable : Attachable doc parent child) {up down : NodeId} :
    down ∈ (doc.attach parent child).children up ↔
      (doc.attach parent child).parent? down = some up := by
  rw [wellFormed.children_attach attachable, wellFormed.parent?_attach attachable]
  have hnotMem := wellFormed.not_mem_children_of_detached attachable.detached
  by_cases hup : up = parent <;> by_cases hdown : down = child
  · simp [hup, hdown]
  · simp [hup, hdown, wellFormed.mem_children_iff]
  · have hne : ¬ parent = up := fun h => hup h.symm
    simp [hup, hdown, hnotMem, hne]
  · simp [hup, hdown, wellFormed.mem_children_iff]

theorem WellFormed.nodup_children_attach (wellFormed : doc.WellFormed)
    (attachable : Attachable doc parent child) (up : NodeId) :
    ((doc.attach parent child).children up).Nodup := by
  rw [wellFormed.children_attach attachable]
  split
  · refine List.nodup_append.mpr ⟨wellFormed.nodup_children parent, by simp, ?_⟩
    intro old hold new hnew same
    rw [List.mem_singleton.mp hnew] at same
    rw [same] at hold
    exact wellFormed.not_mem_children_of_detached attachable.detached parent hold
  · exact wellFormed.nodup_children up

theorem WellFormed.next_of_neighbours_attach (wellFormed : doc.WellFormed)
    (attachable : Attachable doc parent child) {up left right : NodeId}
    {before after : List NodeId}
    (h : (doc.attach parent child).children up = before ++ left :: right :: after) :
    (doc.attach parent child).next? left = some right := by
  rw [wellFormed.next?_attach attachable]
  rw [wellFormed.children_attach attachable] at h
  split at h
  · rcases neighbours_concat h with ⟨rest, hold⟩ | ⟨hlast, hright⟩
    · rw [if_neg, wellFormed.next_of_neighbours hold]
      intro hlast
      have hleft := wellFormed.next_of_last hlast
      rw [wellFormed.next_of_neighbours hold] at hleft
      cases hleft
    · rw [if_pos hlast, hright]
  · rename_i hup
    rw [if_neg, wellFormed.next_of_neighbours h]
    intro hlast
    exact hup (wellFormed.getLast?_children_unique hlast (by simp [h]))

theorem WellFormed.previous_of_neighbours_attach (wellFormed : doc.WellFormed)
    (attachable : Attachable doc parent child) {up left right : NodeId}
    {before after : List NodeId}
    (h : (doc.attach parent child).children up = before ++ left :: right :: after) :
    (doc.attach parent child).previous? right = some left := by
  have hnotMem := wellFormed.not_mem_children_of_detached attachable.detached
  rw [wellFormed.previous?_attach attachable]
  rw [wellFormed.children_attach attachable] at h
  split at h
  · rcases neighbours_concat h with ⟨rest, hold⟩ | ⟨hlast, hright⟩
    · rw [if_neg, wellFormed.previous_of_neighbours hold]
      intro hright
      exact hnotMem parent (by simp [hold, hright])
    · rw [if_pos hright, hlast]
  · rw [if_neg, wellFormed.previous_of_neighbours h]
    intro hright
    exact hnotMem up (by simp [h, hright])

theorem WellFormed.previous_of_first_attach (wellFormed : doc.WellFormed)
    (attachable : Attachable doc parent child) {up first : NodeId}
    (h : ((doc.attach parent child).children up).head? = some first) :
    (doc.attach parent child).previous? first = none := by
  have hnotMem := wellFormed.not_mem_children_of_detached attachable.detached
  rw [wellFormed.previous?_attach attachable]
  rw [wellFormed.children_attach attachable] at h
  split at h
  · rcases head?_concat h with hold | ⟨hempty, hfirst⟩
    · rw [if_neg, wellFormed.previous_of_first hold]
      intro hfirst
      rw [hfirst] at hold
      exact hnotMem parent (List.mem_of_head? hold)
    · rw [if_pos hfirst, hempty]
      rfl
  · rw [if_neg, wellFormed.previous_of_first h]
    intro hfirst
    rw [hfirst] at h
    exact hnotMem up (List.mem_of_head? h)

theorem WellFormed.next_of_last_attach (wellFormed : doc.WellFormed)
    (attachable : Attachable doc parent child) {up last : NodeId}
    (h : ((doc.attach parent child).children up).getLast? = some last) :
    (doc.attach parent child).next? last = none := by
  rw [wellFormed.next?_attach attachable]
  rw [wellFormed.children_attach attachable] at h
  split at h
  · have hlast : last = child := by simpa [eq_comm] using h
    rw [hlast, if_neg, wellFormed.next_of_detached attachable.detached]
    intro hold
    exact wellFormed.not_mem_children_of_detached attachable.detached parent
      (List.mem_of_getLast? hold)
  · rename_i hup
    rw [if_neg, wellFormed.next_of_last h]
    intro hold
    exact hup (wellFormed.getLast?_children_unique hold (List.mem_of_getLast? h))

/-! A detached node has no neighbours, and the root is a detached element. -/

theorem WellFormed.next_of_detached_attach (wellFormed : doc.WellFormed)
    (attachable : Attachable doc parent child) {id : NodeId}
    (h : (doc.attach parent child).parent? id = none) :
    (doc.attach parent child).next? id = none := by
  rw [wellFormed.parent?_attach attachable] at h
  split at h
  · cases h
  · rw [wellFormed.next?_attach attachable, if_neg, wellFormed.next_of_detached h]
    intro hlast
    rw [wellFormed.parent?_of_mem (List.mem_of_getLast? hlast)] at h
    cases h

theorem WellFormed.previous_of_detached_attach (wellFormed : doc.WellFormed)
    (attachable : Attachable doc parent child) {id : NodeId}
    (h : (doc.attach parent child).parent? id = none) :
    (doc.attach parent child).previous? id = none := by
  rw [wellFormed.parent?_attach attachable] at h
  split at h
  · cases h
  · rename_i hid
    rw [wellFormed.previous?_attach attachable, if_neg hid, wellFormed.previous_of_detached h]

theorem WellFormed.root_isElement_attach (wellFormed : doc.WellFormed)
    (attachable : Attachable doc parent child) {root : NodeId}
    (h : (doc.attach parent child).root = some root) :
    (doc.attach parent child).isElement root = true := by
  rw [root_attach] at h
  rw [wellFormed.isElement_attach attachable]
  exact wellFormed.root_isElement h

theorem WellFormed.root_detached_attach (wellFormed : doc.WellFormed)
    (attachable : Attachable doc parent child) {root : NodeId}
    (h : (doc.attach parent child).root = some root) :
    (doc.attach parent child).parent? root = none := by
  rw [root_attach] at h
  rw [wellFormed.parent?_attach attachable, if_neg, wellFormed.root_detached h]
  intro hroot
  rw [hroot] at h
  exact attachable.not_root h

theorem WellFormed.attach (wellFormed : doc.WellFormed)
    (attachable : Attachable doc parent child) : (doc.attach parent child).WellFormed where
  contains_parent := wellFormed.contains_parent_attach attachable
  contains_child := wellFormed.contains_child_attach attachable
  contains_next := wellFormed.contains_next_attach attachable
  contains_previous := wellFormed.contains_previous_attach attachable
  mem_children_iff := wellFormed.mem_children_attach attachable
  nodup_children := wellFormed.nodup_children_attach attachable
  isElement_of_children := wellFormed.isElement_of_children_attach attachable
  next_of_neighbours := wellFormed.next_of_neighbours_attach attachable
  previous_of_neighbours := wellFormed.previous_of_neighbours_attach attachable
  previous_of_first := wellFormed.previous_of_first_attach attachable
  next_of_last := wellFormed.next_of_last_attach attachable
  next_of_detached := wellFormed.next_of_detached_attach attachable
  previous_of_detached := wellFormed.previous_of_detached_attach attachable
  ends := wellFormed.ends_attach attachable
  root_isElement := wellFormed.root_isElement_attach attachable
  root_detached := wellFormed.root_detached_attach attachable

theorem WellFormed.appendChild {changed : Document} (wellFormed : doc.WellFormed)
    (h : doc.appendChild parent child = ⟨changed, .ok ()⟩) : changed.WellFormed := by
  rcases appendChild_eq_ok_iff.mp h with ⟨attachable, rfl⟩
  exact wellFormed.attach attachable

end Attach
end Document
end TreeQuery
