import TreeQuery.Document.Build
import TreeQuery.Proofs.Document.Attachment

/-!
# Building a tree into a document

Building never fails.  Every node that it attaches has just been created, so it is detached and
lies outside the document as it was before, and the nodes from before are not touched.
-/

namespace TreeQuery
namespace Document

/-! # Nodes that a change leaves alone -/

theorem WellFormed.ancestors_eq {old new : Document} (wellFormed : old.WellFormed)
    (wellFormed' : new.WellFormed)
    (hnode : forall id, old.contains id = true -> new.node? id = old.node? id) {id : NodeId}
    (h : old.contains id = true) : new.ancestors id = old.ancestors id := by
  induction id using wellFormed.ends.induction with
  | _ id ih =>
      have hparent : new.parent? id = old.parent? id := by
        rw [Document.parent?, hnode id h, Document.parent?]
      cases hcase : old.parent? id with
      | none =>
          rw [wellFormed.ancestors_of_detached hcase]
          exact wellFormed'.ancestors_of_detached (hparent.trans hcase)
      | some parent =>
          rw [wellFormed.ancestors_of_parent hcase,
            wellFormed'.ancestors_of_parent (hparent.trans hcase),
            ih parent hcase (wellFormed.contains_parent hcase)]

theorem isElement_of_node?_eq {old new : Document} {id : NodeId}
    (h : new.node? id = old.node? id) : new.isElement id = old.isElement id := by
  rw [isElement, element?, h, isElement, element?]

/-! # What building leaves behind -/

/-- A tree was built into the old document: its nodes are new, and its top is detached. -/
structure Built (old new : Document) : Prop where
  wellFormed : new.WellFormed
  id : new.id = old.id
  root : new.root = old.root
  size_lt : old.size < new.size
  detached : new.parent? old.fresh = none
  node? : forall id, old.contains id = true -> new.node? id = old.node? id

/-- Trees were built below a parent.  Its children are younger than itself, and the nodes older
than itself are untouched. -/
structure Filled (old : Document) (parent : NodeId) (new : Document) : Prop where
  wellFormed : new.WellFormed
  id : new.id = old.id
  root : new.root = old.root
  size_le : old.size ≤ new.size
  isElement : new.isElement parent = true
  parent? : new.parent? parent = old.parent? parent
  younger : forall child, child ∈ new.children parent -> parent.index < child.index
  node? : forall id, old.contains id = true -> id.index < parent.index ->
    new.node? id = old.node? id

theorem Filled.trans {first second third : Document} {parent : NodeId}
    (h : Filled first parent second) (h' : Filled second parent third) :
    Filled first parent third where
  wellFormed := h'.wellFormed
  id := h'.id.trans h.id
  root := h'.root.trans h.root
  size_le := Nat.le_trans h.size_le h'.size_le
  isElement := h'.isElement
  parent? := h'.parent?.trans h.parent?
  younger := h'.younger
  node? := by
    intro id hcontains hindex
    have hcontains' : second.contains id = true := by
      rw [contains, h.node? id hcontains hindex]
      exact hcontains
    rw [h'.node? id hcontains' hindex, h.node? id hcontains hindex]

theorem built_create {doc : Document} (wellFormed : doc.WellFormed) (content : Content) :
    Built doc (doc.create content).1 where
  wellFormed := wellFormed.create content
  id := rfl
  root := rfl
  size_lt := by simp
  detached := by
    rw [Document.parent?, node?_create, if_pos rfl]
    rfl
  node? := by
    intro id hid
    rw [node?_create, if_neg]
    intro same
    rw [same] at hid
    exact not_contains_fresh doc hid

theorem Built.attachable {old new : Document} {parent : NodeId} (built : Built old new)
    (wellFormed : old.WellFormed) (helement : old.isElement parent = true) :
    Attachable new parent old.fresh where
  isElement := by
    rw [isElement_of_node?_eq (built.node? parent (contains_of_isElement helement))]
    exact helement
  contains := by
    apply contains_iff_index.mpr
    exact ⟨built.id.symm, built.size_lt⟩
  detached := built.detached
  not_root := by
    intro hroot
    rw [built.root] at hroot
    exact not_contains_fresh old (contains_of_isElement (wellFormed.root_isElement hroot))
  ne := by
    intro same
    rw [same] at helement
    exact not_contains_fresh old (contains_of_isElement helement)
  not_above := by
    rw [wellFormed.ancestors_eq built.wellFormed built.node? (contains_of_isElement helement)]
    intro habove
    exact not_contains_fresh old (wellFormed.contains_of_mem_ancestors habove)

theorem Built.filled {old new : Document} {parent : NodeId} (built : Built old new)
    (wellFormed : old.WellFormed) (helement : old.isElement parent = true)
    (hyounger : forall child, child ∈ old.children parent -> parent.index < child.index) :
    Filled old parent (new.attach parent old.fresh) := by
  have attachable := built.attachable wellFormed helement
  have hcontains := contains_of_isElement helement
  have hindex : parent.index < old.fresh.index := (contains_iff_index.mp hcontains).2
  have hchildren : new.children parent = old.children parent := by
    rw [children_eq, built.node? parent hcontains, children_eq]
  constructor
  case wellFormed => exact built.wellFormed.attach attachable
  case id => rw [id_attach, built.id]
  case root => rw [root_attach, built.root]
  case size_le =>
    rw [size_attach]
    exact Nat.le_of_lt built.size_lt
  case isElement =>
    rw [built.wellFormed.isElement_attach attachable]
    exact attachable.isElement
  case parent? =>
    rw [built.wellFormed.parent?_attach attachable, if_neg attachable.ne, Document.parent?,
      built.node? parent hcontains, Document.parent?]
  case younger =>
    intro child hchild
    rw [built.wellFormed.children_attach attachable, if_pos rfl, hchildren] at hchild
    rcases List.mem_append.mp hchild with hold | hnew
    · exact hyounger child hold
    · rw [List.mem_singleton.mp hnew]
      exact hindex
  case node? =>
    intro id hid hlt
    have hnotParent : id ≠ parent := by
      intro same
      rw [same] at hlt
      omega
    have hnotChild : id ≠ old.fresh := by
      intro same
      rw [same] at hlt
      omega
    have hnotLast : (new.children parent).getLast? ≠ some id := by
      rw [hchildren]
      intro hlast
      have := hyounger id (List.mem_of_getLast? hlast)
      omega
    rw [built.wellFormed.node?_attach attachable, built.node? id hid]
    cases old.node? id <;> simp [relinked, hnotParent, hnotChild, hnotLast]

/-! # Building -/

theorem node?_create_fresh (doc : Document) (content : Content) :
    (doc.create content).1.node? doc.fresh = some (.detached content) := by
  rw [node?_create, if_pos rfl]

theorem children_create_fresh (doc : Document) (content : Content) :
    (doc.create content).1.children doc.fresh = [] := by
  rw [children_eq, node?_create_fresh]
  rfl

theorem isElement_create_fresh (doc : Document) (element : Element) :
    (doc.create (.element element)).1.isElement doc.fresh = true := by
  rw [isElement, element?, node?_create_fresh]
  rfl

theorem younger_create_fresh (doc : Document) (content : Content) :
    forall child, child ∈ (doc.create content).1.children doc.fresh ->
      doc.fresh.index < child.index := by
  rw [children_create_fresh]
  simp

theorem build_element (doc : Document) (tag : Text) (attributes : Dictionary)
    (children : List Tree) :
    doc.build (.element tag attributes children) =
      ((doc.create (.element (.ofTag tag (.ofList attributes.entries)))).1.buildChildren doc.fresh
        children).andThen (fun new _ => ⟨new, .ok doc.fresh⟩) := by
  rw [build]
  rfl

theorem buildChildren_cons {doc grown changed : Document} {parent child : NodeId} {tree : Tree}
    (hbuild : doc.build tree = ⟨grown, .ok child⟩)
    (happend : grown.appendChild parent child = ⟨changed, .ok ()⟩) (rest : List Tree) :
    doc.buildChildren parent (tree :: rest) = changed.buildChildren parent rest := by
  rw [buildChildren, hbuild]
  simp only [Edited.andThen, happend]

mutual

theorem exists_build {doc : Document} (wellFormed : doc.WellFormed) :
    forall tree : Tree, exists new, doc.build tree = ⟨new, .ok doc.fresh⟩ ∧ Built doc new
  | .text payload => by
      refine ⟨(doc.createText payload).1, by rw [build]; rfl, ?_⟩
      exact built_create wellFormed (.text payload)
  | .element tag attributes children => by
      let element := Element.ofTag tag (.ofList attributes.entries)
      have created : Built doc (doc.create (.element element)).1 :=
        built_create wellFormed (.element element)
      rcases exists_buildChildren created.wellFormed (isElement_create_fresh doc element)
        (younger_create_fresh doc _) children with ⟨new, hbuild, filled⟩
      refine ⟨new, ?_, ?_⟩
      · rw [build_element, hbuild]
        rfl
      · exact
          { wellFormed := filled.wellFormed
            id := filled.id
            root := filled.root
            size_lt := Nat.lt_of_lt_of_le created.size_lt filled.size_le
            detached := filled.parent?.trans created.detached
            node? := by
              intro id hid
              have hcontains : (doc.create (.element element)).1.contains id = true := by
                rw [contains, created.node? id hid]
                exact hid
              rw [filled.node? id hcontains (contains_iff_index.mp hid).2, created.node? id hid] }

theorem exists_buildChildren {doc : Document} {parent : NodeId} (wellFormed : doc.WellFormed)
    (helement : doc.isElement parent = true)
    (hyounger : forall child, child ∈ doc.children parent -> parent.index < child.index) :
    forall trees : List Tree,
      exists new, doc.buildChildren parent trees = ⟨new, .ok ()⟩ ∧ Filled doc parent new
  | [] =>
      ⟨doc, by rw [buildChildren],
        ⟨wellFormed, rfl, rfl, Nat.le_refl _, helement, rfl, hyounger, fun _ _ _ => rfl⟩⟩
  | tree :: rest => by
      rcases exists_build wellFormed tree with ⟨grown, hbuild, built⟩
      have filled := built.filled wellFormed helement hyounger
      rcases exists_buildChildren filled.wellFormed filled.isElement filled.younger rest with
        ⟨new, hrest, filled'⟩
      have happend : grown.appendChild parent doc.fresh = ⟨grown.attach parent doc.fresh, .ok ()⟩ :=
        appendChild_eq_ok_iff.mpr ⟨built.attachable wellFormed helement, rfl⟩
      refine ⟨new, ?_, filled.trans filled'⟩
      rw [buildChildren_cons hbuild happend]
      exact hrest

end

end Document
end TreeQuery
