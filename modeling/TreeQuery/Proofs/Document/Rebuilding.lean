import TreeQuery.Proofs.Document.History
import TreeQuery.Proofs.Document.Resemblance

/-!
# Building a tree and describing it again

Building gives the nodes of a tree the next identities in preorder, and the topmost of them is
described by the tree in normal form.  A tree that is complete is not touched while its siblings
are built, so that its description stays what it was.
-/

namespace TreeQuery
namespace Document

/-! # The next identities -/

def upcoming (doc : Document) (count : Nat) : List NodeId :=
  (List.range count).map (fun place => ⟨doc.id, doc.size + place⟩)

theorem upcoming_add {doc grown : Document} {first : Nat} (hid : grown.id = doc.id)
    (hsize : grown.size = doc.size + first) (second : Nat) :
    doc.upcoming (first + second) = doc.upcoming first ++ grown.upcoming second := by
  rw [upcoming, List.range_add, List.map_append, List.map_map]
  simp [upcoming, hid, hsize, Nat.add_assoc, Function.comp_def]

theorem not_contains_of_mem_upcoming {doc : Document} {count : Nat} {id : NodeId}
    (h : id ∈ doc.upcoming count) : ¬ doc.contains id = true := by
  rcases List.mem_map.mp h with ⟨place, _, rfl⟩
  simp [contains_iff_index]

/-! # What was built -/

/-- The nodes of a tree were created in a document, the topmost of them first. -/
structure Holds (old new : Document) (tree : Tree) : Prop where
  size : new.size = old.size + tree.size
  subtree : new.subtree old.fresh = old.upcoming tree.size
  describe? : new.describe? old.fresh = some tree.normalize

/-- The nodes of trees were created in a document, and their topmost nodes were appended to a
parent.  Nothing else has changed. -/
structure HoldsBelow (old : Document) (parent : NodeId) (new : Document)
    (trees : List Tree) : Prop where
  size : new.size = old.size + (Tree.contentsOfAll trees).length
  content? : forall id, old.contains id = true -> new.content? id = old.content? id
  children : forall id, old.contains id = true -> id ≠ parent -> new.children id = old.children id
  tops : exists tops, new.children parent = old.children parent ++ tops ∧
    tops.map new.describe? = (Tree.normalizeAll trees).map some ∧
    tops.flatMap new.subtree = old.upcoming (Tree.contentsOfAll trees).length

theorem holds_create_text {doc : Document} (wellFormed : doc.WellFormed) (payload : Text) :
    Holds doc (doc.create (.text payload)).1 (.text payload) := by
  have created := built_create wellFormed (.text payload)
  have hcontent : (doc.create (.text payload)).1.content? doc.fresh = some (.text payload) := by
    rw [content?, node?_create_fresh]
    rfl
  constructor
  case size => exact size_create doc _
  case subtree =>
    rw [created.wellFormed.subtree_eq, created.wellFormed.children_of_text hcontent]
    rfl
  case describe? => exact describe?_text hcontent

theorem HoldsBelow.holds {doc new : Document} {tag : Text} {attributes : Dictionary}
    {children : List Tree} {element : Element}
    (helement : element = .ofTag tag (.ofList attributes.entries)) (wellFormed : new.WellFormed)
    (below : HoldsBelow (doc.create (.element element)).1 doc.fresh new children) :
    Holds doc new (.element tag attributes children) := by
  have hnode := node?_create_fresh doc (.element element)
  have hcontent : new.content? doc.fresh = some (.element element) := by
    rw [below.content? doc.fresh (contains_of_node? hnode), Document.content?, hnode]
    rfl
  rcases below.tops with ⟨tops, htops, hdescribed, hlisted⟩
  have hchildren : new.children doc.fresh = tops := by
    rw [htops, children_create_fresh, List.nil_append]
  rw [← hchildren] at hdescribed hlisted
  have hcount : (Tree.element tag attributes children).size =
      1 + (Tree.contentsOfAll children).length := by
    rw [Tree.size, Tree.contents, List.length_cons, Nat.add_comm]
  have hsize := size_create doc (.element element)
  constructor
  case size => rw [below.size, hsize, hcount, Nat.add_assoc]
  case subtree =>
    rw [wellFormed.subtree_eq, hlisted, hcount, upcoming_add (id_create doc _) hsize]
    rfl
  case describe? =>
    rw [wellFormed.describe?_element hcontent hdescribed, Tree.normalize, helement,
      Tree.foldedAttributes, ← Attributes.values_ofList]
    rfl

theorem Holds.below {doc grown new : Document} {parent : NodeId} {tree : Tree} {rest : List Tree}
    (wellFormed : doc.WellFormed) (helement : doc.isElement parent = true)
    (built : Built doc grown) (holds : Holds doc grown tree) (wellFormed' : new.WellFormed)
    (below : HoldsBelow (grown.attach parent doc.fresh) parent new rest) :
    HoldsBelow doc parent new (tree :: rest) := by
  have attachable := built.attachable wellFormed helement
  have hcontains := contains_of_isElement helement
  have hkept : forall id, doc.contains id = true -> grown.contains id = true := by
    intro id hid
    rw [contains, built.node? id hid]
    exact hid
  have hcontent : forall id, grown.contains id = true -> new.content? id = grown.content? id := by
    intro id hid
    rw [below.content? id (by rwa [built.wellFormed.contains_attach attachable]),
      built.wellFormed.content?_attach attachable]
  have hchildren : forall id, grown.contains id = true -> id ≠ parent ->
      new.children id = grown.children id := by
    intro id hid hne
    rw [below.children id (by rwa [built.wellFormed.contains_attach attachable]) hne,
      built.wellFormed.children_attach attachable, if_neg hne]
  have resembles : Resembles grown new (fun id => id) doc.fresh := by
    have hlisted : forall id, id ∈ grown.subtree doc.fresh ->
        grown.contains id = true ∧ id ≠ parent := by
      intro id hid
      refine ⟨built.wellFormed.contains_of_mem_subtree attachable.contains hid, ?_⟩
      rintro rfl
      rw [holds.subtree] at hid
      exact not_contains_of_mem_upcoming hid hcontains
    constructor
    · intro id hid
      exact hcontent id (hlisted id hid).1
    · intro id hid
      rw [List.map_id', hchildren id (hlisted id hid).1 (hlisted id hid).2]
  rcases below.tops with ⟨tops, htops, hdescribed, hlisted⟩
  constructor
  case size =>
    rw [below.size, size_attach, holds.size, Tree.contentsOfAll, List.length_append, Tree.size]
    omega
  case content? =>
    intro id hid
    rw [hcontent id (hkept id hid), content?, built.node? id hid, content?]
  case children =>
    intro id hid hne
    rw [hchildren id (hkept id hid) hne, children_eq, built.node? id hid, children_eq]
  case tops =>
    refine ⟨doc.fresh :: tops, ?_, ?_, ?_⟩
    · rw [htops, built.wellFormed.children_attach attachable, if_pos rfl, children_eq,
        built.node? parent hcontains, children_eq, List.append_assoc]
      rfl
    · rw [List.map_cons, hdescribed, resembles.describe?_image built.wellFormed wellFormed',
        holds.describe?]
      rfl
    · have hsubtree : new.subtree doc.fresh = doc.upcoming tree.size := by
        rw [resembles.subtree_image built.wellFormed wellFormed', List.map_id', holds.subtree]
      have hid : (grown.attach parent doc.fresh).id = doc.id := by rw [id_attach, built.id]
      have hsize : (grown.attach parent doc.fresh).size = doc.size + tree.size := by
        rw [size_attach, holds.size]
      rw [List.flatMap_cons, hlisted, hsubtree, Tree.contentsOfAll, List.length_append,
        ← Tree.size, upcoming_add hid hsize]

mutual

theorem holds_build {doc new : Document} (wellFormed : doc.WellFormed) :
    forall tree : Tree, doc.build tree = ⟨new, .ok doc.fresh⟩ -> Holds doc new tree
  | .text payload, h => by
      cases h
      exact holds_create_text wellFormed payload
  | .element tag attributes children, h => by
      let element := Element.ofTag tag (.ofList attributes.entries)
      have wellFormed' := wellFormed.create (.element element)
      have helement := isElement_create_fresh doc element
      have hyounger := younger_create_fresh doc (.element element)
      rcases exists_buildChildren wellFormed' helement hyounger children with
        ⟨changed, hbuild, filled⟩
      rw [build_element, hbuild] at h
      cases h
      have below := holdsBelow_buildChildren wellFormed' helement hyounger children hbuild
      exact below.holds rfl filled.wellFormed

theorem holdsBelow_buildChildren {doc new : Document} {parent : NodeId}
    (wellFormed : doc.WellFormed) (helement : doc.isElement parent = true)
    (hyounger : forall child, child ∈ doc.children parent -> parent.index < child.index) :
    forall trees : List Tree, doc.buildChildren parent trees = ⟨new, .ok ()⟩ ->
      HoldsBelow doc parent new trees
  | [], h => by
      rw [buildChildren] at h
      cases h
      exact ⟨rfl, fun _ _ => rfl, fun _ _ _ => rfl, [], (List.append_nil _).symm, rfl, rfl⟩
  | tree :: rest, h => by
      rcases exists_build wellFormed tree with ⟨grown, hbuild, built⟩
      have filled := built.filled wellFormed helement hyounger
      have happend : grown.appendChild parent doc.fresh = ⟨grown.attach parent doc.fresh, .ok ()⟩ :=
        appendChild_eq_ok_iff.mpr ⟨built.attachable wellFormed helement, rfl⟩
      rw [buildChildren_cons hbuild happend] at h
      rcases exists_buildChildren filled.wellFormed filled.isElement filled.younger rest with
        ⟨changed, hrest, filled'⟩
      rw [h] at hrest
      cases hrest
      have holds := holds_build wellFormed tree hbuild
      have below := holdsBelow_buildChildren filled.wellFormed filled.isElement filled.younger rest h
      exact holds.below wellFormed helement built filled'.wellFormed below

end

/-! # Documents of one tree -/

theorem resembles_root (doc : Document) (root : Option NodeId) (id : NodeId) :
    Resembles doc { doc with root := root } (fun id => id) id where
  content? _ _ := rfl
  children _ _ := (List.map_id' _).symm

theorem Holds.setRoot {old new changed : Document} {tree : Tree} {id : NodeId}
    (holds : Holds old new tree) (wellFormed : new.WellFormed)
    (h : new.setRoot id = ⟨changed, .ok ()⟩) : Holds old changed tree := by
  have wellFormed' := wellFormed.setRoot h
  rcases setRoot_eq_ok_iff.mp h with ⟨_, _, rfl⟩
  have resembles := resembles_root new (some id) old.fresh
  constructor
  case size => exact holds.size
  case subtree =>
    have hsubtree := resembles.subtree_image wellFormed wellFormed'
    rw [List.map_id'] at hsubtree
    exact hsubtree.trans holds.subtree
  case describe? => exact (resembles.describe?_image wellFormed wellFormed').trans holds.describe?

theorem ofTree_text (number : Nat) (payload : Text) :
    ofTree number (.text payload) = .error (.notAnElement ⟨number, 0⟩) := by
  have hbuild : (empty number).build (.text payload) =
      ⟨((empty number).create (.text payload)).1, .ok (empty number).fresh⟩ := by
    rw [build]
    rfl
  have hnode := node?_create_fresh (empty number) (.text payload)
  have hother : ((empty number).create (.text payload)).1.isElement (empty number).fresh = false := by
    rw [isElement, element?, hnode]
    rfl
  have hroot : ((empty number).create (.text payload)).1.setRoot (empty number).fresh =
      ⟨((empty number).create (.text payload)).1, .error (.notAnElement (empty number).fresh)⟩ := by
    rw [setRoot, hnode]
    simp only [hother]
    rfl
  simp only [ofTree, hbuild, Edited.andThen, hroot]
  rfl

theorem exists_ofTree (number : Nat) (tag : Text) (attributes : Dictionary)
    (children : List Tree) :
    exists new, ofTree number (.element tag attributes children) = .ok new ∧ new.WellFormed ∧
      new.root = some ⟨number, 0⟩ ∧ new.parent? ⟨number, 0⟩ = none ∧
      Holds (empty number) new (.element tag attributes children) := by
  have wellFormed := wellFormed_empty number
  rcases exists_build wellFormed (.element tag attributes children) with ⟨new, hbuild, built⟩
  have holds := holds_build wellFormed _ hbuild
  have helement : new.isElement (empty number).fresh = true := by
    rcases built.wellFormed.describe?_cases holds.describe? with
      ⟨payload, _, _, htree⟩ | ⟨element, _, hcontent, _, _⟩
    · cases htree
    · exact isElement_iff.mpr ⟨element, hcontent⟩
  have hroot : new.setRoot (empty number).fresh =
      ⟨{ new with root := some (empty number).fresh }, .ok ()⟩ :=
    setRoot_eq_ok_iff.mpr ⟨helement, built.detached, rfl⟩
  refine ⟨{ new with root := some (empty number).fresh }, ?_, built.wellFormed.setRoot hroot, rfl,
    built.detached, holds.setRoot built.wellFormed hroot⟩
  simp only [ofTree, hbuild, Edited.andThen, hroot]
  rfl

/-- Building puts the nodes of a tree behind those that are there, in preorder, and describing
them gives the tree in normal form.  A new document is made of every tree but a text. -/
theorem build_normalizes {doc : Document} (reachable : doc.Reachable) (tree : Tree) :
    (exists new, doc.build tree = ⟨new, .ok ⟨doc.id, doc.size⟩⟩ ∧
      new.id = doc.id ∧ new.root = doc.root ∧ new.size = doc.size + tree.size ∧
      (forall id, doc.contains id = true -> new.node? id = doc.node? id) ∧
      new.parent? ⟨doc.id, doc.size⟩ = none ∧
      new.subtree ⟨doc.id, doc.size⟩ =
        (List.range tree.size).map (fun place => ⟨doc.id, doc.size + place⟩) ∧
      (new.subtree ⟨doc.id, doc.size⟩).map new.content? = tree.contents.map some ∧
      new.describe? ⟨doc.id, doc.size⟩ = some tree.normalize) ∧
    (forall number,
      match tree with
      | .text _ => ofTree number tree = .error (.notAnElement ⟨number, 0⟩)
      | .element _ _ _ => exists new, ofTree number tree = .ok new ∧
          new.root = some ⟨number, 0⟩ ∧ new.describe? ⟨number, 0⟩ = some tree.normalize) ∧
    (forall attributes name, (Tree.foldedAttributes attributes).get? name =
      lastValue name (foldNames attributes.entries)) := by
  refine ⟨?_, ?_, Tree.get?_foldedAttributes⟩
  · rcases exists_build reachable.wellFormed tree with ⟨new, hbuild, built⟩
    have holds := holds_build reachable.wellFormed tree hbuild
    have hcontents := built.wellFormed.map_content?_subtree holds.describe?
    rw [Tree.contents_normalize] at hcontents
    exact ⟨new, hbuild, built.id, built.root, holds.size, built.node?, built.detached,
      holds.subtree, hcontents, holds.describe?⟩
  · intro number
    cases tree with
    | text payload => exact ofTree_text number payload
    | element tag attributes children =>
        rcases exists_ofTree number tag attributes children with
          ⟨new, hnew, _, hroot, _, holds⟩
        exact ⟨new, hnew, hroot, holds.describe?⟩

/-- An item in capitals, in which one of two attributes of the same folded name is lost. -/
def capitals : Tree :=
  .element "LI" (.ofList [("ID", "first"), ("Id", "second")]) [.text " Text "]

theorem build_normalizes_capitals :
    twoItems.Reachable ∧ exists new, twoItems.build capitals = ⟨new, .ok ⟨0, 4⟩⟩ ∧
      new.subtree ⟨0, 4⟩ = [⟨0, 4⟩, ⟨0, 5⟩] ∧
      new.describe? ⟨0, 4⟩ =
        some (.element "li" (.ofList [("id", "second")]) [.text " Text "]) := by
  rcases build_normalizes reachable_twoItems capitals with
    ⟨⟨new, hbuild, _, _, _, _, _, hsubtree, _, hdescribe⟩, _⟩
  have hnormal : capitals.normalize =
      .element "li" (.ofList [("id", "second")]) [.text " Text "] := by
    rfl
  exact ⟨reachable_twoItems, new, hbuild, hsubtree, hnormal ▸ hdescribe⟩

end Document
end TreeQuery
