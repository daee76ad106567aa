import TreeQuery.Proofs.Document.Locality
import TreeQuery.Proofs.Document.Rebuilding
import TreeQuery.Proofs.Query.Results

/-!
# Queries and the shape of the tree

A query sees what the nodes of a tree hold and how they lie to each other, but not where they are
stored.  It gives corresponding results in a copy of the tree, and so in a new document that is
built from the description of the tree, and it gives the same results after any change elsewhere.
-/

namespace TreeQuery

/-! # Matchers in a copy -/

namespace Selector

variable {old new : Document} {image : NodeId -> NodeId} {top root id : NodeId}

theorem ne_image (copies : Document.Copies old new image top) (hroot : root ∈ old.subtree top)
    (h : id ∈ old.subtree top) : (image id != image root) = (id != root) := by
  rw [Bool.eq_iff_iff, bne_iff_ne, bne_iff_ne]
  constructor
  · intro hne hsame
    exact hne (by rw [hsame])
  · intro hne hsame
    exact hne (copies.injective h hroot hsame)

theorem any_image {test test' : NodeId -> Bool}
    (htest : forall id, id ∈ old.subtree top -> test' (image id) = test id) {ids : List NodeId}
    (hids : forall id, id ∈ ids -> id ∈ old.subtree top) :
    (ids.map image).any test' = ids.any test := by
  induction ids with
  | nil => rfl
  | cons id rest ih =>
      have hrest := ih fun other hother => hids other (List.mem_cons_of_mem _ hother)
      rw [List.map_cons, List.any_cons, List.any_cons, htest id (hids id List.mem_cons_self), hrest]

theorem filter_image {test test' : NodeId -> Bool}
    (htest : forall id, id ∈ old.subtree top -> test' (image id) = test id) {ids : List NodeId}
    (hids : forall id, id ∈ ids -> id ∈ old.subtree top) :
    (ids.map image).filter test' = (ids.filter test).map image := by
  rw [List.filter_map]
  congr 1
  exact List.filter_congr fun id hid => htest id (hids id hid)

theorem find?_image {test test' : NodeId -> Bool}
    (htest : forall id, id ∈ old.subtree top -> test' (image id) = test id) {ids : List NodeId}
    (hids : forall id, id ∈ ids -> id ∈ old.subtree top) :
    (ids.map image).find? test' = (ids.find? test).map image := by
  induction ids with
  | nil => rfl
  | cons id rest ih =>
      have hhead := htest id (hids id List.mem_cons_self)
      have hrest := ih fun other hother => hids other (List.mem_cons_of_mem _ hother)
      rw [List.map_cons, List.find?_cons, List.find?_cons, hhead, hrest]
      cases test id <;> rfl

mutual

theorem accepts_image (copies : Document.Copies old new image top) (hroot : root ∈ old.subtree top) :
    forall (matcher : Matcher) (id : NodeId), id ∈ old.subtree top ->
      matcher.accepts new (image root) (image id) = matcher.accepts old root id
  | .tag name, id, h => by rw [Matcher.accepts, copies.element?_image h, Matcher.accepts]
  | .id value, id, h => by rw [Matcher.accepts, copies.element?_image h, Matcher.accepts]
  | .className name, id, h => by rw [Matcher.accepts, copies.element?_image h, Matcher.accepts]
  | .attribute test, id, h => by rw [Matcher.accepts, copies.element?_image h, Matcher.accepts]
  | .universal, id, h => by rw [Matcher.accepts, copies.isElement_image h, Matcher.accepts]
  | .index comparison argument, id, h => by
      rw [Matcher.accepts, copies.isElement_image h, copies.indexInParent?_image h,
        Matcher.accepts]
  | .containsText needle, id, h => by
      rw [Matcher.accepts, copies.isElement_image h, copies.text_image h, Matcher.accepts]
  | .matchesText pattern, id, h => by
      rw [Matcher.accepts, copies.isElement_image h, copies.text_image h, Matcher.accepts]
  | .all tests, id, h => by
      rw [Matcher.accepts, copies.isElement_image h, acceptsAll_image copies hroot tests id h,
        Matcher.accepts]
  | .any tests, id, h => by
      rw [Matcher.accepts, copies.isElement_image h, acceptsAny_image copies hroot tests id h,
        Matcher.accepts]
  | .root, id, h => by
      have hsame : (image id == image root) = (id == root) := by
        have hne := ne_image copies hroot h
        rwa [bne, bne, Bool.not_inj_iff] at hne
      rw [Matcher.accepts, copies.isElement_image h, hsame, Matcher.accepts]
  | .has inner, id, h => by
      have hinner := accepts_image copies hroot inner
      have hmem : forall descendant, descendant ∈ old.descendants id ->
          descendant ∈ old.subtree top :=
        fun _ hdescendant => copies.wellFormed.descendant_mem_subtree h hdescendant
      rw [Matcher.accepts, copies.isElement_image h, copies.descendants_image h,
        any_image hinner hmem, Matcher.accepts]
  | .not inner, id, h => by
      rw [Matcher.accepts, copies.isElement_image h, accepts_image copies hroot inner id h,
        Matcher.accepts]
  | .parent inner, id, h => by
      have hinner := accepts_image copies hroot inner
      have hparent : (new.parent? (image id)).any (inner.accepts new (image root)) =
          (old.parent? id).any (inner.accepts old root) := by
        rw [copies.parent?_image h]
        cases hcase : old.parent? id with
        | none => rfl
        | some parent =>
            exact hinner parent (copies.wellFormed.parent_mem_subtree copies.detached h hcase)
      rw [Matcher.accepts, copies.isElement_image h, ne_image copies hroot h, hparent,
        Matcher.accepts]
  | .ancestor inner, id, h => by
      have hinner := accepts_image copies hroot inner
      have hmem : forall ancestor, ancestor ∈ old.ancestors id -> ancestor ∈ old.subtree top :=
        fun _ hancestor => copies.wellFormed.ancestor_mem_subtree copies.detached h hancestor
      rw [Matcher.accepts, copies.isElement_image h, ne_image copies hroot h,
        copies.ancestors_image h, any_image hinner hmem, Matcher.accepts]
  | .previous inner, id, h => by
      have hinner := accepts_image copies hroot inner
      have hmem : forall sibling, sibling ∈ old.precedingSiblings id ->
          sibling ∈ old.subtree top :=
        fun _ hsibling => copies.wellFormed.preceding_mem_subtree copies.detached h hsibling
      have hnearest :
          (((old.precedingSiblings id).map image).find? new.isElement).any
            (inner.accepts new (image root)) =
          ((old.precedingSiblings id).find? old.isElement).any (inner.accepts old root) := by
        rw [find?_image (fun _ hid => copies.isElement_image hid) hmem]
        cases hcase : (old.precedingSiblings id).find? old.isElement with
        | none => rfl
        | some sibling => exact hinner sibling (hmem sibling (List.mem_of_find?_eq_some hcase))
      rw [Matcher.accepts, copies.isElement_image h, ne_image copies hroot h,
        copies.precedingSiblings_image h, hnearest, Matcher.accepts]
  | .before inner, id, h => by
      have hinner := accepts_image copies hroot inner
      have hmem : forall sibling, sibling ∈ old.precedingSiblings id ->
          sibling ∈ old.subtree top :=
        fun _ hsibling => copies.wellFormed.preceding_mem_subtree copies.detached h hsibling
      rw [Matcher.accepts, copies.isElement_image h, ne_image copies hroot h,
        copies.precedingSiblings_image h, any_image hinner hmem, Matcher.accepts]

theorem acceptsAll_image (copies : Document.Copies old new image top) (hroot : root ∈ old.subtree top) :
    forall (tests : List Matcher) (id : NodeId), id ∈ old.subtree top ->
      Matcher.acceptsAll new (image root) tests (image id) = Matcher.acceptsAll old root tests id
  | [], _, _ => by rw [Matcher.acceptsAll, Matcher.acceptsAll]
  | test :: rest, id, h => by
      rw [Matcher.acceptsAll, accepts_image copies hroot test id h,
        acceptsAll_image copies hroot rest id h, Matcher.acceptsAll]

theorem acceptsAny_image (copies : Document.Copies old new image top) (hroot : root ∈ old.subtree top) :
    forall (tests : List Matcher) (id : NodeId), id ∈ old.subtree top ->
      Matcher.acceptsAny new (image root) tests (image id) = Matcher.acceptsAny old root tests id
  | [], _, _ => by rw [Matcher.acceptsAny, Matcher.acceptsAny]
  | test :: rest, id, h => by
      rw [Matcher.acceptsAny, accepts_image copies hroot test id h,
        acceptsAny_image copies hroot rest id h, Matcher.acceptsAny]

end

end Selector

/-! # The document of a description -/

namespace Document

/-- A tree is copied to the document that is built from its description.  The image of a node is
the one at its place in preorder. -/
theorem exists_rebuilt {doc : Document} {top : NodeId} (wellFormed : doc.WellFormed)
    (helement : doc.isElement top = true) (hdetached : doc.parent? top = none) (number : Nat) :
    exists tree rebuilt, doc.describe? top = some tree ∧ ofTree number tree = .ok rebuilt ∧
      Copies doc rebuilt (fun id => ⟨number, (doc.subtree top).idxOf id⟩) top := by
  rcases exists_describe? (contains_of_isElement helement) with ⟨tree, htree⟩
  rcases wellFormed.describe?_cases htree with
    ⟨payload, hcontent, _, _⟩ | ⟨element, trees, _, _, hshape⟩
  · rcases isElement_iff.mp helement with ⟨element, hcontent'⟩
    rw [hcontent] at hcontent'
    cases hcontent'
  rcases exists_ofTree number element.tag element.attributes.values trees with
    ⟨rebuilt, hrebuilt, wellFormed', _, hdetached', holds⟩
  rw [← hshape] at hrebuilt holds
  have hdescribed := holds.describe?
  rw [wellFormed.normalize_describe? htree] at hdescribed
  have hlength : (doc.subtree top).length = tree.size := by
    have hcontents := congrArg List.length (wellFormed.map_content?_subtree htree)
    simpa [Tree.size] using hcontents
  have hplace : forall id, id ∈ doc.subtree top ->
      (⟨number, (doc.subtree top).idxOf id⟩ : NodeId) =
        counterpart (doc.subtree top) (rebuilt.subtree (empty number).fresh) id := by
    intro id hid
    have hlt := List.idxOf_lt_length_iff.mpr hid
    rw [hlength] at hlt
    rw [counterpart, holds.subtree, upcoming]
    simp [hlt, empty, size]
  refine ⟨tree, rebuilt, htree, hrebuilt, ?_, wellFormed, wellFormed', hdetached, ?_⟩
  · exact (resembles_counterpart wellFormed wellFormed' htree hdescribed).congr wellFormed hplace
  · rw [hplace top (wellFormed.self_mem_subtree top), counterpart_self wellFormed wellFormed']
    exact hdetached'

end Document

/-! # Queries in a copy -/

namespace Query

variable {old new doc : Document} {image : NodeId -> NodeId} {top root : NodeId}

theorem answer_image (copies : Document.Copies old new image top) (hroot : root ∈ old.subtree top)
    (query : Query) : query.answer new (image root) = (query.answer old root).map image := by
  have hsubtree := (copies.resembles.below copies.wellFormed hroot).subtree_image
    copies.wellFormed copies.wellFormed'
  have hmem : forall id, id ∈ old.subtree root -> id ∈ old.subtree top :=
    fun id hid => copies.wellFormed.mem_subtree_trans hid hroot
  have hmem' : forall id, id ∈ old.elements root -> id ∈ old.subtree top :=
    fun id hid => hmem id (List.mem_filter.mp hid).1
  have helements : new.elements (image root) = (old.elements root).map image := by
    rw [Document.elements, hsubtree,
      Selector.filter_image (fun _ hid => copies.isElement_image hid) hmem, Document.elements]
  rw [answer, helements, Selector.filter_image (Selector.accepts_image copies hroot query.matcher)
    hmem', answer]

theorem select_image (copies : Document.Copies old new image top) (hroot : root ∈ old.subtree top)
    (query : Query) (helement : old.isElement root = true) :
    query.select new (image root) = .ok ((query.answer old root).map image) := by
  have helement' := (copies.isElement_image hroot).trans helement
  rw [select_of_element copies.wellFormed' helement', answer_image copies hroot]

theorem mem_subtree_of_mem_answer (wellFormed : doc.WellFormed) {query : Query}
    (hroot : root ∈ doc.subtree top) {id : NodeId} (h : id ∈ query.answer doc root) :
    id ∈ doc.subtree top :=
  wellFormed.mem_subtree_trans (List.mem_filter.mp (List.mem_filter.mp h).1).1 hroot

/-- A query gives corresponding results in the document that is built from the description of a
tree, and the same results after changes that name no node of the tree. -/
theorem select_rebuilt (reachable : doc.Reachable) (helement : doc.isElement top = true)
    (hdetached : doc.parent? top = none) :
    (forall number, exists tree rebuilt, doc.describe? top = some tree ∧
      Document.ofTree number tree = .ok rebuilt ∧
      forall (query : Query) position root, (doc.subtree top)[position]? = some root ->
        doc.isElement root = true ->
        exists found, query.select doc root = .ok found ∧
          (forall id, id ∈ found -> id ∈ doc.subtree top) ∧
          query.select rebuilt ⟨number, position⟩ =
            .ok (found.map (fun id => ⟨number, (doc.subtree top).idxOf id⟩))) ∧
    (forall changes : List Document.Change,
      (forall change, change ∈ changes ->
        forall id, id ∈ change.named -> id ∉ doc.subtree top) ->
      forall (query : Query) root, root ∈ doc.subtree top ->
        query.select (doc.run changes) root = query.select doc root) := by
  have wellFormed := reachable.wellFormed
  constructor
  · intro number
    rcases Document.exists_rebuilt wellFormed helement hdetached number with
      ⟨tree, rebuilt, htree, hrebuilt, copies⟩
    refine ⟨tree, rebuilt, htree, hrebuilt, ?_⟩
    intro query position root hposition hroot
    have hmem : root ∈ doc.subtree top := List.mem_of_getElem? hposition
    refine ⟨query.answer doc root, select_of_element wellFormed hroot, ?_, ?_⟩
    · exact fun id hid => mem_subtree_of_mem_answer wellFormed hmem hid
    · have hplace : (doc.subtree top).idxOf root = position := by
        rcases List.getElem?_eq_some_iff.mp hposition with ⟨hlt, hget⟩
        rw [← hget]
        exact (wellFormed.nodup_subtree top).idxOf_getElem position hlt
      have hselect := select_image copies hmem query hroot
      rwa [hplace] at hselect
  · intro changes houtside query root hroot
    have copies := Document.copies_run wellFormed (Document.contains_of_isElement helement)
      hdetached changes houtside
    cases hcase : doc.isElement root with
    | true =>
        have hselect := select_image copies hroot query hcase
        rw [List.map_id'] at hselect
        rw [select_of_element wellFormed hcase]
        exact hselect
    | false =>
        rw [select_of_other hcase]
        exact select_of_other ((copies.isElement_image hroot).trans hcase)

/-- A text of its own and a list whose second item is older than its first. -/
def scattered : Document :=
  (Document.empty 7).run
    [.createText "alone", .createElement "ul" .empty, .createElement "li" .empty,
      .createElement "li" .empty, .appendChild ⟨7, 1⟩ ⟨7, 3⟩, .appendChild ⟨7, 1⟩ ⟨7, 2⟩]

theorem select_rebuilt_scattered :
    scattered.Reachable ∧ scattered.isElement ⟨7, 1⟩ = true ∧ scattered.parent? ⟨7, 1⟩ = none ∧
    (exists tree rebuilt, scattered.describe? ⟨7, 1⟩ = some tree ∧
      Document.ofTree 0 tree = .ok rebuilt ∧
      (ofMatcher (.tag "li")).select scattered ⟨7, 1⟩ = .ok [⟨7, 3⟩, ⟨7, 2⟩] ∧
      (ofMatcher (.tag "li")).select rebuilt ⟨0, 0⟩ = .ok [⟨0, 1⟩, ⟨0, 2⟩]) ∧
    (ofMatcher (.tag "li")).select (scattered.run [.appendChild ⟨7, 0⟩ ⟨7, 0⟩, .createText "new"])
      ⟨7, 1⟩ = .ok [⟨7, 3⟩, ⟨7, 2⟩] := by
  have reachable : scattered.Reachable := ⟨7, _, rfl⟩
  have helement : scattered.isElement ⟨7, 1⟩ = true := rfl
  have hdetached : scattered.parent? ⟨7, 1⟩ = none := rfl
  have hfound : (ofMatcher (.tag "li")).select scattered ⟨7, 1⟩ = .ok [⟨7, 3⟩, ⟨7, 2⟩] := rfl
  have hsubtree : scattered.subtree ⟨7, 1⟩ = [⟨7, 1⟩, ⟨7, 3⟩, ⟨7, 2⟩] := rfl
  rcases select_rebuilt reachable helement hdetached with ⟨hrebuilt, hchanges⟩
  rcases hrebuilt 0 with ⟨tree, rebuilt, htree, hmade, hselect⟩
  rcases hselect (ofMatcher (.tag "li")) 0 ⟨7, 1⟩ rfl helement with ⟨found, hsame, _, himages⟩
  rw [hfound] at hsame
  cases hsame
  refine ⟨reachable, helement, hdetached, ⟨tree, rebuilt, htree, hmade, hfound, himages⟩, ?_⟩
  have houtside : forall change,
      change ∈ [Document.Change.appendChild ⟨7, 0⟩ ⟨7, 0⟩, .createText "new"] ->
      forall id, id ∈ change.named -> id ∉ scattered.subtree ⟨7, 1⟩ := by
    simp [Document.Change.named, hsubtree]
  exact (hchanges _ houtside (ofMatcher (.tag "li")) ⟨7, 1⟩ (by simp [hsubtree])).trans hfound

end Query
end TreeQuery
