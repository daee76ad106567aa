import TreeQuery.Document.Build
import TreeQuery.Proofs.Document.Attributes
import TreeQuery.Proofs.Document.Preorder
import TreeQuery.Proofs.Text.Lowercase

/-!
# Descriptions

The description of a node is a tree in normal form that says what each node at or below it holds.
It depends on the contents and the children of these nodes only, so that a document in which
other nodes hold the same and have corresponding children describes them by the same tree.
-/

namespace TreeQuery

/-! # Normal forms -/

namespace Element

theorem ext {first second : Element} (htag : first.tag = second.tag)
    (hattributes : first.attributes = second.attributes) : first = second := by
  cases first
  cases second
  cases htag
  cases hattributes
  rfl

theorem lower_tag (element : Element) : Text.lower element.tag = element.tag := by
  rcases element.lowered with ⟨given, hgiven⟩
  rw [hgiven, Text.lower_lower]

theorem ofTag_self (element : Element) :
    ofTag element.tag (.ofList element.attributes.values.entries) = element :=
  ext element.lower_tag element.attributes.ofList_entries

end Element

namespace Tree

/-- The values under their folded names; of names that fold to the same one the last counts. -/
def foldedAttributes (attributes : Dictionary) : Dictionary :=
  .ofList (foldNames attributes.entries)

mutual
/-- The tree with its tags in lower case and the names of its attributes folded. -/
def normalize : Tree -> Tree
  | .text payload => .text payload
  | .element tag attributes children =>
      .element (Text.lower tag) (foldedAttributes attributes) (normalizeAll children)

def normalizeAll : List Tree -> List Tree
  | [] => []
  | tree :: rest => normalize tree :: normalizeAll rest
end

mutual
/-- What the nodes of a tree hold, each before those below it. -/
def contents : Tree -> List Content
  | .text payload => [.text payload]
  | .element tag attributes children =>
      .element (.ofTag tag (.ofList attributes.entries)) :: contentsOfAll children

def contentsOfAll : List Tree -> List Content
  | [] => []
  | tree :: rest => contents tree ++ contentsOfAll rest
end

def size (tree : Tree) : Nat :=
  tree.contents.length

theorem get?_foldedAttributes (attributes : Dictionary) (name : Text) :
    (foldedAttributes attributes).get? name = lastValue name (foldNames attributes.entries) :=
  Dictionary.get?_ofList _ _

theorem normalizeAll_eq (trees : List Tree) : normalizeAll trees = trees.map normalize := by
  induction trees with
  | nil => rfl
  | cons tree rest ih => rw [normalizeAll, ih, List.map_cons]

theorem contentsOfAll_eq (trees : List Tree) : contentsOfAll trees = trees.flatMap contents := by
  induction trees with
  | nil => rfl
  | cons tree rest ih => rw [contentsOfAll, ih, List.flatMap_cons]

theorem ofTag_normalized (tag : Text) (attributes : Dictionary) :
    Element.ofTag (Text.lower tag) (.ofList (foldedAttributes attributes).entries) =
      Element.ofTag tag (.ofList attributes.entries) := by
  have hvalues : foldedAttributes attributes = (Attributes.ofList attributes.entries).values :=
    (Attributes.values_ofList _).symm
  apply Element.ext
  · exact Text.lower_lower tag
  · rw [hvalues]
    exact Attributes.ofList_entries _

mutual

theorem contents_normalize : forall tree : Tree, tree.normalize.contents = tree.contents
  | .text payload => rfl
  | .element tag attributes children => by
      rw [normalize, contents, contents, ofTag_normalized, contentsOfAll_normalizeAll children]

theorem contentsOfAll_normalizeAll :
    forall trees : List Tree, contentsOfAll (normalizeAll trees) = contentsOfAll trees
  | [] => rfl
  | tree :: rest => by
      rw [normalizeAll, contentsOfAll, contentsOfAll, contents_normalize tree,
        contentsOfAll_normalizeAll rest]

end

end Tree

/-! # Lists on which an operation succeeds throughout -/

theorem exists_map_eq_map_some {α β : Type} {operation : α -> Option β} {items : List α}
    (h : forall item, item ∈ items -> exists result, operation item = some result) :
    exists results : List β, items.map operation = results.map some := by
  induction items with
  | nil => exact ⟨[], rfl⟩
  | cons item rest ih =>
      rcases h item List.mem_cons_self with ⟨result, hresult⟩
      rcases ih (fun item hitem => h item (List.mem_cons_of_mem _ hitem)) with ⟨results, hresults⟩
      exact ⟨result :: results, by rw [List.map_cons, hresult, hresults, List.map_cons]⟩

theorem exists_of_map_eq_map_some {α β : Type} {operation : α -> Option β} {items : List α}
    {results : List β} (h : items.map operation = results.map some) {result : β}
    (hresult : result ∈ results) : exists item, item ∈ items ∧ operation item = some result := by
  have hmem : some result ∈ items.map operation := by
    rw [h]
    exact List.mem_map_of_mem hresult
  exact List.mem_map.mp hmem

theorem filterMap_of_map_eq_map_some {α β : Type} {operation : α -> Option β} {items : List α}
    {results : List β} (h : items.map operation = results.map some) :
    items.filterMap operation = results := by
  have hsome := congrArg (List.filterMap (fun result? => result?)) h
  simpa [List.filterMap_map, Function.comp_def] using hsome

theorem flatMap_eq_of_map_eq_map_some {α β γ : Type} {operation : α -> Option β}
    {items : List α} {results : List β} {left : α -> List γ} {right : β -> List γ}
    (h : items.map operation = results.map some)
    (hsame : forall item, item ∈ items -> forall result, operation item = some result ->
      left item = right result) : items.flatMap left = results.flatMap right := by
  induction items generalizing results with
  | nil =>
      rw [List.map_eq_nil_iff.mp h.symm]
      rfl
  | cons item rest ih =>
      cases results with
      | nil => simp at h
      | cons result results =>
          rw [List.map_cons, List.map_cons, List.cons.injEq] at h
          rw [List.flatMap_cons, List.flatMap_cons, hsame item List.mem_cons_self result h.1,
            ih h.2 fun item hitem => hsame item (List.mem_cons_of_mem _ hitem)]

namespace Document

/-! # What a node is described by -/

section Describe

variable {doc : Document}

theorem node?_of_content? {id : NodeId} {content : Content} (h : doc.content? id = some content) :
    exists node, doc.node? id = some node ∧ node.content = content :=
  Option.map_eq_some_iff.mp h

theorem exists_content? {id : NodeId} (h : doc.contains id = true) :
    exists content, doc.content? id = some content := by
  rcases contains_iff.mp h with ⟨node, hnode⟩
  exact ⟨node.content, by rw [content?, hnode, Option.map_some]⟩

theorem contains_of_content? {id : NodeId} {content : Content}
    (h : doc.content? id = some content) : doc.contains id = true := by
  rcases node?_of_content? h with ⟨node, hnode, _⟩
  exact contains_of_node? hnode

theorem describeWithin_text {depth : Nat} {id : NodeId} {payload : Text}
    (h : doc.content? id = some (.text payload)) :
    doc.describeWithin (depth + 1) id = some (.text payload) := by
  rcases node?_of_content? h with ⟨⟨content, _, _, _, _⟩, hnode, hcontent⟩
  cases hcontent
  rw [describeWithin, hnode]

theorem describeWithin_element {depth : Nat} {id : NodeId} {element : Element}
    (h : doc.content? id = some (.element element)) :
    doc.describeWithin (depth + 1) id =
      some (.element element.tag element.attributes.values
        ((doc.children id).filterMap (doc.describeWithin depth))) := by
  rcases node?_of_content? h with ⟨⟨content, _, _, _, _⟩, hnode, hcontent⟩
  cases hcontent
  rw [describeWithin, hnode, children, hnode]

theorem describeWithin_none {depth : Nat} {id : NodeId} (h : doc.node? id = none) :
    doc.describeWithin depth id = none := by
  cases depth with
  | zero => rfl
  | succ depth => rw [describeWithin, h]

theorem describe?_text {id : NodeId} {payload : Text}
    (h : doc.content? id = some (.text payload)) : doc.describe? id = some (.text payload) :=
  describeWithin_text h

theorem exists_describe? {id : NodeId} (h : doc.contains id = true) :
    exists tree, doc.describe? id = some tree := by
  rcases exists_content? h with ⟨content, hcontent⟩
  cases content with
  | text payload => exact ⟨_, describeWithin_text hcontent⟩
  | element element => exact ⟨_, describeWithin_element hcontent⟩

theorem describeWithin_congr {first second : Nat} {id : NodeId}
    (h : forall child, child ∈ doc.children id ->
      doc.describeWithin first child = doc.describeWithin second child) :
    doc.describeWithin (first + 1) id = doc.describeWithin (second + 1) id := by
  cases hcontent : doc.content? id with
  | none =>
      have hnode : doc.node? id = none := Option.map_eq_none_iff.mp hcontent
      rw [describeWithin_none hnode, describeWithin_none hnode]
  | some content =>
      cases content with
      | text payload => rw [describeWithin_text hcontent, describeWithin_text hcontent]
      | element element =>
          rw [describeWithin_element hcontent, describeWithin_element hcontent,
            List.filterMap_congr h]

namespace WellFormed

theorem describe?_element (wellFormed : doc.WellFormed) {id : NodeId} {element : Element}
    {trees : List Tree} (h : doc.content? id = some (.element element))
    (htrees : (doc.children id).map doc.describe? = trees.map some) :
    doc.describe? id = some (.element element.tag element.attributes.values trees) := by
  have hbelow : (doc.children id).filterMap (doc.describeWithin doc.size) = trees := by
    have hdepth : (doc.children id).filterMap (doc.describeWithin doc.size) =
        (doc.children id).filterMap doc.describe? := by
      apply List.filterMap_congr
      intro child hchild
      have hlength := wellFormed.length_ancestors_of_child hchild
      exact wellFormed.within_eq doc.describeWithin describeWithin_congr (by omega) (by omega)
    rw [hdepth, filterMap_of_map_eq_map_some htrees]
  rw [describe?, describeWithin_element h, hbelow]

theorem children_of_text (wellFormed : doc.WellFormed) {id : NodeId} {payload : Text}
    (h : doc.content? id = some (.text payload)) : doc.children id = [] := by
  apply Classical.byContradiction
  intro hne
  rcases isElement_iff.mp (wellFormed.isElement_of_children hne) with ⟨element, helement⟩
  rw [h] at helement
  cases helement

theorem exists_describe?_children (wellFormed : doc.WellFormed) (id : NodeId) :
    exists trees : List Tree, (doc.children id).map doc.describe? = trees.map some :=
  exists_map_eq_map_some fun _ hchild => exists_describe? (wellFormed.contains_child hchild)

theorem describe?_cases (wellFormed : doc.WellFormed) {id : NodeId} {tree : Tree}
    (h : doc.describe? id = some tree) :
    (exists payload, doc.content? id = some (.text payload) ∧ doc.children id = [] ∧
      tree = .text payload) ∨
    (exists element trees, doc.content? id = some (.element element) ∧
      (doc.children id).map doc.describe? = trees.map some ∧
      tree = .element element.tag element.attributes.values trees) := by
  cases hcontent : doc.content? id with
  | none =>
      have hnode : doc.node? id = none := Option.map_eq_none_iff.mp hcontent
      rw [describe?, describeWithin_none hnode] at h
      cases h
  | some content =>
      cases content with
      | text payload =>
          rw [describe?_text hcontent] at h
          cases h
          exact Or.inl ⟨payload, rfl, wellFormed.children_of_text hcontent, rfl⟩
      | element element =>
          rcases wellFormed.exists_describe?_children id with ⟨trees, htrees⟩
          rw [wellFormed.describe?_element hcontent htrees] at h
          cases h
          exact Or.inr ⟨element, trees, rfl, htrees, rfl⟩

/-! # What a description says -/

theorem map_content?_subtree (wellFormed : doc.WellFormed) {id : NodeId} {tree : Tree}
    (h : doc.describe? id = some tree) :
    (doc.subtree id).map doc.content? = tree.contents.map some := by
  induction id using wellFormed.children_induction generalizing tree with
  | step id ih =>
      rcases wellFormed.describe?_cases h with
        ⟨payload, hcontent, hchildren, rfl⟩ | ⟨element, trees, hcontent, htrees, rfl⟩
      · rw [wellFormed.subtree_eq, hchildren]
        simp [hcontent, Tree.contents]
      · have hbelow : ((doc.children id).flatMap doc.subtree).map doc.content? =
            (trees.flatMap Tree.contents).map some := by
          rw [List.map_flatMap, List.map_flatMap]
          exact flatMap_eq_of_map_eq_map_some htrees fun child hchild tree htree =>
            ih child hchild htree
        rw [wellFormed.subtree_eq, List.map_cons, hbelow, hcontent, Tree.contents,
          element.ofTag_self, Tree.contentsOfAll_eq, List.map_cons]

theorem map_content?_flatMap (wellFormed : doc.WellFormed) {ids : List NodeId}
    {trees : List Tree} (h : ids.map doc.describe? = trees.map some) :
    (ids.flatMap doc.subtree).map doc.content? = (trees.flatMap Tree.contents).map some := by
  rw [List.map_flatMap, List.map_flatMap]
  exact flatMap_eq_of_map_eq_map_some h fun _ _ _ htree => wellFormed.map_content?_subtree htree

theorem normalize_describe? (wellFormed : doc.WellFormed) {id : NodeId} {tree : Tree}
    (h : doc.describe? id = some tree) : tree.normalize = tree := by
  induction id using wellFormed.children_induction generalizing tree with
  | step id ih =>
      rcases wellFormed.describe?_cases h with
        ⟨payload, _, _, rfl⟩ | ⟨element, trees, _, htrees, rfl⟩
      · rfl
      · have hkept : forall tree, tree ∈ trees -> tree.normalize = tree := by
          intro tree htree
          rcases exists_of_map_eq_map_some htrees htree with ⟨child, hchild, hdescribed⟩
          exact ih child hchild hdescribed
        have hchildren : trees.map Tree.normalize = trees :=
          (List.map_congr_left hkept).trans (List.map_id _)
        have hattributes : Tree.foldedAttributes element.attributes.values =
            element.attributes.values := by
          rw [Tree.foldedAttributes, Attributes.foldNames_entries, Dictionary.ofList_entries]
        rw [Tree.normalize, element.lower_tag, hattributes, Tree.normalizeAll_eq, hchildren]

end WellFormed
end Describe
end Document
end TreeQuery
