import TreeQuery.Pattern.Search
import TreeQuery.Proofs.Document.History
import TreeQuery.Proofs.Document.Preorder
import TreeQuery.Query

/-!
# Results of queries

A query lists the elements of a subtree in their order and keeps those that its matcher accepts.
Every way to run a query is described by this list.
-/

namespace TreeQuery

/-! # The elements of a subtree -/

namespace Document

def elements (doc : Document) (id : NodeId) : List NodeId :=
  (doc.subtree id).filter doc.isElement

variable {doc : Document}

theorem WellFormed.elements_of_element (wellFormed : doc.WellFormed) {id : NodeId}
    (h : doc.isElement id = true) :
    doc.elements id = id :: (doc.children id).flatMap doc.elements := by
  rw [elements, wellFormed.subtree_eq, List.filter_cons_of_pos h, List.filter_flatMap]
  rfl

theorem WellFormed.elements_of_other (wellFormed : doc.WellFormed) {id : NodeId}
    (h : doc.isElement id = false) : doc.elements id = [] := by
  have hchildren : doc.children id = [] := by
    apply Classical.byContradiction
    intro hne
    have helement := wellFormed.isElement_of_children hne
    rw [h] at helement
    contradiction
  rw [elements, wellFormed.subtree_eq, hchildren, List.flatMap_nil,
    List.filter_cons_of_neg (by simp [h]), List.filter_nil]

theorem WellFormed.nodup_elements (wellFormed : doc.WellFormed) (id : NodeId) :
    (doc.elements id).Nodup :=
  (wellFormed.nodup_subtree id).filter _

theorem WellFormed.mem_elements_iff (wellFormed : doc.WellFormed) {top id : NodeId} :
    id ∈ doc.elements top ↔
      doc.isElement id = true ∧ (id = top ∨ top ∈ doc.ancestors id) := by
  rw [elements, List.mem_filter, wellFormed.mem_subtree_iff, and_comm]

end Document

/-! # The answer to a query -/

namespace Query

def answer (query : Query) (doc : Document) (root : NodeId) : List NodeId :=
  (doc.elements root).filter (query.matcher.accepts doc root)

variable {doc : Document} {query : Query} {root : NodeId}

theorem candidates_of_element (wellFormed : doc.WellFormed) (h : doc.isElement root = true) :
    candidates doc root = .ok (doc.elements root) := by
  rw [candidates, if_pos h, ← wellFormed.subtree_eq_cons_descendants, Document.elements]

theorem candidates_of_other (h : doc.isElement root = false) :
    candidates doc root = .error (.invalidRoot root) := by
  rw [candidates, if_neg (by simp [h])]

theorem select_of_element (wellFormed : doc.WellFormed) (h : doc.isElement root = true) :
    query.select doc root = .ok (query.answer doc root) := by
  rw [select, candidates_of_element wellFormed h, answer]

theorem select_of_other (h : doc.isElement root = false) :
    query.select doc root = .error (.invalidRoot root) := by
  rw [select, candidates_of_other h]

theorem selectFirst_of_element (wellFormed : doc.WellFormed) (h : doc.isElement root = true) :
    query.selectFirst doc root = .ok (query.answer doc root).head? := by
  rw [selectFirst, candidates_of_element wellFormed h, answer, List.head?_filter]

theorem selectFirst_of_other (h : doc.isElement root = false) :
    query.selectFirst doc root = .error (.invalidRoot root) := by
  rw [selectFirst, candidates_of_other h]

theorem selectAll_eq (wellFormed : doc.WellFormed) (roots : List NodeId) :
    query.selectAll doc roots =
      match roots.find? (fun root => !doc.isElement root) with
      | some bad => .error (.invalidRoot bad)
      | none => .ok (roots.flatMap (query.answer doc)) := by
  induction roots with
  | nil => rfl
  | cons root rest ih =>
      cases h : doc.isElement root with
      | false =>
          have hfind : (root :: rest).find? (fun root => !doc.isElement root) = some root :=
            List.find?_cons_of_pos (by simp [h])
          rw [selectAll, select_of_other h, hfind]
      | true =>
          have hfind : (root :: rest).find? (fun root => !doc.isElement root) =
              rest.find? (fun root => !doc.isElement root) :=
            List.find?_cons_of_neg (by simp [h])
          rw [selectAll, select_of_element wellFormed h, ih, hfind]
          cases rest.find? (fun root => !doc.isElement root) with
          | some bad => rfl
          | none => rfl

theorem selectDocument_eq (wellFormed : doc.WellFormed) :
    query.selectDocument doc =
      match doc.root with
      | none => .error .noDocumentRoot
      | some root => .ok (query.answer doc root) := by
  unfold selectDocument
  cases h : doc.root with
  | none => rfl
  | some root => exact select_of_element wellFormed (wellFormed.root_isElement h)

/-- From a root that is no element there is no answer. From one that is, the answer is a part of
the list of the elements of its subtree, complete and in their order, and without repetition. -/
theorem results_complete [Pattern.Engine]
    {doc : Document} (reachable : doc.Reachable) (query : Query) :
    (forall root, doc.isElement root = false ->
      query.select doc root = .error (.invalidRoot root) ∧
      query.selectFirst doc root = .error (.invalidRoot root)) ∧
    (forall root, doc.isElement root = true ->
      query.select doc root = .ok (query.answer doc root) ∧
      query.selectFirst doc root = .ok (query.answer doc root).head? ∧
      (query.answer doc root).Sublist (doc.elements root) ∧
      (query.answer doc root).Nodup ∧
      (forall id, id ∈ query.answer doc root ↔
        (doc.isElement id = true ∧ (id = root ∨ root ∈ doc.ancestors id)) ∧
          query.matcher.accepts doc root id = true) ∧
      doc.elements root = root :: (doc.children root).flatMap doc.elements) ∧
    (forall id, doc.isElement id = false -> doc.elements id = []) ∧
    (forall roots, query.selectAll doc roots =
      match roots.find? (fun root => !doc.isElement root) with
      | some bad => .error (.invalidRoot bad)
      | none => .ok (roots.flatMap (query.answer doc))) ∧
    (query.selectDocument doc =
      match doc.root with
      | none => .error .noDocumentRoot
      | some root => .ok (query.answer doc root)) ∧
    (forall text root, TreeQuery.query doc root text =
      (parse text).bind (fun query => query.select doc root)) ∧
    (forall text root, queryFirst doc root text =
      (parse text).bind (fun query => query.selectFirst doc root)) ∧
    (forall text, queryDocument doc text =
      (parse text).bind (fun query => query.selectDocument doc)) := by
  have wellFormed := reachable.wellFormed
  refine ⟨?_, ?_, ?_, selectAll_eq wellFormed, selectDocument_eq wellFormed, ?_, ?_, ?_⟩
  · intro root h
    exact ⟨select_of_other h, selectFirst_of_other h⟩
  · intro root h
    refine ⟨select_of_element wellFormed h, selectFirst_of_element wellFormed h,
      List.filter_sublist, (wellFormed.nodup_elements root).filter _, ?_,
      wellFormed.elements_of_element h⟩
    intro id
    rw [answer, List.mem_filter, wellFormed.mem_elements_iff]
  · intro id h
    exact wellFormed.elements_of_other h
  · intro text root
    unfold TreeQuery.query
    cases parse text with
    | error error => rfl
    | ok query => rfl
  · intro text root
    unfold queryFirst
    cases parse text with
    | error error => rfl
    | ok query => rfl
  · intro text
    unfold queryDocument
    cases parse text with
    | error error => rfl
    | ok query => rfl

theorem results_complete_twoItems :
    Document.twoItems.Reachable ∧
    (Query.ofMatcher (.tag "li")).select Document.twoItems ⟨0, 0⟩ = .ok [⟨0, 1⟩, ⟨0, 3⟩] ∧
    (Query.ofMatcher (.tag "li")).selectFirst Document.twoItems ⟨0, 2⟩ =
      .error (.invalidRoot ⟨0, 2⟩) := by
  rcases results_complete Document.reachable_twoItems (.ofMatcher (.tag "li"))
    with ⟨hother, helement, _⟩
  have hselect := (helement ⟨0, 0⟩ rfl).1
  have hfirst := (hother ⟨0, 2⟩ rfl).2
  exact ⟨Document.reachable_twoItems, hselect, hfirst⟩

end Query
end TreeQuery
