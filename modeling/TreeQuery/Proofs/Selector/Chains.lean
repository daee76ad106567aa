import TreeQuery.Proofs.Document.History
import TreeQuery.Proofs.Document.Siblings
import TreeQuery.Selector.Combinator
import TreeQuery.Selector.Evaluation

/-!
# Chains of compounds

A sequence of compounds joined by combinators matches an element exactly when there is a chain of
elements, one for each compound, that ends in this element and in which each link is the relation
that its combinator names.  No link leads to the root of the query.
-/

namespace TreeQuery
namespace Selector

/-! # What a combinator relates -/

/-- How the element for the left side of a combinator stands to the one for the right side. -/
def Combinator.Relates (doc : Document) : Combinator -> NodeId -> NodeId -> Prop
  | .child, left, right => doc.parent? right = some left
  | .descendant, left, right => Relation.TransGen doc.IsParent left right
  | .nextSibling, left, right =>
      doc.isElement left = true ∧ exists parent before between after,
        doc.parent? right = some parent ∧
        doc.children parent = before ++ left :: (between ++ right :: after) ∧
        forall node, node ∈ between -> doc.isElement node = false
  | .subsequentSibling, left, right =>
      doc.isElement left = true ∧ exists parent before between after,
        doc.parent? right = some parent ∧
        doc.children parent = before ++ left :: (between ++ right :: after)
  | .group, _, _ => False

theorem joinAll_concat (first : Matcher) (links : List (Combinator × Matcher))
    (combinator : Combinator) (right : Matcher) :
    joinAll first (links ++ [(combinator, right)]) = combinator.join (joinAll first links) right := by
  simp [joinAll]

/-- The elements of a path match the compounds of a sequence one by one, and each is related to
the next as the combinator between them says. -/
structure Traces (doc : Document) (root : NodeId) (first : Matcher)
    (links : List (Combinator × Matcher)) (path : Nat -> NodeId) : Prop where
  isElement : forall i, i ≤ links.length -> doc.isElement (path i) = true
  first : first.accepts doc root (path 0) = true
  accepts : forall i (h : i < links.length), links[i].2.accepts doc root (path (i + 1)) = true
  ne_root : forall i, i < links.length -> path (i + 1) ≠ root
  relates : forall i (h : i < links.length), links[i].1.Relates doc (path i) (path (i + 1))

/-! # One combinator -/

theorem isElement_of_accepts {doc : Document} {root candidate : NodeId} {matcher : Matcher}
    (h : matcher.accepts doc root candidate = true) : doc.isElement candidate = true := by
  unfold Document.isElement
  cases helement : doc.element? candidate with
  | some element => rfl
  | none => cases matcher <;> simp [Matcher.accepts, Document.isElement, helement] at h

theorem accepts_pair {doc : Document} {root candidate : NodeId} {first second : Matcher} :
    (Matcher.all [first, second]).accepts doc root candidate = true ↔
      first.accepts doc root candidate = true ∧ second.accepts doc root candidate = true := by
  simp only [Matcher.accepts, Matcher.acceptsAll, Bool.and_true, Bool.and_eq_true]
  constructor
  · intro h
    exact h.2
  · intro h
    exact ⟨isElement_of_accepts h.1, h⟩

section Relations

variable {doc : Document} {root candidate : NodeId} {inner : Matcher}

theorem accepts_parent (h : doc.isElement candidate = true) :
    (Matcher.parent inner).accepts doc root candidate = true ↔
      candidate ≠ root ∧ exists left, Combinator.child.Relates doc left candidate ∧
        inner.accepts doc root left = true := by
  simp only [Matcher.accepts, h, Bool.true_and, Bool.and_eq_true, bne_iff_ne, Option.any_eq_true,
    Combinator.Relates]

theorem accepts_ancestor (wellFormed : doc.WellFormed) (h : doc.isElement candidate = true) :
    (Matcher.ancestor inner).accepts doc root candidate = true ↔
      candidate ≠ root ∧ exists left, Combinator.descendant.Relates doc left candidate ∧
        inner.accepts doc root left = true := by
  simp only [Matcher.accepts, h, Bool.true_and, Bool.and_eq_true, bne_iff_ne, List.any_eq_true,
    Combinator.Relates, wellFormed.mem_ancestors_iff_transGen]

theorem relates_nextSibling_iff (wellFormed : doc.WellFormed) {left right : NodeId} :
    Combinator.nextSibling.Relates doc left right ↔
      (doc.precedingSiblings right).find? doc.isElement = some left := by
  rw [List.find?_eq_some_iff_append]
  constructor
  · intro h
    rcases h with ⟨helement, parent, before, between, after, hparent, hsplit, hbetween⟩
    refine ⟨helement, between.reverse, before.reverse, ?_, ?_⟩
    · apply wellFormed.precedingSiblings_split_iff.mpr
      rw [List.reverse_reverse, List.reverse_reverse]
      exact ⟨parent, after, hparent, hsplit⟩
    · intro node hnode
      simp [hbetween node (List.mem_reverse.mp hnode)]
  · intro h
    rcases h with ⟨helement, between, rest, hwalk, hbetween⟩
    rcases wellFormed.precedingSiblings_split_iff.mp hwalk with ⟨parent, after, hparent, hsplit⟩
    refine ⟨helement, parent, rest.reverse, between.reverse, after, hparent, hsplit, ?_⟩
    intro node hnode
    simpa using hbetween node (List.mem_reverse.mp hnode)

theorem accepts_previous (wellFormed : doc.WellFormed) (h : doc.isElement candidate = true) :
    (Matcher.previous inner).accepts doc root candidate = true ↔
      candidate ≠ root ∧ exists left, Combinator.nextSibling.Relates doc left candidate ∧
        inner.accepts doc root left = true := by
  simp only [Matcher.accepts, h, Bool.true_and, Bool.and_eq_true, bne_iff_ne, Option.any_eq_true,
    relates_nextSibling_iff wellFormed]

theorem relates_subsequentSibling_iff (wellFormed : doc.WellFormed) {left right : NodeId} :
    Combinator.subsequentSibling.Relates doc left right ↔
      doc.isElement left = true ∧ left ∈ doc.precedingSiblings right := by
  constructor
  · intro h
    rcases h with ⟨helement, parent, before, between, after, hparent, hsplit⟩
    have hwalk : doc.precedingSiblings right = between.reverse ++ left :: before.reverse := by
      apply wellFormed.precedingSiblings_split_iff.mpr
      rw [List.reverse_reverse, List.reverse_reverse]
      exact ⟨parent, after, hparent, hsplit⟩
    rw [hwalk]
    exact ⟨helement, List.mem_append_right _ List.mem_cons_self⟩
  · intro h
    rcases h with ⟨helement, hmem⟩
    rcases List.append_of_mem hmem with ⟨between, rest, hwalk⟩
    rcases wellFormed.precedingSiblings_split_iff.mp hwalk with ⟨parent, after, hparent, hsplit⟩
    exact ⟨helement, parent, rest.reverse, between.reverse, after, hparent, hsplit⟩

theorem accepts_before (wellFormed : doc.WellFormed) (h : doc.isElement candidate = true) :
    (Matcher.before inner).accepts doc root candidate = true ↔
      candidate ≠ root ∧ exists left, Combinator.subsequentSibling.Relates doc left candidate ∧
        inner.accepts doc root left = true := by
  simp only [Matcher.accepts, h, Bool.true_and, Bool.and_eq_true, bne_iff_ne, List.any_eq_true,
    relates_subsequentSibling_iff wellFormed]
  constructor
  · rintro ⟨hroot, left, hmem, haccepts⟩
    exact ⟨hroot, left, ⟨isElement_of_accepts haccepts, hmem⟩, haccepts⟩
  · rintro ⟨hroot, left, ⟨_, hmem⟩, haccepts⟩
    exact ⟨hroot, left, hmem, haccepts⟩

/-- The right side matches the candidate, which is not the root, and the left side matches an
element that the combinator relates to it. -/
theorem accepts_join (wellFormed : doc.WellFormed) {combinator : Combinator}
    (hgroup : combinator ≠ .group) {left right : Matcher} :
    (combinator.join left right).accepts doc root candidate = true ↔
      right.accepts doc root candidate = true ∧ candidate ≠ root ∧
        exists node, combinator.Relates doc node candidate ∧
          left.accepts doc root node = true := by
  cases combinator with
  | group => exact absurd rfl hgroup
  | child =>
      rw [Combinator.join, accepts_pair]
      exact and_congr_right fun h => accepts_parent (isElement_of_accepts h)
  | descendant =>
      rw [Combinator.join, accepts_pair]
      exact and_congr_right fun h => accepts_ancestor wellFormed (isElement_of_accepts h)
  | nextSibling =>
      rw [Combinator.join, accepts_pair]
      exact and_congr_right fun h => accepts_previous wellFormed (isElement_of_accepts h)
  | subsequentSibling =>
      rw [Combinator.join, accepts_pair]
      exact and_congr_right fun h => accepts_before wellFormed (isElement_of_accepts h)

end Relations

/-! # A whole chain -/

section Paths

variable {doc : Document} {root : NodeId} {first right : Matcher}
  {links : List (Combinator × Matcher)} {combinator : Combinator}

theorem Traces.concat {path : Nat -> NodeId} (traces : Traces doc root first links path)
    {candidate : NodeId} (haccepts : right.accepts doc root candidate = true)
    (hroot : candidate ≠ root) (hrelates : combinator.Relates doc (path links.length) candidate) :
    Traces doc root first (links ++ [(combinator, right)])
      (fun i => if i ≤ links.length then path i else candidate) := by
  constructor
  case isElement =>
    intro i hi
    by_cases hold : i ≤ links.length
    · simp only [hold, if_true]
      exact traces.isElement i hold
    · simp only [hold, if_false]
      exact isElement_of_accepts haccepts
  case first =>
    simpa using traces.first
  case accepts =>
    intro i hi
    rcases Nat.lt_or_ge i links.length with hold | hnew
    · have hnext : i + 1 ≤ links.length := hold
      simp only [hnext, if_true]
      rw [List.getElem_append_left hold]
      exact traces.accepts i hold
    · have hlast : i = links.length := by
        simp at hi
        omega
      have hnext : ¬ i + 1 ≤ links.length := by omega
      subst hlast
      simp only [hnext, if_false, List.getElem_concat_length]
      exact haccepts
  case ne_root =>
    intro i hi
    rcases Nat.lt_or_ge i links.length with hold | hnew
    · have hnext : i + 1 ≤ links.length := hold
      simp only [hnext, if_true]
      exact traces.ne_root i hold
    · have hnext : ¬ i + 1 ≤ links.length := by omega
      simp only [hnext, if_false]
      exact hroot
  case relates =>
    intro i hi
    rcases Nat.lt_or_ge i links.length with hold | hnew
    · have hnext : i + 1 ≤ links.length := hold
      have hhere : i ≤ links.length := Nat.le_of_lt hold
      simp only [hnext, hhere, if_true]
      rw [List.getElem_append_left hold]
      exact traces.relates i hold
    · have hlast : i = links.length := by
        simp at hi
        omega
      have hnext : ¬ i + 1 ≤ links.length := by omega
      subst hlast
      simp only [hnext, if_false, Nat.le_refl, if_true, List.getElem_concat_length]
      exact hrelates

theorem Traces.init {path : Nat -> NodeId}
    (traces : Traces doc root first (links ++ [(combinator, right)]) path) :
    Traces doc root first links path := by
  have hlength : (links ++ [(combinator, right)]).length = links.length + 1 := by simp
  constructor
  case isElement => exact fun i hi => traces.isElement i (by omega)
  case first => exact traces.first
  case accepts =>
    intro i hi
    have h := traces.accepts i (by omega)
    rwa [List.getElem_append_left hi] at h
  case ne_root => exact fun i hi => traces.ne_root i (by omega)
  case relates =>
    intro i hi
    have h := traces.relates i (by omega)
    rwa [List.getElem_append_left hi] at h

theorem Traces.last {path : Nat -> NodeId}
    (traces : Traces doc root first (links ++ [(combinator, right)]) path) :
    right.accepts doc root (path (links.length + 1)) = true ∧ path (links.length + 1) ≠ root ∧
      combinator.Relates doc (path links.length) (path (links.length + 1)) := by
  have hlength : links.length < (links ++ [(combinator, right)]).length := by simp
  have haccepts := traces.accepts links.length hlength
  have hrelates := traces.relates links.length hlength
  simp only [List.getElem_concat_length] at haccepts hrelates
  exact ⟨haccepts, traces.ne_root links.length hlength, hrelates⟩

theorem accepts_joinAll (wellFormed : doc.WellFormed)
    (hlinks : forall link, link ∈ links -> link.1 ≠ .group) (candidate : NodeId) :
    (joinAll first links).accepts doc root candidate = true ↔
      exists path, path links.length = candidate ∧ Traces doc root first links path := by
  induction links using List.reverseRecOn generalizing candidate with
  | nil =>
      constructor
      · intro h
        refine ⟨fun _ => candidate, rfl, fun _ _ => isElement_of_accepts h, h, ?_, ?_, ?_⟩ <;>
          simp
      · rintro ⟨path, rfl, traces⟩
        exact traces.first
  | append_singleton links link ih =>
      obtain ⟨combinator, right⟩ := link
      have hgroup : combinator ≠ .group := hlinks (combinator, right) (by simp)
      have hinit : forall link, link ∈ links -> link.1 ≠ .group := by
        intro link hlink
        exact hlinks link (List.mem_append_left _ hlink)
      rw [joinAll_concat, accepts_join wellFormed hgroup]
      constructor
      · rintro ⟨haccepts, hroot, node, hrelates, hleft⟩
        rcases (ih hinit node).mp hleft with ⟨path, rfl, traces⟩
        have hlength : (links ++ [(combinator, right)]).length = links.length + 1 := by simp
        have hnext : ¬ links.length + 1 ≤ links.length := by omega
        refine ⟨_, ?_, traces.concat haccepts hroot hrelates⟩
        rw [hlength, if_neg hnext]
      · rintro ⟨path, rfl, traces⟩
        rcases traces.last with ⟨haccepts, hroot, hrelates⟩
        rw [List.length_append, List.length_singleton]
        exact ⟨haccepts, hroot, path links.length, hrelates,
          (ih hinit _).mpr ⟨path, rfl, traces.init⟩⟩

end Paths

/-- A sequence matches a candidate exactly if a path of elements that matches its compounds and
follows its combinators ends there; with a combinator, the root of the query never matches. -/
theorem sequence_accepts_iff_traces {doc : Document} (reachable : doc.Reachable) (root : NodeId)
    (first : Matcher) (links : List (Combinator × Matcher))
    (hlinks : forall link, link ∈ links -> link.1 ≠ .group) :
    (forall candidate, (joinAll first links).accepts doc root candidate = true ↔
      exists path, path links.length = candidate ∧ Traces doc root first links path) ∧
    (links ≠ [] -> (joinAll first links).accepts doc root root = false) := by
  have hiff : forall candidate, (joinAll first links).accepts doc root candidate = true ↔
      exists path, path links.length = candidate ∧ Traces doc root first links path :=
    accepts_joinAll reachable.wellFormed hlinks
  constructor
  · exact hiff
  · intro hne
    apply Bool.eq_false_iff.mpr
    intro haccepts
    rcases (hiff root).mp haccepts with ⟨path, hlast, traces⟩
    have hlength : 0 < links.length := List.length_pos_iff.mpr hne
    have hroot := traces.ne_root (links.length - 1) (by omega)
    rw [Nat.sub_add_cancel hlength] at hroot
    exact hroot hlast

/-- The second item comes right after the first, since the text in between does not count. -/
theorem sequence_accepts_iff_traces_twoItems :
    Document.twoItems.Reachable ∧
    (exists path : Nat -> NodeId, path 1 = ⟨0, 3⟩ ∧
      Traces Document.twoItems ⟨0, 0⟩ (.tag "li") [(.nextSibling, .tag "li")] path) ∧
    (joinAll (.tag "li") [(.nextSibling, .tag "li")]).accepts Document.twoItems ⟨0, 0⟩ ⟨0, 0⟩ =
      false := by
  have hlinks : forall link, link ∈ [(Combinator.nextSibling, Matcher.tag "li")] ->
      link.1 ≠ .group := by
    simp
  rcases sequence_accepts_iff_traces Document.reachable_twoItems ⟨0, 0⟩ (.tag "li")
    [(.nextSibling, .tag "li")] hlinks with ⟨hiff, hroot⟩
  refine ⟨Document.reachable_twoItems, ?_, hroot (by simp)⟩
  exact (hiff ⟨0, 3⟩).mp rfl

end Selector
end TreeQuery
