import TreeQuery.Proofs.Query.Results
import TreeQuery.Proofs.Selector.Chains

/-!
# Queries from an inner element

A step to the parent, to an ancestor or to a sibling is cut off at the root of a query only.  The
top of a tree has nothing to step to anyway, so that a matcher which neither negates a test nor
asks for the root accepts everything from there that it accepts from an inner element.
-/

namespace TreeQuery
namespace Selector

namespace Matcher

mutual
/-- Whether the matcher neither negates a test nor asks for the root of the query. -/
def isPositive : Matcher -> Bool
  | .tag _ => true
  | .id _ => true
  | .className _ => true
  | .attribute _ => true
  | .universal => true
  | .index _ _ => true
  | .containsText _ => true
  | .matchesText _ => true
  | .all tests => arePositive tests
  | .any tests => arePositive tests
  | .root => false
  | .has inner => inner.isPositive
  | .not _ => false
  | .parent inner => inner.isPositive
  | .ancestor inner => inner.isPositive
  | .previous inner => inner.isPositive
  | .before inner => inner.isPositive

def arePositive : List Matcher -> Bool
  | [] => true
  | test :: rest => test.isPositive && arePositive rest
end

end Matcher

section Top

variable {doc : Document} {root top : NodeId}

theorem Combinator.Relates.exists_parent {combinator : Combinator} {left right : NodeId}
    (h : combinator.Relates doc left right) : exists parent, doc.parent? right = some parent := by
  cases combinator with
  | child => exact ⟨left, h⟩
  | descendant =>
      rcases Relation.TransGen.tail'_iff.mp h with ⟨parent, _, hparent⟩
      exact ⟨parent, hparent⟩
  | nextSibling =>
      rcases h with ⟨_, parent, _, _, _, hparent, _⟩
      exact ⟨parent, hparent⟩
  | subsequentSibling =>
      rcases h with ⟨_, parent, _, _, _, hparent, _⟩
      exact ⟨parent, hparent⟩
  | group => cases h

theorem accepts_top_of_relates (hdetached : doc.parent? top = none) {combinator : Combinator}
    {inner outer : Matcher} {candidate : NodeId}
    (houter : forall root, outer.accepts doc root candidate = true ↔
      candidate ≠ root ∧ exists left, combinator.Relates doc left candidate ∧
        inner.accepts doc root left = true)
    (hinner : forall left, inner.accepts doc root left = true ->
      inner.accepts doc top left = true)
    (h : outer.accepts doc root candidate = true) : outer.accepts doc top candidate = true := by
  rcases (houter root).mp h with ⟨_, left, hrelates, hleft⟩
  apply (houter top).mpr
  refine ⟨?_, left, hrelates, hinner left hleft⟩
  intro hsame
  rcases hrelates.exists_parent with ⟨parent, hparent⟩
  rw [hsame, hdetached] at hparent
  cases hparent

mutual

/-- A positive matcher accepts from the top of a tree what it accepts from any root. -/
theorem accepts_top (wellFormed : doc.WellFormed) (hdetached : doc.parent? top = none) :
    forall (matcher : Matcher) (candidate : NodeId), matcher.isPositive = true ->
      matcher.accepts doc root candidate = true -> matcher.accepts doc top candidate = true
  | .tag _, _, _, h | .id _, _, _, h | .className _, _, _, h | .attribute _, _, _, h
  | .universal, _, _, h | .index _ _, _, _, h | .containsText _, _, _, h
  | .matchesText _, _, _, h => by
      rw [Matcher.accepts] at h ⊢
      exact h
  | .all tests, candidate, hpositive, h => by
      rw [Matcher.accepts, Bool.and_eq_true] at h ⊢
      exact ⟨h.1, acceptsAll_top wellFormed hdetached tests candidate hpositive h.2⟩
  | .any tests, candidate, hpositive, h => by
      rw [Matcher.accepts, Bool.and_eq_true] at h ⊢
      exact ⟨h.1, acceptsAny_top wellFormed hdetached tests candidate hpositive h.2⟩
  | .root, _, hpositive, _ => by cases hpositive
  | .has inner, candidate, hpositive, h => by
      rw [Matcher.accepts, Bool.and_eq_true, List.any_eq_true] at h ⊢
      rcases h with ⟨helement, below, hbelow, hinner⟩
      exact ⟨helement, below, hbelow,
        accepts_top wellFormed hdetached inner below hpositive hinner⟩
  | .not _, _, hpositive, _ => by cases hpositive
  | .parent inner, candidate, hpositive, h =>
      accepts_top_of_relates hdetached (fun _ => accepts_parent (isElement_of_accepts h))
        (fun left => accepts_top wellFormed hdetached inner left hpositive) h
  | .ancestor inner, candidate, hpositive, h =>
      accepts_top_of_relates hdetached
        (fun _ => accepts_ancestor wellFormed (isElement_of_accepts h))
        (fun left => accepts_top wellFormed hdetached inner left hpositive) h
  | .previous inner, candidate, hpositive, h =>
      accepts_top_of_relates hdetached
        (fun _ => accepts_previous wellFormed (isElement_of_accepts h))
        (fun left => accepts_top wellFormed hdetached inner left hpositive) h
  | .before inner, candidate, hpositive, h =>
      accepts_top_of_relates hdetached
        (fun _ => accepts_before wellFormed (isElement_of_accepts h))
        (fun left => accepts_top wellFormed hdetached inner left hpositive) h

theorem acceptsAll_top (wellFormed : doc.WellFormed) (hdetached : doc.parent? top = none) :
    forall (tests : List Matcher) (candidate : NodeId), Matcher.arePositive tests = true ->
      Matcher.acceptsAll doc root tests candidate = true ->
        Matcher.acceptsAll doc top tests candidate = true
  | [], _, _, _ => by rw [Matcher.acceptsAll]
  | test :: rest, candidate, hpositive, h => by
      rw [Matcher.arePositive, Bool.and_eq_true] at hpositive
      rw [Matcher.acceptsAll, Bool.and_eq_true] at h ⊢
      exact ⟨accepts_top wellFormed hdetached test candidate hpositive.1 h.1,
        acceptsAll_top wellFormed hdetached rest candidate hpositive.2 h.2⟩

theorem acceptsAny_top (wellFormed : doc.WellFormed) (hdetached : doc.parent? top = none) :
    forall (tests : List Matcher) (candidate : NodeId), Matcher.arePositive tests = true ->
      Matcher.acceptsAny doc root tests candidate = true ->
        Matcher.acceptsAny doc top tests candidate = true
  | [], _, _, h => by
      rw [Matcher.acceptsAny] at h
      cases h
  | test :: rest, candidate, hpositive, h => by
      rw [Matcher.arePositive, Bool.and_eq_true] at hpositive
      rw [Matcher.acceptsAny, Bool.or_eq_true] at h ⊢
      cases h with
      | inl htest =>
          exact Or.inl (accepts_top wellFormed hdetached test candidate hpositive.1 htest)
      | inr hrest =>
          exact Or.inr (acceptsAny_top wellFormed hdetached rest candidate hpositive.2 hrest)

end

end Top
end Selector

namespace Query

open Selector

variable {doc : Document}

theorem answer_sublist (wellFormed : doc.WellFormed) {query : Query} {root top : NodeId}
    (hroot : root ∈ doc.subtree top)
    (hweaker : forall id, query.matcher.accepts doc root id = true ->
      query.matcher.accepts doc top id = true) :
    (query.answer doc root).Sublist (query.answer doc top) := by
  have helements : (doc.elements root).Sublist (doc.elements top) :=
    (wellFormed.subtree_infix hroot).sublist.filter doc.isElement
  exact (helements.filter _).trans (List.monotone_filter_right _ hweaker)

/-- Whatever a query for a positive matcher accepts or gives from an inner element of a tree, it
accepts and gives from the top as well, in the same order. -/
theorem narrowing_adds_nothing (reachable : doc.Reachable) {query : Query}
    (hpositive : query.matcher.isPositive = true) {top : NodeId}
    (hdetached : doc.parent? top = none) :
    (forall root candidate, query.matcher.accepts doc root candidate = true ->
      query.matcher.accepts doc top candidate = true) ∧
    (forall root, doc.isElement root = true -> Relation.ReflTransGen doc.IsParent top root ->
      exists found all, query.select doc root = .ok found ∧ query.select doc top = .ok all ∧
        found.Sublist all) := by
  have wellFormed := reachable.wellFormed
  have haccepts : forall root candidate, query.matcher.accepts doc root candidate = true ->
      query.matcher.accepts doc top candidate = true :=
    fun root candidate h => accepts_top wellFormed hdetached query.matcher candidate hpositive h
  constructor
  · exact haccepts
  · intro root helement habove
    have hmem : root ∈ doc.subtree top := by
      apply wellFormed.mem_subtree_iff.mpr
      rw [wellFormed.mem_ancestors_iff_transGen]
      exact Relation.reflTransGen_iff_eq_or_transGen.mp habove
    have helement' : doc.isElement top = true := by
      rcases wellFormed.mem_subtree_iff.mp hmem with hsame | hancestor
      · rw [← hsame]
        exact helement
      · exact wellFormed.isElement_of_mem_ancestors hancestor
    exact ⟨query.answer doc root, query.answer doc top, select_of_element wellFormed helement,
      select_of_element wellFormed helement', answer_sublist wellFormed hmem (haccepts root)⟩

def paragraph : Document :=
  (Document.empty 0).run
    [.build (.element "div" .empty
      [.element "p" .empty [.element "b" .empty [], .text " ", .element "i" .empty []]])]

def inBox : Query :=
  .ofMatcher (.any [.all [.universal, .ancestor (.tag "div")], .previous .universal])

/-- From the paragraph only the words are below the box, since the paragraph is the root. -/
theorem narrowing_adds_nothing_paragraph :
    paragraph.Reachable ∧ inBox.matcher.isPositive = true ∧
    paragraph.parent? ⟨0, 0⟩ = none ∧ paragraph.isElement ⟨0, 1⟩ = true ∧
    Relation.ReflTransGen paragraph.IsParent ⟨0, 0⟩ ⟨0, 1⟩ ∧
    inBox.matcher.accepts paragraph ⟨0, 0⟩ ⟨0, 4⟩ = true ∧
    (exists found all, inBox.select paragraph ⟨0, 1⟩ = .ok found ∧
      inBox.select paragraph ⟨0, 0⟩ = .ok all ∧ found = [⟨0, 2⟩, ⟨0, 4⟩] ∧
      all = [⟨0, 1⟩, ⟨0, 2⟩, ⟨0, 4⟩] ∧ found.Sublist all) := by
  have reachable : paragraph.Reachable := ⟨0, _, rfl⟩
  have hpositive : inBox.matcher.isPositive = true := rfl
  have hdetached : paragraph.parent? ⟨0, 0⟩ = none := rfl
  have helement : paragraph.isElement ⟨0, 1⟩ = true := rfl
  have habove : Relation.ReflTransGen paragraph.IsParent ⟨0, 0⟩ ⟨0, 1⟩ := .single rfl
  rcases narrowing_adds_nothing reachable hpositive hdetached with ⟨haccepts, hselect⟩
  rcases hselect ⟨0, 1⟩ helement habove with ⟨found, all, hfound, hall, hsublist⟩
  refine ⟨reachable, hpositive, hdetached, helement, habove, haccepts ⟨0, 2⟩ ⟨0, 4⟩ rfl,
    found, all, hfound, hall, ?_, ?_, hsublist⟩
  · cases hfound
    rfl
  · cases hall
    rfl

end Query
end TreeQuery
