import TreeQuery.Pattern.Search
import TreeQuery.Proofs.Query.Results
import TreeQuery.Proofs.Selector.Arguments

/-!
# Complements

A selector under `:not` gives the elements that the selector by itself does not give, wherever the
argument that is cut out is the selector.
-/

namespace TreeQuery

open Selector Scan

/-! # Queries of a text -/

namespace Query

variable {text : Text} {matcher : Matcher}

theorem parse_of_selector [Pattern.Engine] (h : (Selector.parse text).result = .ok matcher) :
    parse text = .ok ⟨Text.trim text, matcher⟩ := by
  have htrim : Selector.parse (Text.trim text) = Selector.parse text := by
    show parseWith (parseWithin (maxNesting - 1)) (Text.trim (Text.trim text)) = _
    rw [Text.trim_trim]
    rfl
  have hblank : (Text.trim text).isEmpty = false :=
    List.isEmpty_eq_false_iff.mpr (not_blank_of_parseWithin h)
  unfold parse
  simp only [hblank, htrim, h]
  rfl

theorem query_of_selector [Pattern.Engine]
    {doc : Document} (wellFormed : doc.WellFormed) {root : NodeId}
    (hroot : doc.isElement root = true) (h : (Selector.parse text).result = .ok matcher) :
    query doc root text = .ok ((doc.elements root).filter (matcher.accepts doc root)) := by
  unfold query
  rw [parse_of_selector h]
  exact select_of_element wellFormed hroot

theorem filter_not (matcher : Matcher) (doc : Document) (root : NodeId) :
    (doc.elements root).filter ((Matcher.not matcher).accepts doc root) =
      (doc.elements root).filter (fun id => !matcher.accepts doc root id) := by
  apply List.filter_congr
  intro id hid
  have helement : doc.isElement id = true := (List.mem_filter.mp hid).2
  rw [Matcher.accepts, helement, Bool.true_and]

theorem complement [Pattern.Engine]
    {negation : Text} (h : (Selector.parse text).result = .ok matcher)
    (hnegation : (Selector.parse negation).result = .ok (.not matcher)) {doc : Document}
    (wellFormed : doc.WellFormed) {root : NodeId} (hroot : doc.isElement root = true) :
    exists found others, query doc root text = .ok found ∧ query doc root negation = .ok others ∧
      (found ++ others).Perm (doc.elements root) ∧ (found ++ others).Nodup := by
  refine ⟨_, _, query_of_selector wellFormed hroot h, query_of_selector wellFormed hroot hnegation,
    ?_⟩
  have hperm : ((doc.elements root).filter (matcher.accepts doc root) ++
      (doc.elements root).filter ((Matcher.not matcher).accepts doc root)).Perm
        (doc.elements root) := by
    rw [filter_not]
    exact List.filter_append_perm _ _
  exact ⟨hperm, hperm.nodup_iff.mpr (wellFormed.nodup_elements root)⟩

/-! # Selectors as arguments -/

/-- As an argument of `:has` or `:not` a selector is read as it is by itself if its parentheses
are balanced.  If one stays open the closing parenthesis is read with it, and if there is one too
many the argument ends too early.  Where the negation is read, it gives the complement. -/
theorem argument_composes [Pattern.Engine] (hmarked : endMark ∉ text)
    (h : (Selector.parse text).result = .ok matcher)
    (hspare : ¬(parseWithin (maxNesting - 1) text).IsTooDeep) :
    (forall {pseudo wrap}, Nests pseudo wrap ->
      (SelfContained text ->
        (Selector.parse (pseudo.enclose text)).result = .ok (wrap matcher)) ∧
      (¬SelfContained text -> stillOpen '(' ')' 0 '(' text ≠ none ->
        ((Selector.parse (pseudo.enclose text)).result = .ok (wrap matcher) ↔
          (parseWithin (maxNesting - 1) (text ++ [')'])).result = .ok matcher)) ∧
      (stillOpen '(' ')' 0 '(' text = none ->
        (Selector.parse (pseudo.enclose text)).result ≠ .ok (wrap matcher))) ∧
    ((Selector.parse (PseudoClass.not.enclose text)).result = .ok (.not matcher) ->
      forall {doc : Document}, doc.Reachable -> forall {root}, doc.isElement root = true ->
        exists found others, query doc root text = .ok found ∧
          query doc root (PseudoClass.not.enclose text) = .ok others ∧
          (found ++ others).Perm (doc.elements root) ∧ (found ++ others).Nodup) := by
  constructor
  · intro pseudo wrap nests
    refine ⟨?_, parse_enclose_unclosed nests hmarked, parse_enclose_overclosed nests hmarked⟩
    intro hcontained
    apply (parse_enclose_selfContained nests hmarked hcontained).mpr
    rw [← parseWithin_eq_of_le (Nat.sub_le maxNesting 1) hspare]
    exact h
  · intro hnegation doc reachable root hroot
    exact complement h hnegation reachable.wellFormed hroot

def listsText : Text :=
  ":has(li), [k='v'"

def listsMatcher : Matcher :=
  .any [.has (.tag "li"), .attribute (.compare .equals "k" "v")]

theorem argument_composes_lists :
    endMark ∉ listsText ∧ (Selector.parse listsText).result = .ok listsMatcher ∧
    ¬(parseWithin (maxNesting - 1) listsText).IsTooDeep ∧ SelfContained listsText ∧
    (Selector.parse ":not(:has(li), [k='v')").result = .ok (.not listsMatcher) ∧
    (exists found others, query Document.twoItems ⟨0, 0⟩ listsText = .ok found ∧
      query Document.twoItems ⟨0, 0⟩ ":not(:has(li), [k='v')" = .ok others ∧
      found = [⟨0, 0⟩] ∧ others = [⟨0, 1⟩, ⟨0, 3⟩] ∧
      (found ++ others).Perm (Document.twoItems.elements ⟨0, 0⟩)) := by
  have hmarked : endMark ∉ listsText := by decide
  have hparse : (Selector.parse listsText).result = .ok listsMatcher := rfl
  have hspare : ¬(parseWithin (maxNesting - 1) listsText).IsTooDeep := by
    rintro ⟨limit, query, remainder, hdeep⟩
    cases hdeep
  have hcontained : SelfContained listsText := by decide
  rcases argument_composes hmarked hparse hspare with ⟨hargument, hcomplement⟩
  have hnegation := (hargument .not).1 hcontained
  have helement : Document.twoItems.isElement ⟨0, 0⟩ = true := rfl
  rcases hcomplement hnegation Document.reachable_twoItems helement with
    ⟨found, others, hfound, hothers, hperm, _⟩
  refine ⟨hmarked, hparse, hspare, hcontained, hnegation, found, others, hfound, hothers, ?_, ?_,
    hperm⟩
  · cases hfound
    rfl
  · cases hothers
    rfl

/-- A parenthesis in a value is counted although it closes nothing, and an end mark takes the
character behind it out of every argument that it stands in. -/
theorem argument_not_composes :
    ((Selector.parse "[a=(]").result = .ok (.attribute (.compare .equals "a" "(")) ∧
      ¬(parseWithin (maxNesting - 1) "[a=(]").IsTooDeep ∧
      (Selector.parse (PseudoClass.not.enclose "[a=(]")).result =
        .error (.unexpectedToken "[a=(])" ")")) ∧
    ((Selector.parse ":contains(\x00ab)").result = .ok (.containsText "\x00b") ∧
      ¬(parseWithin (maxNesting - 1) ":contains(\x00ab)").IsTooDeep ∧
      SelfContained ":contains(\x00ab)" ∧
      (Selector.parse (PseudoClass.not.enclose ":contains(\x00ab)")).result =
        .ok (.not (.containsText "\x00"))) := by
  refine ⟨⟨rfl, ?_, rfl⟩, rfl, ?_, by decide, rfl⟩
  · rintro ⟨limit, query, remainder, hdeep⟩
    cases hdeep
  · rintro ⟨limit, query, remainder, hdeep⟩
    cases hdeep

end Query
end TreeQuery
