import TreeQuery.Proofs.Document.History
import TreeQuery.Proofs.Document.Preorder
import TreeQuery.Proofs.Document.Siblings
import TreeQuery.Proofs.Text.Joining
import TreeQuery.Selector.Evaluation

/-!
# What holds of an element and of all elements above it

The nodes below an element are a part of the nodes below each of its ancestors, and they stand
next to each other there.  So the text of the element is a part of the text of the ancestor, and
what is found in the element or below it is found in the ancestor or below it.
-/

namespace TreeQuery
namespace Document

def pieces (doc : Document) (id : NodeId) : List Text :=
  (((doc.descendants id).filterMap doc.payload?).map Text.trim).filter
    (fun piece => !piece.isEmpty)

section Texts

variable {doc : Document} {id ancestor : NodeId}

theorem payload?_of_isElement (h : doc.isElement id = true) : doc.payload? id = none := by
  rcases isElement_iff.mp h with ⟨element, hcontent⟩
  rcases Option.map_eq_some_iff.mp hcontent with ⟨⟨content, _, _, _, _⟩, hnode, hheld⟩
  cases hheld
  rw [payload?, hnode]

theorem text_of_isElement (h : doc.isElement id = true) :
    doc.text id = Text.join " " (doc.pieces id) := by
  rw [text, payload?_of_isElement h]
  rfl

/-- The pieces stand next to each other among those of an ancestor. -/
theorem WellFormed.pieces_infix (wellFormed : doc.WellFormed) (h : ancestor ∈ doc.ancestors id) :
    doc.pieces id <:+: doc.pieces ancestor :=
  (((wellFormed.descendants_infix h).filterMap doc.payload?).map Text.trim).filter _

end Texts
end Document

namespace Selector

/-- The text of an element is one part of the text of each of its ancestors, which contain what it
contains and have below them what it has below it. -/
theorem upward_closed {doc : Document} (reachable : doc.Reachable) {id ancestor : NodeId}
    (helement : doc.isElement id = true)
    (habove : Relation.TransGen doc.IsParent ancestor id) :
    doc.text id <:+: doc.text ancestor ∧
    (forall root needle, (Matcher.containsText needle).accepts doc root id = true ->
      (Matcher.containsText needle).accepts doc root ancestor = true) ∧
    (forall root inner, (Matcher.has inner).accepts doc root id = true ->
      (Matcher.has inner).accepts doc root ancestor = true) := by
  have wellFormed := reachable.wellFormed
  have hancestor : ancestor ∈ doc.ancestors id :=
    wellFormed.mem_ancestors_iff_transGen.mpr habove
  have helement' : doc.isElement ancestor = true :=
    wellFormed.isElement_of_mem_ancestors hancestor
  have hpieces := wellFormed.pieces_infix hancestor
  have htext := Document.text_of_isElement helement
  have htext' := Document.text_of_isElement helement'
  refine ⟨?_, ?_, ?_⟩
  · rw [htext, htext']
    exact Text.join_infix " " hpieces
  · intro root needle haccepts
    rw [Matcher.accepts, helement, Bool.true_and, Text.occursIn_iff, htext] at haccepts
    rw [Matcher.accepts, helement', Bool.true_and, Text.occursIn_iff, htext']
    exact haccepts.trans (Text.lower_join_infix hpieces)
  · intro root inner haccepts
    rw [Matcher.accepts, helement, Bool.true_and, List.any_eq_true] at haccepts
    rcases haccepts with ⟨below, hbelow, hinner⟩
    rw [Matcher.accepts, helement', Bool.true_and, List.any_eq_true]
    exact ⟨below, (wellFormed.descendants_infix hancestor).subset hbelow, hinner⟩

def streets : Document :=
  (Document.empty 0).run
    [.build (.element "div" .empty
      [.text "ΣΤΗΝ", .element "p" .empty [.element "b" .empty [.text " ΟΔΟΣ "]], .text "ΑΒΓ"])]

/-- The sigma ends a word in the paragraph and in the box around it. -/
theorem upward_closed_streets :
    streets.Reachable ∧ streets.isElement ⟨0, 2⟩ = true ∧
    Relation.TransGen streets.IsParent ⟨0, 0⟩ ⟨0, 2⟩ ∧
    streets.text ⟨0, 2⟩ = "ΟΔΟΣ" ∧ streets.text ⟨0, 0⟩ = "ΣΤΗΝ ΟΔΟΣ ΑΒΓ" ∧
    (Matcher.containsText "οδος").accepts streets ⟨0, 0⟩ ⟨0, 0⟩ = true ∧
    (Matcher.has (.tag "b")).accepts streets ⟨0, 0⟩ ⟨0, 0⟩ = true := by
  have reachable : streets.Reachable := ⟨0, _, rfl⟩
  have helement : streets.isElement ⟨0, 2⟩ = true := rfl
  have habove : Relation.TransGen streets.IsParent ⟨0, 0⟩ ⟨0, 2⟩ := .single rfl
  have hcontains : (Matcher.containsText "οδος").accepts streets ⟨0, 0⟩ ⟨0, 2⟩ = true := by
    decide +kernel
  have hhas : (Matcher.has (.tag "b")).accepts streets ⟨0, 0⟩ ⟨0, 2⟩ = true := rfl
  rcases upward_closed reachable helement habove with ⟨_, hupContains, hupHas⟩
  exact ⟨reachable, helement, habove, by decide +kernel, by decide +kernel,
    hupContains ⟨0, 0⟩ _ hcontains, hupHas ⟨0, 0⟩ _ hhas⟩

end Selector
end TreeQuery
