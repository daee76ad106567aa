import TreeQuery.Proofs.Document.History
import TreeQuery.Proofs.Text.Sigma
import TreeQuery.Selector.Evaluation

/-!
# Parts of a text or of a value

A test for a part of a text, or for a start, an end or a part of a value, lower-cases both sides
apart from each other.  What is literally there is found when lower-casing gives its sigmas the
same form on both sides, and a start or an end only then.
-/

namespace TreeQuery
namespace Selector

section Occurrences

variable {doc : Document} {root id : NodeId} {element : Element}

theorem accepts_containsText_iff (helement : doc.element? id = some element) {needle : Text} :
    (Matcher.containsText needle).accepts doc root id = true ↔
      needle <:+: Text.lower (doc.text id) := by
  have hisElement : doc.isElement id = true := by
    rw [Document.isElement, helement]
    rfl
  rw [Matcher.accepts, hisElement, Bool.true_and, Text.occursIn_iff]

theorem accepts_compare_iff (helement : doc.element? id = some element) {key value : Text}
    (hvalue : element.attributes.get? key = some value) {comparison : ValueComparison}
    {expected : Text} :
    (Matcher.attribute (.compare comparison key expected)).accepts doc root id = true ↔
      comparison.holds (some (Text.lower (Text.trim value))) expected = true := by
  rw [Matcher.accepts, helement, Option.any_some, AttributeTest.holds, hvalue]
  rfl

/-- A part of the text of an element, or of a trimmed value, is looked for in the lower-case form
of the whole, and is found there if its sigmas keep their form in one place where it stands.  A
value that starts or ends with the part is found exactly when they do. -/
theorem accepts_occurrence (root : NodeId) (helement : doc.element? id = some element)
    (before part after : Text) :
    ((Matcher.containsText (Text.lower part)).accepts doc root id = true ↔
      Text.lower part <:+: Text.lower (doc.text id)) ∧
    (doc.text id = before ++ (part ++ after) -> Text.KeepsSigmas before part after ->
      (Matcher.containsText (Text.lower part)).accepts doc root id = true) ∧
    forall key value, element.attributes.get? key = some value ->
      ((Matcher.attribute (.compare .contains key (Text.lower part))).accepts doc root id = true ↔
        Text.lower part <:+: Text.lower (Text.trim value)) ∧
      (Text.trim value = before ++ (part ++ after) -> Text.KeepsSigmas before part after ->
        (Matcher.attribute (.compare .contains key (Text.lower part))).accepts doc root id =
          true) ∧
      (Text.trim value = part ++ after ->
        ((Matcher.attribute (.compare .startsWith key (Text.lower part))).accepts doc root id =
          true ↔ Text.KeepsSigmas [] part after)) ∧
      (Text.trim value = before ++ part ->
        ((Matcher.attribute (.compare .endsWith key (Text.lower part))).accepts doc root id =
          true ↔ Text.KeepsSigmas before part [])) := by
  refine ⟨accepts_containsText_iff helement, ?_, ?_⟩
  · intro htext hkeeps
    rw [accepts_containsText_iff helement, htext]
    exact hkeeps.isInfix
  · intro key value hvalue
    have hcontains :
        (Matcher.attribute (.compare .contains key (Text.lower part))).accepts doc root id =
          true ↔ Text.lower part <:+: Text.lower (Text.trim value) :=
      (accepts_compare_iff helement hvalue).trans Text.occursIn_iff
    refine ⟨hcontains, ?_, ?_, ?_⟩
    · intro htrim hkeeps
      rw [hcontains, htrim]
      exact hkeeps.isInfix
    · intro htrim
      rw [accepts_compare_iff helement hvalue, htrim]
      exact Text.isPrefixOf_lower_iff
    · intro htrim
      rw [accepts_compare_iff helement hvalue, htrim]
      exact Text.isSuffixOf_lower_iff

end Occurrences

def address : Document :=
  (Document.empty 0).run
    [.build (.element "p" (.ofList [("title", " ΟΔΟΣ 1 ")]) [.text "ΣΤΗΝ ", .text "ΟΔΟΣ 1"])]

/-- Its sigmas end a word wherever the name of the street stands. -/
theorem accepts_occurrence_address :
    exists element, address.Reachable ∧ address.element? ⟨0, 0⟩ = some element ∧
      Text.KeepsSigmas "ΣΤΗΝ " "ΟΔΟΣ" " 1" ∧
      (Matcher.containsText "οδος").accepts address ⟨0, 0⟩ ⟨0, 0⟩ = true ∧
      (Matcher.attribute (.compare .contains "title" "οδος")).accepts address ⟨0, 0⟩ ⟨0, 0⟩ =
        true ∧
      (Matcher.attribute (.compare .startsWith "title" "οδος")).accepts address ⟨0, 0⟩ ⟨0, 0⟩ =
        true ∧
      (Matcher.attribute (.compare .endsWith "title" " 1")).accepts address ⟨0, 0⟩ ⟨0, 0⟩ =
        true := by
  have reachable : address.Reachable := ⟨0, _, rfl⟩
  have helement : address.element? ⟨0, 0⟩ =
      some (.ofTag "p" (.ofList [("title", " ΟΔΟΣ 1 ")])) := by rfl
  have hvalue : (Element.ofTag "p" (.ofList [("title", " ΟΔΟΣ 1 ")])).attributes.get? "title" =
      some " ΟΔΟΣ 1 ".toList := by rfl
  have htext : address.text ⟨0, 0⟩ = "ΣΤΗΝ ".toList ++ ("ΟΔΟΣ".toList ++ " 1".toList) := by
    decide +kernel
  have htrim : Text.trim " ΟΔΟΣ 1 " = "ΟΔΟΣ".toList ++ " 1".toList := by decide +kernel
  have hname : Text.lower "ΟΔΟΣ" = "οδος" := by decide +kernel
  have hnumber : Text.lower " 1" = " 1" := by decide +kernel
  have hkeeps : Text.KeepsSigmas "ΣΤΗΝ " "ΟΔΟΣ" " 1" := by decide +kernel
  have hstart : Text.KeepsSigmas [] "ΟΔΟΣ" " 1" := by decide +kernel
  have hend : Text.KeepsSigmas "ΟΔΟΣ" " 1" [] := Text.keepsSigmas_of_not_mem (by decide)
  have hfirst := (accepts_occurrence ⟨0, 0⟩ helement "ΣΤΗΝ " "ΟΔΟΣ" " 1").2.1 htext hkeeps
  have hstreet := (accepts_occurrence ⟨0, 0⟩ helement [] "ΟΔΟΣ" " 1").2.2 _ _ hvalue
  have hplace := (accepts_occurrence ⟨0, 0⟩ helement "ΟΔΟΣ" " 1" []).2.2 _ _ hvalue
  have hsecond := hstreet.2.1 htrim hstart
  have hthird := (hstreet.2.2.1 htrim).mpr hstart
  have hfourth := (hplace.2.2.2 htrim).mpr hend
  rw [hname] at hfirst hsecond hthird
  rw [hnumber] at hfourth
  exact ⟨_, reachable, helement, hkeeps, hfirst, hsecond, hthird, hfourth⟩

def letters : Document :=
  (Document.empty 0).run
    [.build (.element "p" (.ofList [("k", "ΑΣΑ"), ("l", "ΑΣ")]) [.text "ΑΣΑ"])]

/-- What is literally there is not found: a sigma that ends the part and not the whole, or the
whole and not the part, has two forms. -/
theorem occurrence_not_accepted :
    exists element, letters.Reachable ∧ letters.element? ⟨0, 0⟩ = some element ∧
      letters.text ⟨0, 0⟩ = "ΑΣ" ++ "Α" ∧
      element.attributes.get? "k" = some ("ΑΣ" ++ "Α") ∧
      element.attributes.get? "l" = some ("Α" ++ "Σ") ∧
      (Matcher.containsText (Text.lower "ΑΣ")).accepts letters ⟨0, 0⟩ ⟨0, 0⟩ = false ∧
      (Matcher.attribute (.compare .startsWith "k" (Text.lower "ΑΣ"))).accepts letters
        ⟨0, 0⟩ ⟨0, 0⟩ = false ∧
      (Matcher.attribute (.compare .contains "k" (Text.lower "ΑΣ"))).accepts letters
        ⟨0, 0⟩ ⟨0, 0⟩ = false ∧
      (Matcher.attribute (.compare .endsWith "l" (Text.lower "Σ"))).accepts letters
        ⟨0, 0⟩ ⟨0, 0⟩ = false := by
  refine ⟨.ofTag "p" (.ofList [("k", "ΑΣΑ"), ("l", "ΑΣ")]), ⟨0, _, rfl⟩, by rfl, by rfl, by rfl,
    by rfl, ?_, ?_, ?_, ?_⟩
  all_goals decide +kernel

end Selector
end TreeQuery
