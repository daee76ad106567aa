import Mathlib.Data.List.Basic
import Mathlib.Data.List.Induction
import Mathlib.Data.List.Nodup
import TreeQuery.Document.Tree
import TreeQuery.Pattern.Search
import TreeQuery.Proofs.Selector.Parametricity
import TreeQuery.Query

/-!
# Warnings that are shown

The registry keeps one text for each warning.  A component without a closing bracket can be read
off that text, so the registry knows exactly the warnings that were given, and each of them is
shown when it is given first.  The components of trees and of selectors have no closing bracket.
-/

namespace TreeQuery
namespace Warning

/-! # Keys -/

/-- The component ends at the first closing bracket. -/
def IsPlain (warning : Warning) : Prop :=
  ']' ∉ warning.component

theorem IsPlain.takeWhile_eq {warning : Warning} (h : warning.IsPlain) (rest : Text) :
    (warning.component ++ ']' :: rest).takeWhile (· != ']') = warning.component := by
  have hall : forall c, c ∈ warning.component -> (c != ']') = true := by
    intro c hc
    exact bne_iff_ne.mpr fun hsame => h (hsame ▸ hc)
  rw [List.takeWhile_append_of_pos hall, List.takeWhile_cons_of_neg (by decide), List.append_nil]

theorem eq_of_bracketed (mark : Text) {opening closing : Text} (hclosing : closing = ']' :: mark)
    {first second : Warning} (hfirst : first.IsPlain) (hsecond : second.IsPlain)
    (h : opening ++ first.component ++ closing ++ first.message =
      opening ++ second.component ++ closing ++ second.message) : first = second := by
  subst hclosing
  simp only [List.append_assoc, List.cons_append] at h
  have hrest := List.append_cancel_left h
  have hcomponent : first.component = second.component := by
    have htaken := congrArg (List.takeWhile (· != ']')) hrest
    rwa [hfirst.takeWhile_eq, hsecond.takeWhile_eq] at htaken
  rw [hcomponent] at hrest
  have hmessage := List.append_cancel_left (List.cons.inj (List.append_cancel_left hrest)).2
  cases first
  cases second
  cases hcomponent
  cases hmessage
  rfl

theorem key_injective {first second : Warning} (hfirst : first.IsPlain)
    (hsecond : second.IsPlain) (h : first.key = second.key) : first = second :=
  eq_of_bracketed [' '] rfl hfirst hsecond h

theorem line_injective {first second : Warning} (hfirst : first.IsPlain)
    (hsecond : second.IsPlain) (h : first.line = second.line) : first = second :=
  eq_of_bracketed [' ', '⚠', ' '] rfl hfirst hsecond h

namespace Registry

/-! # What the registry knows -/

def after (registry : Registry) (given : List Warning) : Registry :=
  given.foldl (fun registry warning => (registry.give warning).1) registry

def Knows (registry : Registry) (given : List Warning) : Prop :=
  (forall warning, warning ∈ given -> warning.IsPlain) ∧
    forall warning : Warning, warning.IsPlain -> (registry.has warning = true ↔ warning ∈ given)

theorem has_iff (registry : Registry) (warning : Warning) :
    registry.has warning = true ↔ warning.key ∈ registry :=
  List.contains_iff_mem

theorem knows_nil : Knows [] [] := by
  constructor
  · intro warning h
    cases h
  · intro warning _
    rw [has_iff]
    simp

theorem after_concat (registry : Registry) (given : List Warning) (warning : Warning) :
    registry.after (given ++ [warning]) = ((registry.after given).give warning).1 := by
  simp [after]

theorem shown_concat (registry : Registry) (given : List Warning) (warning : Warning) :
    shown registry (given ++ [warning]) =
      shown registry given ++ if (registry.after given).has warning then [] else [warning] := by
  induction given generalizing registry with
  | nil =>
      cases h : registry.has warning with
      | true => simp [shown, after, give, h]
      | false => simp [shown, after, give, h]
  | cons first rest ih =>
      have hafter : registry.after (first :: rest) = (registry.give first).1.after rest := rfl
      rw [hafter, List.cons_append, shown, shown]
      simp only [ih]
      cases (registry.give first).2 with
      | true => rfl
      | false => rfl

section Knows

variable {registry : Registry} {given : List Warning} {warning : Warning}

theorem Knows.give (h : Knows registry given) (hplain : warning.IsPlain) :
    Knows (registry.give warning).1 (given ++ [warning]) := by
  rcases h with ⟨hall, hknown⟩
  constructor
  · intro other hother
    rcases List.mem_append.mp hother with hother | hother
    · exact hall other hother
    · rw [List.mem_singleton.mp hother]
      exact hplain
  · intro other hother
    rw [Registry.give]
    split
    · rename_i hhas
      rw [hknown other hother, List.mem_append, List.mem_singleton]
      constructor
      · exact Or.inl
      · rintro (hmem | rfl)
        · exact hmem
        · exact (hknown other hother).mp hhas
    · rw [has_iff, List.mem_cons, ← has_iff, hknown other hother, List.mem_append,
        List.mem_singleton, or_comm]
      constructor
      · exact Or.imp_right (key_injective hother hplain)
      · exact Or.imp_right (congrArg key)

theorem knows_after (h : forall warning, warning ∈ given -> warning.IsPlain) :
    Knows (after [] given) given := by
  induction given using List.reverseRecOn with
  | nil => exact knows_nil
  | append_singleton given warning ih =>
      rw [after_concat]
      exact (ih fun other hother => h other (List.mem_append_left _ hother)).give
        (h warning List.mem_concat_self)

end Knows

/-- The shown warnings are the given ones, each once and in the order in which they were given
first. -/
structure Tells (given shown : List Warning) : Prop where
  mem_iff : forall warning, warning ∈ shown ↔ warning ∈ given
  once : (shown.map line).Nodup
  ordered : shown.Pairwise (fun first second => given.idxOf first < given.idxOf second)

namespace Tells

variable {given shown : List Warning} {warning : Warning}

theorem ordered_append (h : Tells given shown) (later : List Warning) :
    shown.Pairwise (fun first second =>
      (given ++ later).idxOf first < (given ++ later).idxOf second) := by
  apply h.ordered.imp_of_mem
  intro first second hfirst hsecond hlt
  rwa [List.idxOf_append_of_mem ((h.mem_iff first).mp hfirst),
    List.idxOf_append_of_mem ((h.mem_iff second).mp hsecond)]

theorem again (h : Tells given shown) (hgiven : warning ∈ given) :
    Tells (given ++ [warning]) shown where
  mem_iff := by
    intro other
    rw [h.mem_iff, List.mem_append, List.mem_singleton]
    constructor
    · exact Or.inl
    · rintro (hmem | rfl)
      · exact hmem
      · exact hgiven
  once := h.once
  ordered := h.ordered_append [warning]

theorem new (h : Tells given shown) (hall : forall other, other ∈ given -> other.IsPlain)
    (hplain : warning.IsPlain) (hgiven : warning ∉ given) :
    Tells (given ++ [warning]) (shown ++ [warning]) where
  mem_iff := by
    intro other
    rw [List.mem_append, List.mem_append, h.mem_iff]
  once := by
    rw [List.map_append, List.nodup_append]
    refine ⟨h.once, List.nodup_singleton _, ?_⟩
    intro text htext other hother hsame
    rcases List.mem_map.mp htext with ⟨first, hfirst, rfl⟩
    rw [List.map_singleton, List.mem_singleton] at hother
    have hmem := (h.mem_iff first).mp hfirst
    apply hgiven
    rwa [← line_injective (hall first hmem) hplain (hsame.trans hother)]
  ordered := by
    refine List.pairwise_append.mpr
      ⟨h.ordered_append [warning], List.pairwise_singleton _ _, ?_⟩
    intro first hfirst second hsecond
    have hmem := (h.mem_iff first).mp hfirst
    rw [List.mem_singleton.mp hsecond, List.idxOf_append_of_mem hmem,
      List.idxOf_append_of_notMem hgiven]
    exact Nat.lt_of_lt_of_le (List.idxOf_lt_length_of_mem hmem) (Nat.le_add_right _ _)

end Tells

theorem tells_shown {given : List Warning} (h : forall warning, warning ∈ given -> warning.IsPlain) :
    Tells given (shown [] given) := by
  induction given using List.reverseRecOn with
  | nil => exact ⟨fun _ => Iff.rfl, List.nodup_nil, List.Pairwise.nil⟩
  | append_singleton given warning ih =>
      have hall : forall other, other ∈ given -> other.IsPlain := by
        intro other hother
        exact h other (List.mem_append_left _ hother)
      have hplain : warning.IsPlain := h warning List.mem_concat_self
      have hknown := (knows_after hall).2 warning hplain
      rw [shown_concat]
      split
      · rename_i hhas
        rw [List.append_nil]
        exact (ih hall).again (hknown.mp hhas)
      · rename_i hhas
        exact (ih hall).new hall hplain fun hmem => hhas (hknown.mpr hmem)

end Registry
end Warning

/-! # Warnings about selectors -/

namespace Selector

theorem Report.IsSigned.bind {α β : Type} {report : Report α} {continuation : α -> Report β}
    (hreport : report.IsSigned) (hnext : forall value, (continuation value).IsSigned) :
    (report >>= continuation).IsSigned := by
  intro warning hwarning
  change warning ∈ (report.andThen continuation).warnings at hwarning
  unfold Report.andThen at hwarning
  split at hwarning
  · exact hreport warning hwarning
  · rename_i value _
    rcases List.mem_append.mp hwarning with hwarning | hwarning
    · exact hreport warning hwarning
    · exact hnext value warning hwarning

theorem Report.parametric_signed : Report.Parametric (fun _ report _ => report.IsSigned) where
  own := id
  bind := Report.IsSigned.bind

theorem signed_parseWith [Pattern.Engine] {inner : Text -> Report Matcher}
    (hinner : forall text, (inner text).IsSigned) (query : Text) :
    (parseWith inner query).IsSigned :=
  @related_parseWith _ _ inner inner Report.parametric_signed hinner query

theorem signed_parseWithin [Pattern.Engine]
    (levels : Nat) (text : Text) : (parseWithin levels text).IsSigned := by
  induction levels generalizing text with
  | zero =>
      have hrefused : forall sub : Text, Report.IsSigned
          (.fail (.nestingTooDeep maxNesting (Text.trim text) sub) : Report Matcher) :=
        fun _ => .of_silent rfl
      exact signed_parseWith hrefused _
  | succ levels ih => exact signed_parseWith ih _

end Selector

theorem Query.isPlain_of_mem_parseWarnings [Pattern.Engine] {text : Text} {warning : Warning}
    (h : warning ∈ parseWarnings text) : warning.IsPlain := by
  unfold parseWarnings at h
  dsimp only at h
  split at h
  · cases h
  · rw [Warning.IsPlain, Selector.signed_parseWithin _ _ warning h]
    decide

/-! # Warnings about trees -/

mutual

theorem Tree.isPlain_of_mem_warnings (tree : Tree) :
    forall warning, warning ∈ tree.warnings -> warning.IsPlain := by
  intro warning h
  cases tree with
  | text payload => cases h
  | element tag attributes children =>
      rw [Tree.warnings] at h
      rcases List.mem_append.mp h with h | h
      · rcases List.mem_map.mp h with ⟨name, _, rfl⟩
        show ']' ∉ ("DOM" : Text)
        decide
      · exact isPlain_of_mem_warningsOfAll children warning h

theorem Tree.isPlain_of_mem_warningsOfAll (trees : List Tree) :
    forall warning, warning ∈ Tree.warningsOfAll trees -> warning.IsPlain := by
  intro warning h
  cases trees with
  | nil => cases h
  | cons tree rest =>
      rw [Tree.warningsOfAll] at h
      rcases List.mem_append.mp h with h | h
      · exact isPlain_of_mem_warnings tree warning h
      · exact isPlain_of_mem_warningsOfAll rest warning h

end

/-! # Every warning once -/

namespace Warning

/-- Of the warnings that are given each is shown once, in the order in which they are given first,
and the registry has those that were given.  Trees and selectors give such warnings only. -/
theorem warnings_shown_once [Pattern.Engine] :
    (forall given : List Warning, (forall warning, warning ∈ given -> warning.IsPlain) ->
      Registry.Tells given (Registry.shown [] given) ∧
      forall before later, given = before ++ later ->
        forall warning : Warning, warning.IsPlain ->
          ((Registry.after [] before).has warning = true ↔ warning ∈ before)) ∧
    (forall tree : Tree, forall warning, warning ∈ tree.warnings -> warning.IsPlain) ∧
    forall text warning, warning ∈ Query.parseWarnings text -> warning.IsPlain := by
  refine ⟨fun given hplain => ⟨Registry.tells_shown hplain, ?_⟩, Tree.isPlain_of_mem_warnings,
    fun text warning => Query.isPlain_of_mem_parseWarnings⟩
  rintro before later rfl
  apply (Registry.knows_after _).2
  intro warning hwarning
  exact hplain warning (List.mem_append_left later hwarning)

def bracketed : List Warning :=
  [⟨"A", "] [B] x"⟩, ⟨"B", "x"⟩, ⟨"A", "] [B] x"⟩]

theorem warnings_shown_once_bracketed :
    (forall warning, warning ∈ bracketed -> warning.IsPlain) ∧ IsPlain ⟨"B", "x"⟩ ∧
      Registry.Tells bracketed [⟨"A", "] [B] x"⟩, ⟨"B", "x"⟩] ∧
      ((Registry.after [] (bracketed.take 1)).has ⟨"B", "x"⟩ = true ↔
        ⟨"B", "x"⟩ ∈ bracketed.take 1) := by
  have hplain : forall warning, warning ∈ bracketed -> warning.IsPlain := by
    unfold IsPlain
    decide
  have hother : IsPlain ⟨"B", "x"⟩ := by
    unfold IsPlain
    decide
  rcases warnings_shown_once.1 bracketed hplain with ⟨htells, hknown⟩
  exact ⟨hplain, hother, htells,
    hknown (bracketed.take 1) (bracketed.drop 1) rfl ⟨"B", "x"⟩ hother⟩

/-- With a closing bracket in a component two warnings can have one key. -/
example : key ⟨"A", "B] x"⟩ = key ⟨"A] B", "x"⟩ := by decide

end Warning
end TreeQuery
