import TreeQuery.Pattern.Search
import TreeQuery.Proofs.Document.Rebuilding
import TreeQuery.Proofs.Document.Traversals
import TreeQuery.Proofs.Selector.Arguments
import TreeQuery.Selector.Evaluation

/-!
# Positions

An index test compares the position of an element, counted from zero, to its argument.  Elements
stand at every position, but a position that does not fit 32 bits compares to nothing.  So there
are arguments of which no element can satisfy the test, and for all of them but one a warning is
given when the test is read.
-/

namespace TreeQuery
namespace Document

/-! # An element at every position -/

def itemList (count : Nat) : Tree :=
  .element "ul" .empty (List.replicate count (.element "li" .empty []))

theorem exists_position (position : Nat) :
    exists (doc : Document) (id : NodeId), doc.Reachable ∧ doc.isElement id = true ∧
      doc.indexInParent? id = some position := by
  rcases exists_build (wellFormed_empty 0) (itemList (position + 1)) with ⟨doc, hbuild, built⟩
  have wellFormed := built.wellFormed
  have reachable : doc.Reachable := by
    refine ⟨0, [.build (itemList (position + 1))], ?_⟩
    show doc = (empty 0).after (.build (itemList (position + 1)))
    rw [after, attempt_build hbuild]
  have holds := holds_build (wellFormed_empty 0) _ hbuild
  rcases wellFormed.describe?_cases holds.describe? with
    ⟨_, _, _, htree⟩ | ⟨_, trees, _, htrees, htree⟩
  · cases htree
  · have hitems : trees = List.replicate (position + 1) (Tree.element "li" .empty []).normalize := by
      rw [itemList, Tree.normalize, Tree.normalizeAll_eq, List.map_replicate] at htree
      exact (Tree.element.inj htree).2.2.symm
    have hplace : position < (doc.children (empty 0).fresh).length := by
      have hlength := congrArg List.length htrees
      simp only [hitems, List.length_map, List.length_replicate] at hlength
      omega
    have hchild := List.getElem_mem hplace
    have hparent := wellFormed.parent?_of_mem hchild
    refine ⟨doc, (doc.children (empty 0).fresh)[position], reachable, ?_, ?_⟩
    · have hdescribe : doc.describe? (doc.children (empty 0).fresh)[position] =
          some (Tree.element "li" .empty []).normalize := by
        have hmem := List.mem_map_of_mem (f := doc.describe?) hchild
        rw [htrees, hitems, List.map_replicate] at hmem
        exact List.eq_of_mem_replicate hmem
      rcases wellFormed.describe?_cases hdescribe with
        ⟨_, _, _, hitem⟩ | ⟨element, _, hcontent, _, _⟩
      · cases hitem
      · exact isElement_iff.mpr ⟨element, hcontent⟩
    · exact (wellFormed.indexInParent?_eq_some_iff hparent).mpr (List.getElem?_eq_getElem hplace)

end Document

namespace Selector

/-! # Which index tests an element can satisfy -/

/-- The matcher accepts an element of some document, for a query that starts at some node. -/
def Matcher.Satisfiable (matcher : Matcher) : Prop :=
  exists (doc : Document) (root id : NodeId),
    doc.Reachable ∧ doc.isElement id = true ∧ matcher.accepts doc root id = true

/-- Only the position counts, since elements stand at all of them. -/
theorem satisfiable_index_iff {comparison : IndexComparison} {argument : Int} :
    (Matcher.index comparison argument).Satisfiable ↔
      exists position : Nat, Text.fitsInt32 (Int.ofNat position) = true ∧
        comparison.holds (Int.ofNat position) argument = true := by
  constructor
  · intro h
    rcases h with ⟨doc, root, id, _, _, haccepts⟩
    rw [Matcher.accepts] at haccepts
    have hholds := (Bool.and_eq_true_iff.mp haccepts).2
    rcases (Option.any_eq_true _ _).mp hholds with ⟨position, _, hposition⟩
    exact ⟨position, Bool.and_eq_true_iff.mp hposition⟩
  · intro h
    rcases h with ⟨position, hposition⟩
    rcases Document.exists_position position with ⟨doc, id, reachable, helement, hindex⟩
    refine ⟨doc, id, id, reachable, helement, ?_⟩
    rw [Matcher.accepts, helement, hindex, Bool.true_and]
    exact Bool.and_eq_true_iff.mpr hposition

theorem satisfiable_less_iff {argument : Int} :
    (Matcher.index .less argument).Satisfiable ↔ 0 < argument := by
  rw [satisfiable_index_iff]
  constructor
  · intro h
    rcases h with ⟨position, _, hholds⟩
    have hless : (position : Int) < argument := of_decide_eq_true hholds
    omega
  · intro hpositive
    exact ⟨0, by decide, decide_eq_true hpositive⟩

theorem satisfiable_equal_iff {argument : Int} (hfits : Text.fitsInt32 argument = true) :
    (Matcher.index .equal argument).Satisfiable ↔ 0 ≤ argument := by
  rw [satisfiable_index_iff]
  constructor
  · intro h
    rcases h with ⟨position, _, hholds⟩
    have hequal : (position : Int) = argument := of_decide_eq_true hholds
    omega
  · intro hpositive
    rcases Int.eq_ofNat_of_zero_le hpositive with ⟨position, rfl⟩
    exact ⟨position, hfits, decide_eq_true rfl⟩

theorem satisfiable_greater_iff {argument : Int} :
    (Matcher.index .greater argument).Satisfiable ↔ argument < 2147483647 := by
  rw [satisfiable_index_iff]
  constructor
  · intro h
    rcases h with ⟨position, hposition, hholds⟩
    have hgreater : argument < position := of_decide_eq_true hholds
    exact Int.lt_of_lt_of_le hgreater (Text.fitsInt32_iff.mp hposition).2
  · intro hless
    exact ⟨2147483647, by decide, decide_eq_true hless⟩

theorem isNever_iff {comparison : IndexComparison} {argument : Int}
    (hfits : Text.fitsInt32 argument = true) :
    isNever comparison argument = true ↔
      ¬(Matcher.index comparison argument).Satisfiable ∧
        ¬(comparison = .greater ∧ argument = 2147483647) := by
  cases comparison with
  | less => simp [isNever, satisfiable_less_iff]
  | equal => simp [isNever, satisfiable_equal_iff hfits]
  | greater =>
      have hlast : argument ≤ 2147483647 := (Text.fitsInt32_iff.mp hfits).2
      have hnever : ¬argument < 2147483647 -> argument = 2147483647 := by omega
      simpa [isNever, satisfiable_greater_iff] using hnever

/-! # Reading an index test -/

def indexWarnings (comparison : IndexComparison) (argument : Int) : List Warning :=
  if isNever comparison argument then [neverMatches comparison argument] else []

theorem mem_indexWarnings {comparison : IndexComparison} {argument : Int} {warning : Warning} :
    warning ∈ indexWarnings comparison argument ↔
      warning = neverMatches comparison argument ∧ isNever comparison argument = true := by
  unfold indexWarnings
  split
  · rename_i hnever
    simp [hnever]
  · rename_i hnever
    simp [hnever]

theorem simpleTest_index [Pattern.Engine] {inner : Text -> Report Matcher} {query argument : Text}
    (comparison : IndexComparison) {value : Int}
    (h : Text.readInt32? (Text.trim argument) = some value) (rest : Text) :
    simpleTest inner query
        ((PseudoClass.index comparison).name ++ '(' :: (argument ++ ')' :: rest)) =
      ⟨indexWarnings comparison value, .ok (.index comparison value, rest)⟩ := by
  have hunclosed : forall c, c ∈ argument -> c ≠ ')' := by
    intro c hc hclosing
    rw [hclosing] at hc
    exact absurd (ordinary_of_readInt32? h ')' hc).2 (by decide)
  rw [simpleTest_pseudo]
  unfold pseudoTest indexTest
  simp only [List.drop_left, List.tail_cons, past_parenthesis hunclosed, h]
  rfl

theorem parse_index [Pattern.Engine] {argument : Text} (comparison : IndexComparison) {value : Int}
    (h : Text.readInt32? (Text.trim argument) = some value) :
    parse ((PseudoClass.index comparison).enclose argument) =
      ⟨indexWarnings comparison value, .ok (.index comparison value)⟩ := by
  rw [parse_enclose]
  unfold parseWith
  rw [start_enclose, PseudoClass.enclose, simpleTest_index comparison h]
  show Report.mk (indexWarnings comparison value ++ [] ++ (follow _ _ _ ⟨_, []⟩).warnings)
    (follow _ _ _ ⟨_, []⟩).result = _
  rw [follow_end, List.append_nil]
  exact congrArg (Report.mk · _) (List.append_nil _)

/-! # What the warning says -/

/-- A test that a 32-bit argument makes unsatisfiable is warned about, and no other test is.  The
one exception is the test for a position behind the greatest one. -/
theorem never_warning_exact [Pattern.Engine] (comparison : IndexComparison) {value : Int}
    (hfits : Text.fitsInt32 value = true) :
    Text.readInt32? (Text.trim (Text.ofInt value)) = some value ∧
    (forall argument, Text.readInt32? (Text.trim argument) = some value ->
      exists warnings,
        parse ((PseudoClass.index comparison).enclose argument) =
          ⟨warnings, .ok (.index comparison value)⟩ ∧
        (forall inner query rest,
          simpleTest inner query
              ((PseudoClass.index comparison).name ++ '(' :: (argument ++ ')' :: rest)) =
            ⟨warnings, .ok (.index comparison value, rest)⟩) ∧
        forall warning, warning ∈ warnings ↔
          warning = neverMatches comparison value ∧
            ¬(Matcher.index comparison value).Satisfiable ∧
            ¬(comparison = .greater ∧ value = 2147483647)) ∧
    ((Matcher.index comparison value).Satisfiable ↔
      match comparison with
      | .less => 0 < value
      | .equal => 0 ≤ value
      | .greater => value < 2147483647) := by
  refine ⟨?_, ?_, ?_⟩
  · have hplain := (Grammar.Index.mk value hfits).plain
    rw [Text.trim_of_tight (tight_of_plain (Text.ofInt_ne_nil value) hplain)]
    exact Text.readInt32?_ofInt hfits
  · intro argument hargument
    refine ⟨indexWarnings comparison value, parse_index comparison hargument,
      fun inner query rest => simpleTest_index comparison hargument rest, ?_⟩
    intro warning
    rw [mem_indexWarnings, isNever_iff hfits]
  · cases comparison with
    | less => exact satisfiable_less_iff
    | equal => exact satisfiable_equal_iff hfits
    | greater => exact satisfiable_greater_iff

theorem never_warning_exact_negative :
    Text.fitsInt32 (-1) = true ∧
    Text.readInt32? (Text.trim " -01 ") = some (-1) ∧
    (parse ":eq( -01 )").result = .ok (.index .equal (-1)) ∧
    neverMatches .equal (-1) ∈ (parse ":eq( -01 )").warnings ∧
    ¬(Matcher.index .equal (-1)).Satisfiable := by
  have hfits : Text.fitsInt32 (-1) = true := by decide
  have hread : Text.readInt32? (Text.trim " -01 ") = some (-1) := by decide +kernel
  rcases never_warning_exact .equal hfits with ⟨_, hparse, hsatisfiable⟩
  rcases hparse _ hread with ⟨warnings, hreport, _, hwarnings⟩
  have hnever : ¬(Matcher.index .equal (-1)).Satisfiable :=
    fun h => absurd (hsatisfiable.mp h) (by decide)
  have hwarned : neverMatches .equal (-1) ∈ warnings :=
    (hwarnings _).mpr ⟨rfl, hnever, fun h => nomatch h.1⟩
  have hspelled : (":eq( -01 )" : Text) = (PseudoClass.index .equal).enclose " -01 " := rfl
  rw [hspelled, hreport]
  exact ⟨hfits, hread, rfl, hwarned, hnever⟩

/-- No position that fits 32 bits lies behind the greatest one, but this is not warned about. -/
theorem greatest_position_unwarned :
    (parse ":gt(2147483647)").result = .ok (.index .greater 2147483647) ∧
    ¬(Matcher.index .greater 2147483647).Satisfiable ∧
    neverMatches .greater 2147483647 ∉ (parse ":gt(2147483647)").warnings := by
  have hread : Text.readInt32? (Text.trim "2147483647") = some 2147483647 := by decide +kernel
  have hspelled : (":gt(2147483647)" : Text) =
      (PseudoClass.index .greater).enclose "2147483647" := rfl
  rw [hspelled, parse_index .greater hread]
  refine ⟨rfl, ?_, List.not_mem_nil⟩
  rw [satisfiable_greater_iff]
  decide

end Selector
end TreeQuery
