import TreeQuery.Pattern.Search
import TreeQuery.Proofs.Selector.Parametricity

/-!
# Levels to spare

With more levels a text is read in the same way, unless the levels were used up before.  Nothing
else in the reading depends on the number of levels, so a selector means the same at every depth,
and what is within it means what it means by itself.
-/

namespace TreeQuery
namespace Selector

def Report.IsTooDeep {α : Type} (report : Report α) : Prop :=
  exists limit query remainder, report.result = .error (.nestingTooDeep limit query remainder)

theorem not_isTooDeep {α : Type} {report : Report α} {value : α}
    (h : report.result = .ok value) : ¬report.IsTooDeep := by
  intro hdeep
  rcases hdeep with ⟨limit, query, remainder, hdeep⟩
  cases h.symm.trans hdeep

/-- The second reading gives the report of the first one, unless that one went too deep. -/
def Report.Extends {α : Type} (deeper report : Report α) : Prop :=
  report.IsTooDeep ∨ deeper = report

namespace Report

variable {α β : Type}

theorem Extends.refl (report : Report α) : report.Extends report :=
  Or.inr rfl

theorem Extends.trans {report deeper deepest : Report α} (hdeepest : deepest.Extends deeper)
    (h : deeper.Extends report) : deepest.Extends report := by
  rcases h with hdeep | rfl
  · exact Or.inl hdeep
  · exact hdeepest

theorem Extends.bind {report deeper : Report α} {continuation further : α -> Report β}
    (h : deeper.Extends report)
    (hcontinuation : forall value, (further value).Extends (continuation value)) :
    (deeper >>= further).Extends (report >>= continuation) := by
  rcases h with ⟨limit, query, remainder, hdeep⟩ | rfl
  · refine Or.inl ⟨limit, query, remainder, ?_⟩
    rw [result_bind, hdeep]
  · rcases deeper with ⟨warnings, error | value⟩
    · exact Or.inr rfl
    · rcases hcontinuation value with ⟨limit, query, remainder, hdeep⟩ | hsame
      · exact Or.inl ⟨limit, query, remainder, hdeep⟩
      · refine Or.inr ?_
        show andThen ⟨warnings, .ok value⟩ further = andThen ⟨warnings, .ok value⟩ continuation
        simp only [andThen, hsame]

theorem parametric_extends : Parametric (fun _ deeper report => deeper.Extends report) where
  own := fun _ => Extends.refl _
  bind := Extends.bind

end Report

theorem parseWith_extends [Pattern.Engine] {inner deeper : Text -> Report Matcher}
    (h : forall text, (deeper text).Extends (inner text)) (query : Text) :
    (parseWith deeper query).Extends (parseWith inner query) :=
  related_parseWith Report.parametric_extends h query

theorem parseWithin_extends [Pattern.Engine] (levels : Nat) (text : Text) :
    (parseWithin (levels + 1) text).Extends (parseWithin levels text) := by
  induction levels generalizing text with
  | zero =>
      refine parseWith_extends (fun sub => ?_) (Text.trim text)
      exact Or.inl ⟨maxNesting, Text.trim text, sub, rfl⟩
  | succ levels ih => exact parseWith_extends ih (Text.trim text)

theorem parseWithin_extends_of_le [Pattern.Engine]
    {levels more : Nat} (hle : levels ≤ more) (text : Text) :
    (parseWithin more text).Extends (parseWithin levels text) := by
  induction hle with
  | refl => exact .refl _
  | step _ ih => exact (parseWithin_extends _ text).trans ih

theorem parseWithin_eq_of_le [Pattern.Engine]
    {levels more : Nat} (hle : levels ≤ more) {text : Text}
    (h : ¬(parseWithin levels text).IsTooDeep) : parseWithin more text = parseWithin levels text :=
  (parseWithin_extends_of_le hle text).resolve_left h

/-! # Depths -/

/-- Read a selector that stands at the given depth, the outermost one being at depth zero. -/
def parseAt [Pattern.Engine] (depth : Nat) (text : Text) : Report Matcher :=
  parseWithin (maxNesting - depth) text

theorem parseAt_zero [Pattern.Engine] (text : Text) : parseAt 0 text = parse text := rfl

theorem parseAt_of_le [Pattern.Engine] {depth : Nat} (hlast : maxNesting ≤ depth) (text : Text) :
    parseAt depth text =
      parseWith (fun sub => .fail (.nestingTooDeep maxNesting (Text.trim text) sub))
        (Text.trim text) := by
  unfold parseAt
  rw [Nat.sub_eq_zero_of_le hlast]
  rfl

theorem parseAt_of_lt [Pattern.Engine] {depth : Nat} (hspare : depth < maxNesting) (text : Text) :
    parseAt depth text = parseWith (parseAt (depth + 1)) (Text.trim text) := by
  have hlevels : maxNesting - depth = maxNesting - (depth + 1) + 1 :=
    (Nat.sub_add_cancel (Nat.sub_pos_of_lt hspare)).symm
  unfold parseAt
  rw [hlevels]
  rfl

/-- At every depth a selector is read as it is further down, with the same warnings and the same
matcher or error, unless it goes too deep there. -/
theorem parseAt_eq_of_le [Pattern.Engine] {depth deeper : Nat} (hle : depth ≤ deeper) {text : Text}
    (h : ¬(parseAt deeper text).IsTooDeep) : parseAt depth text = parseAt deeper text := by
  have hlevels : maxNesting - deeper ≤ maxNesting - depth := Nat.sub_le_sub_left hle maxNesting
  exact parseWithin_eq_of_le hlevels h

/-- The argument is read one level further down and its right side two, at the last depth that
there is.  One of the texts is accepted there and the other is not. -/
theorem parseAt_eq_of_le_argument :
    ¬(parseAt 126 ":not(a b)").IsTooDeep ∧ ¬(parseAt 126 ":not(a #)").IsTooDeep ∧
      (parseAt 0 ":not(a b)").result = .ok (.not (.all [.tag "b", .ancestor (.tag "a")])) ∧
      (parseAt 0 ":not(a #)").result = .error (.emptyName "id" "#" "") := by
  have haccepted : (parseAt 126 ":not(a b)").result =
      .ok (.not (.all [.tag "b", .ancestor (.tag "a")])) := by rfl
  have hnameless : (parseAt 126 ":not(a #)").result = .error (.emptyName "id" "#" "") := by rfl
  have hspare := not_isTooDeep haccepted
  have hspare' : ¬(parseAt 126 ":not(a #)").IsTooDeep := by
    intro hdeep
    rcases hdeep with ⟨limit, query, remainder, hdeep⟩
    cases hnameless.symm.trans hdeep
  refine ⟨hspare, hspare', ?_, ?_⟩
  · rw [parseAt_eq_of_le (Nat.zero_le 126) hspare]
    exact haccepted
  · rw [parseAt_eq_of_le (Nat.zero_le 126) hspare']
    exact hnameless

example : (parseAt 127 ":not(a b)").IsTooDeep := ⟨maxNesting, "a b", "b", rfl⟩

theorem parseAt_eq_parseWith [Pattern.Engine]
    {depth : Nat} {text : Text} (h : ¬(parseAt depth text).IsTooDeep) :
    parseAt depth text = parseWith parse (Text.trim text) := by
  rcases Nat.lt_or_ge depth maxNesting with hspare | hlast
  · have hinner : forall sub, (parse sub).Extends (parseAt (depth + 1) sub) :=
      parseWithin_extends_of_le (Nat.sub_le _ _)
    rw [parseAt_of_lt hspare] at h ⊢
    exact ((parseWith_extends hinner _).resolve_left h).symm
  · have hinner : forall sub, (parse sub).Extends
        (.fail (.nestingTooDeep maxNesting (Text.trim text) sub)) :=
      fun sub => Or.inl ⟨maxNesting, Text.trim text, sub, rfl⟩
    rw [parseAt_of_le hlast] at h ⊢
    exact ((parseWith_extends hinner _).resolve_left h).symm

end Selector
end TreeQuery
