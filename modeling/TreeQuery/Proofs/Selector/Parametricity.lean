import TreeQuery.Selector.Parser

/-!
# What is within a selector

A selector is read by going on with what is read within it, whatever that is.  A relation between
reports that is kept when both readings go on, and that holds between a report and itself where
nothing within is read, therefore passes from the selectors within to the whole selector.
-/

namespace TreeQuery
namespace Selector

def Report.IsSigned {α : Type} (report : Report α) : Prop :=
  forall warning, warning ∈ report.warnings -> warning.component = "Selector"

namespace Report

theorem IsSigned.of_silent {α : Type} {report : Report α} (h : report.warnings = []) :
    report.IsSigned := by
  intro warning hwarning
  rw [h] at hwarning
  cases hwarning

/-- A relation that holds between each of the parser's own reports and itself, and is kept when
two readings go on. -/
structure Parametric (R : forall α : Type, Report α -> Report α -> Prop) : Prop where
  own : forall {α : Type} {report : Report α}, report.IsSigned -> R α report report
  bind : forall {α β : Type} {report other : Report α} {continuation further : α -> Report β},
    R α report other -> (forall value, R β (continuation value) (further value)) ->
      R β (report >>= continuation) (other >>= further)

theorem Parametric.silent {R : forall α : Type, Report α -> Report α -> Prop}
    (parametric : Parametric R) {α : Type} {report : Report α} (h : report.warnings = []) :
    R α report report :=
  parametric.own (.of_silent h)

end Report

theorem signed_indexTest (query : Text) (comparison : IndexComparison) (rest : Text) :
    (indexTest query comparison rest).IsSigned := by
  unfold indexTest
  dsimp only
  split
  · exact .of_silent rfl
  · intro warning hwarning
    dsimp only at hwarning
    split at hwarning
    · rw [List.mem_singleton.mp hwarning]
      rfl
    · cases hwarning

section Related

variable [Pattern.Engine]
  {R : forall α : Type, Report α -> Report α -> Prop} {inner inner' : Text -> Report Matcher}
  {query : Text} (parametric : Report.Parametric R)
  (hinner : forall text, R Matcher (inner text) (inner' text))

include parametric hinner

theorem related_pseudoTest (pseudo : PseudoClass) (rest : Text) :
    R _ (pseudoTest inner query pseudo rest) (pseudoTest inner' query pseudo rest) := by
  have hargument : R _ (argumentOf pseudo rest) (argumentOf pseudo rest) :=
    parametric.bind (parametric.silent rfl) fun _ => parametric.silent rfl
  unfold pseudoTest
  cases pseudo with
  | index comparison => exact parametric.own (signed_indexTest query comparison _)
  | has =>
      refine parametric.bind hargument fun (argument, left) => ?_
      dsimp only
      split
      · exact parametric.silent rfl
      · exact parametric.bind (hinner _) fun _ => parametric.silent rfl
  | not =>
      refine parametric.bind hargument fun (argument, left) => ?_
      dsimp only
      split
      · exact parametric.silent rfl
      · exact parametric.bind (hinner _) fun _ => parametric.silent rfl
  | contains =>
      refine parametric.bind hargument fun (argument, left) => ?_
      dsimp only
      split
      · exact parametric.silent rfl
      · exact parametric.silent rfl
  | matchesPattern =>
      refine parametric.bind hargument fun (argument, left) => ?_
      dsimp only
      split
      · exact parametric.silent rfl
      · exact parametric.bind (parametric.silent rfl) fun _ => parametric.silent rfl

theorem related_simpleTest (rest : Text) :
    R _ (simpleTest inner query rest) (simpleTest inner' query rest) := by
  cases rest with
  | nil => exact parametric.silent rfl
  | cons c after =>
      unfold simpleTest
      dsimp only
      split
      · exact parametric.silent rfl
      · split
        · exact parametric.silent rfl
        · split
          · exact parametric.silent rfl
          · split
            · exact parametric.bind (parametric.silent rfl) fun _ => parametric.silent rfl
            · split
              · exact parametric.silent rfl
              · split
                · exact related_pseudoTest parametric hinner _ _
                · exact parametric.silent rfl

omit [Pattern.Engine] in
theorem related_relate (combinator : Combinator) (parts : List Matcher) (rest : Text) :
    R _ (relate inner combinator parts rest) (relate inner' combinator parts rest) :=
  parametric.bind (hinner _) fun _ => parametric.silent rfl

omit [Pattern.Engine] in
theorem related_combine (mark : Char) (parts : List Matcher) (rest : Text) :
    R _ (combine inner query mark parts rest) (combine inner' query mark parts rest) := by
  unfold combine
  split
  · exact parametric.silent rfl
  · exact related_relate parametric hinner _ _ _

theorem related_start : R _ (start inner query) (start inner' query) := by
  unfold start
  dsimp only
  split
  · exact related_combine parametric hinner _ _ _
  · exact parametric.bind (related_simpleTest parametric hinner _) fun _ => parametric.silent rfl

theorem related_step (progress : Progress) :
    R _ (step inner query progress) (step inner' query progress) := by
  unfold step
  dsimp only
  split
  · exact related_combine parametric hinner _ _ _
  · split
    · exact related_combine parametric hinner _ _ _
    · exact parametric.bind (related_simpleTest parametric hinner _) fun _ => parametric.silent rfl

theorem related_follow (fuel : Nat) (progress : Progress) :
    R _ (follow inner query fuel progress) (follow inner' query fuel progress) := by
  induction fuel generalizing progress with
  | zero =>
      rw [follow, follow]
      split
      · exact parametric.silent rfl
      · exact parametric.silent rfl
  | succ fuel ih =>
      rw [follow, follow]
      split
      · exact parametric.silent rfl
      · exact parametric.bind (related_step parametric hinner progress) ih

theorem related_parseWith (query : Text) :
    R _ (parseWith inner query) (parseWith inner' query) :=
  parametric.bind (related_start parametric hinner) (related_follow parametric hinner query.length)

end Related

end Selector
end TreeQuery
