import TreeQuery.Pattern.Search
import TreeQuery.Proofs.Selector.Depth
import TreeQuery.Proofs.Selector.Levels
import TreeQuery.Proofs.Selector.RoundTrip

/-!
# The limit on levels

With as many levels as a matcher takes the reading gives the matcher, and with fewer it goes too
deep.  A reading with fewer levels follows one with more step by step, because what the matcher
takes bounds what every part of it takes.
-/

namespace TreeQuery
namespace Selector

open Scan Grammar

/-! # Levels of what is read -/

def ReadsLevels (inner : Text -> Report Matcher) (bound : Nat) : Prop :=
  forall {text : Text} {matcher : Matcher}, (inner text).result = .ok matcher ->
    matcher.levels false < bound

section Bound

variable [Pattern.Engine] {inner : Text -> Report Matcher} {bound : Nat}
  {query rest left : Text} {test : Matcher}

theorem Reads.not_relation (reads : Reads inner query rest test left) : test.isRelation = false := by
  cases reads <;> rfl

theorem Reads.levels_le (hinner : ReadsLevels inner bound)
    (reads : Reads inner query rest test left) : test.levels false ≤ bound := by
  cases reads with
  | has _ _ hread => exact hinner hread
  | not _ _ hread => exact hinner hread
  | _ => exact Nat.zero_le bound

def PartsWithin (bound : Nat) (progress : Progress) : Prop :=
  forall part, part ∈ progress.parts -> part.isRelation = false ∧ part.levels false ≤ bound

omit [Pattern.Engine] in
theorem PartsWithin.collapse_le {progress : Progress} (h : PartsWithin bound progress) :
    (collapse progress.parts).levels false ≤ bound := by
  rw [levels_collapse, Matcher.levelsOfAll_le_iff]
  · exact fun part hpart => (h part (List.mem_reverse.mp hpart)).2
  · exact fun part hpart => (h part (List.mem_reverse.mp hpart)).1

theorem Advances.partsWithin (hinner : ReadsLevels inner bound) {before : Matcher}
    (hbefore : before.levels false ≤ bound) {parts : List Matcher}
    (hparts : PartsWithin bound ⟨parts, rest⟩) {next : Progress}
    (advances : Advances inner query before parts rest next) : PartsWithin bound next := by
  cases advances with
  | @related combinator text right _ _ hright =>
      intro part hpart
      rw [List.mem_singleton.mp hpart]
      refine ⟨Matcher.attach_not_relation combinator before right, ?_⟩
      have hbound := hinner hright
      have hbelow := right.levels_below
      by_cases hempty : before = .any []
      · subst hempty
        rw [Matcher.attach_any_nil]
        simp only [Matcher.levels, Matcher.levelsOfAny]
        omega
      · rw [Matcher.levels_attach combinator false hempty]
        omega
  | simple _ reads =>
      exact List.forall_mem_cons.mpr ⟨⟨reads.not_relation, reads.levels_le hinner⟩, hparts⟩

theorem ReadsLevels.parseWith (hinner : ReadsLevels inner bound) {matcher : Matcher}
    (h : (parseWith inner query).result = .ok matcher) : matcher.levels false ≤ bound := by
  have hend := parseWith_of_invariant (PartsWithin bound)
    (fun next advances => advances.partsWithin hinner (Nat.zero_le _)
      (fun part hpart => absurd hpart List.not_mem_nil))
    (fun progress next holds _ advances => advances.partsWithin hinner holds.collapse_le holds) h
  rcases hend with ⟨parts, holds, rfl⟩
  exact holds.collapse_le

theorem readsLevels_parseWithin (levels : Nat) : ReadsLevels (parseWithin levels) (levels + 1) := by
  induction levels with
  | zero =>
      intro text matcher h
      have hinner : ReadsLevels
          (fun sub => .fail (.nestingTooDeep maxNesting (Text.trim text) sub)) 0 := by
        intro _ _ hread
        cases hread
      exact Nat.lt_succ_of_le (hinner.parseWith h)
  | succ levels ih =>
      intro text matcher h
      exact Nat.lt_succ_of_le (ih.parseWith h)

end Bound

/-! # Reading with as many levels as it takes -/

/-- What the first reading gives with fewer levels than the bound, the second one gives as well. -/
def Repeats (inner inner' : Text -> Report Matcher) (bound : Nat) : Prop :=
  forall {text : Text} {matcher : Matcher}, endMark ∉ text ->
    (inner text).result = .ok matcher -> matcher.levels false < bound ->
      (inner' text).result = .ok matcher

section Enough

variable [Pattern.Engine] {inner inner' : Text -> Report Matcher} {shape bound : Nat}
  {query rest left : Text}
  {test : Matcher}

omit [Pattern.Engine] in
theorem nested_repeated (hinner : Repeats inner inner' bound) {wrap : Matcher -> Matcher}
    (hwrap : forall matcher, (wrap matcher).levels false = matcher.levels false + 1)
    {argument after : Text} (hmarked : endMark ∉ argument) {isBlank : Bool} {error : ParseError}
    (hread : (if isBlank then Report.fail error
      else do
        let matcher ← inner argument
        pure (wrap matcher, after)).result = .ok (test, left))
    (hlevels : test.levels false ≤ bound) :
    (if isBlank then Report.fail error
      else do
        let matcher ← inner' argument
        pure (wrap matcher, after)).result = .ok (test, left) := by
  rcases Report.result_argument_eq_ok.mp hread with ⟨hblank, matcher, hmatcher, hnext⟩
  cases hnext
  rw [hwrap] at hlevels
  exact Report.result_argument_eq_ok.mpr ⟨hblank, matcher, hinner hmarked hmatcher hlevels, rfl⟩

theorem pseudoTest_repeated (hinner : Repeats inner inner' bound) {pseudo : PseudoClass}
    (hmarked : endMark ∉ rest) (hstart : startsWith (pseudo.name ++ "(") rest = true)
    (hread : (pseudoTest inner query pseudo rest).result = .ok (test, left))
    (hlevels : test.levels false ≤ bound) :
    (pseudoTest inner' query pseudo rest).result = .ok (test, left) := by
  have hargument : endMark ∉ (balanced '(' ')' (rest.drop pseudo.name.length)).1 :=
    fun hmem => hmarked (List.mem_of_mem_drop (mem_of_mem_balanced hmem))
  simp only [pseudoTest, argumentOf_eq hstart, Report.pure_bind] at hread ⊢
  cases pseudo with
  | index comparison => exact hread
  | has => exact nested_repeated hinner (fun _ => rfl) hargument hread hlevels
  | not => exact nested_repeated hinner (fun _ => rfl) hargument hread hlevels
  | contains => exact hread
  | matchesPattern => exact hread

theorem simpleTest_repeated (hinner : Repeats inner inner' bound) (hmarked : endMark ∉ rest)
    (hread : (simpleTest inner query rest).result = .ok (test, left))
    (hlevels : test.levels false ≤ bound) :
    (simpleTest inner' query rest).result = .ok (test, left) := by
  cases rest with
  | nil => cases hread
  | cons c after =>
      revert hread
      unfold simpleTest
      dsimp only
      split
      · exact id
      · split
        · exact id
        · split
          · exact id
          · split
            · exact id
            · split
              · exact id
              · split
                · rename_i hfind
                  have hstart := PseudoClass.startsWith_of_find? hfind
                  exact fun hread => pseudoTest_repeated hinner hmarked hstart hread hlevels
                · exact id

omit [Pattern.Engine] in
theorem relate_repeated (hshapes : ReadsShapes inner shape) (hinner : Repeats inner inner' bound)
    {combinator : Combinator} {parts : List Matcher} (hparts : collapse parts ≠ .any [])
    (hmarked : endMark ∉ rest) {next : Progress}
    (hread : (relate inner combinator parts rest).result = .ok next)
    (hlevels : (collapse next.parts).levels false ≤ bound) :
    (relate inner' combinator parts rest).result = .ok next := by
  rcases exists_of_relate hread with ⟨right, hright, rfl⟩
  have hskip : endMark ∉ (skipWhitespace rest).2 :=
    fun hmem => hmarked ((skipWhitespace_suffix rest).subset hmem)
  have hcompound := (hshapes (marked_subSelector hskip) hright).2 (unbroken_subSelector hskip)
  have hattached : (combinator.attach (collapse parts) right).levels false ≤ bound := hlevels
  rw [Matcher.levels_attach combinator false hparts, hcompound.levels_true] at hattached
  have hright' := hinner (marked_subSelector hskip) hright
    (Nat.lt_of_succ_le (Nat.le_trans (Nat.le_max_right _ _) hattached))
  exact Report.result_bind_eq_ok.mpr ⟨right, hright', rfl⟩

theorem simple_repeated (hinner : Repeats inner inner' bound) {parts : List Matcher}
    (hmarked : endMark ∉ rest) {next : Progress}
    (hread : (do
      let (test, left) ← simpleTest inner query rest
      pure ⟨test :: parts, left⟩ : Report Progress).result = .ok next)
    (hlevels : (collapse next.parts).levels false ≤ bound) :
    (do
      let (test, left) ← simpleTest inner' query rest
      pure ⟨test :: parts, left⟩ : Report Progress).result = .ok next := by
  rcases Report.result_bind_eq_ok.mp hread with ⟨⟨test, left⟩, htest, hnext⟩
  cases hnext
  have hrelation := (reads_of_simpleTest htest).not_relation
  have hparts : (collapse (test :: parts)).levels false ≤ bound := hlevels
  rw [levels_collapse_cons hrelation] at hparts
  have htest' := simpleTest_repeated hinner hmarked htest
    (Nat.le_trans (Nat.le_max_right _ _) hparts)
  exact Report.result_bind_eq_ok.mpr ⟨(test, left), htest', rfl⟩

theorem step_repeated (hshapes : ReadsShapes inner shape) (hinner : Repeats inner inner' bound)
    {progress next : Progress} (hparts : collapse progress.parts ≠ .any [])
    (hmarked : endMark ∉ progress.rest)
    (hread : (step inner query progress).result = .ok next)
    (hlevels : (collapse next.parts).levels false ≤ bound) :
    (step inner' query progress).result = .ok next := by
  have hskip : endMark ∉ (skipWhitespace progress.rest).2 :=
    fun hmem => hmarked ((skipWhitespace_suffix _).subset hmem)
  revert hread
  rw [step_eq, step_eq]
  split
  · have htail : endMark ∉ (skipWhitespace progress.rest).2.tail :=
      fun hmem => hskip (List.mem_of_mem_tail hmem)
    exact fun hread => relate_repeated hshapes hinner hparts htail hread hlevels
  · split
    · exact fun hread => relate_repeated hshapes hinner hparts hskip hread hlevels
    · exact fun hread => simple_repeated hinner hskip hread hlevels

theorem start_repeated (hshapes : ReadsShapes inner shape) (hinner : Repeats inner inner' bound)
    {next : Progress} (hmarked : endMark ∉ query)
    (hread : (start inner query).result = .ok next)
    (hlevels : (collapse next.parts).levels false ≤ bound) :
    (start inner' query).result = .ok next := by
  have hskip : endMark ∉ (skipWhitespace query).2 :=
    fun hmem => hmarked ((skipWhitespace_suffix _).subset hmem)
  revert hread
  rw [start_eq, start_eq]
  split
  · have htail : endMark ∉ (skipWhitespace query).2.tail :=
      fun hmem => hskip (List.mem_of_mem_tail hmem)
    exact fun hread => relate_repeated hshapes hinner Matcher.noConfusion htail hread hlevels
  · exact fun hread => simple_repeated hinner hskip hread hlevels

theorem handsBack_levels :
    HandsBack inner query (fun matcher => matcher.levels false ≤ bound) := by
  intro progress next advances hnext
  cases advances with
  | @related combinator _ right =>
      by_cases hempty : collapse progress.parts = .any []
      · rw [hempty]
        exact Nat.zero_le bound
      · have hattached : (combinator.attach (collapse progress.parts) right).levels false ≤ bound :=
          hnext
        rw [Matcher.levels_attach combinator false hempty] at hattached
        exact Nat.le_trans (Nat.le_max_left _ _) hattached
  | simple _ reads =>
      rw [levels_collapse_cons reads.not_relation] at hnext
      exact Nat.le_trans (Nat.le_max_left _ _) hnext

omit [Pattern.Engine] in
theorem Shaped.collapse_ne {progress : Progress} (h : Shaped shape progress) :
    collapse progress.parts ≠ .any [] := by
  have hgroup := h.isGroup_collapse.1
  generalize collapse progress.parts = matcher at hgroup
  cases hgroup with
  | sequence hsequence => exact hsequence.single []
  | any => exact fun hany => List.cons_ne_nil _ _ (Matcher.any.inj hany)

theorem parseWith_repeated (hshapes : ReadsShapes inner shape)
    (hinner : Repeats inner inner' bound) (hmarked : endMark ∉ query) {matcher : Matcher}
    (hread : (parseWith inner query).result = .ok matcher)
    (hlevels : matcher.levels false ≤ bound) :
    (parseWith inner' query).result = .ok matcher := by
  rcases Report.result_bind_eq_ok.mp hread with ⟨progress, hstart, hfollow⟩
  have hback : HandsBack inner query (fun matcher => matcher.levels false ≤ bound) :=
    handsBack_levels
  have hstart' := start_repeated hshapes hinner hmarked hstart (hback.keeps_parts hfollow hlevels)
  have hskip : endMark ∉ (skipWhitespace query).2 :=
    fun hmem => hmarked ((skipWhitespace_suffix _).subset hmem)
  have hfirst := (advances_of_start hstart).shaped hshapes (Or.inl .root) (Nat.zero_le _)
    (fun _ part hpart => absurd hpart List.not_mem_nil) hskip
  refine Report.result_bind_eq_ok.mpr ⟨progress, hstart', ?_⟩
  refine hback.simulation
    (fun progress rest' => rest' = progress.rest ∧ Shaped shape progress ∧ endMark ∉ progress.rest)
    ?_ ?_ (Nat.le_refl _) ⟨rfl, hfirst⟩ hlevels hfollow
  · rintro parts rest' ⟨hrest, _⟩
    exact hrest
  · rintro progress rest' next hne ⟨rfl, hshaped, hmarked⟩ hstep hlevels
    have hnext := hshaped.advances hshapes hmarked hne (advances_of_step hstep)
    exact ⟨next.rest, ⟨rfl, hnext⟩,
      step_repeated hshapes hinner hshaped.collapse_ne hmarked hstep hlevels⟩

end Enough

/-! # The exact number of levels -/

section Exact

variable [Pattern.Engine] {levels enough : Nat} {text : Text} {matcher : Matcher}

theorem Repeats.parseWith_trim {inner : Text -> Report Matcher} {bound : Nat}
    (hinner : Repeats (parseWithin levels) inner bound) (hmarked : endMark ∉ text)
    (h : (parseWithin (levels + 1) text).result = .ok matcher)
    (hbound : matcher.levels false ≤ bound) :
    (parseWith inner (Text.trim text)).result = .ok matcher := by
  have htrim : endMark ∉ Text.trim text := fun hmem => hmarked (Text.mem_of_mem_trim hmem)
  exact parseWith_repeated (readsShapes_parseWithin levels) hinner htrim h hbound

theorem parseWithin_of_levels (hmarked : endMark ∉ text)
    (h : (parseWithin levels text).result = .ok matcher) (henough : matcher.levels false ≤ enough) :
    (parseWithin enough text).result = .ok matcher := by
  induction enough generalizing levels text matcher with
  | zero =>
      cases levels with
      | zero => exact h
      | succ levels =>
          have hinner : Repeats (parseWithin levels)
              (fun sub => .fail (.nestingTooDeep maxNesting (Text.trim text) sub)) 0 := by
            intro _ _ _ _ hbelow
            cases hbelow
          exact hinner.parseWith_trim hmarked h henough
  | succ enough ih =>
      cases levels with
      | zero =>
          rw [parseWithin_eq_of_le (Nat.zero_le _) (not_isTooDeep h)]
          exact h
      | succ levels =>
          have hinner : Repeats (parseWithin levels) (parseWithin enough) (enough + 1) := by
            intro _ _ hmarked hread hbelow
            exact ih hmarked hread (Nat.le_of_lt_succ hbelow)
          exact hinner.parseWith_trim hmarked h henough

theorem isTooDeep_of_lt (h : (parseWithin levels text).result = .ok matcher)
    (hfew : enough < matcher.levels false) : (parseWithin enough text).IsTooDeep := by
  apply Classical.not_not.mp
  intro hdeep
  have hsame : parseWithin enough text = parseWithin levels text := by
    rcases Nat.le_total levels enough with hle | hle
    · exact parseWithin_eq_of_le hle (not_isTooDeep h)
    · exact (parseWithin_eq_of_le hle hdeep).symm
  rw [← hsame] at h
  exact Nat.not_lt_of_ge (Nat.le_of_lt_succ (readsLevels_parseWithin enough h)) hfew

end Exact

/-! # Selectors that go too deep -/

/-- The text is a selector and means the matcher: it is the text of a syntax tree, or is read as
the matcher with some number of levels. -/
inductive IsSelector [Pattern.Engine] : Text -> Matcher -> Prop where
  | written (group : Group) : IsSelector group.write group.meaning
  | read {text : Text} {levels : Nat} {matcher : Matcher} : endMark ∉ text ->
      (parseWithin levels text).result = .ok matcher -> IsSelector text matcher

section Selectors

variable [Pattern.Engine] {text : Text} {matcher : Matcher}

theorem IsSelector.exists_read (selector : IsSelector text matcher) :
    exists levels, (parseWithin levels text).result = .ok matcher := by
  cases selector with
  | written group => exact ⟨group.levels, parseWithin_of_trim (Nat.le_refl _) group.trim_write⟩
  | read _ hread => exact ⟨_, hread⟩

theorem IsSelector.parse_of_levels (selector : IsSelector text matcher)
    (hlevels : matcher.levels false ≤ maxNesting) : (parse text).result = .ok matcher := by
  cases selector with
  | written group =>
      rw [group.levels_meaning] at hlevels
      exact (parse_write group hlevels).1
  | read hmarked hread => exact parseWithin_of_levels hmarked hread hlevels

theorem IsSelector.isTooDeep_iff (selector : IsSelector text matcher) :
    (parse text).IsTooDeep ↔ maxNesting < matcher.levels false := by
  constructor
  · intro hdeep
    apply Nat.lt_of_not_le
    intro hle
    exact not_isTooDeep (selector.parse_of_levels hle) hdeep
  · intro hfew
    rcases selector.exists_read with ⟨levels, hread⟩
    exact isTooDeep_of_lt hread hfew

/-- A selector goes too deep exactly when it takes more levels than allowed.  Counting the nested
arguments instead gives the same answer unless these are few enough and the levels are not, which
takes arguments that are nested at least half as deep as allowed. -/
theorem parse_isTooDeep_iff (selector : IsSelector text matcher) :
    ((parse text).IsTooDeep ↔ maxNesting < matcher.levels false) ∧
    ((parse text).result = .ok matcher ↔ matcher.levels false ≤ maxNesting) ∧
    (((parse text).IsTooDeep ↔ maxNesting < matcher.nesting) ↔
      (matcher.levels false ≤ maxNesting ∨ maxNesting < matcher.nesting)) ∧
    (maxNesting < matcher.nesting -> (parse text).IsTooDeep) ∧
    (2 * matcher.nesting < maxNesting -> (parse text).result = .ok matcher) := by
  have hdeep := selector.isTooDeep_iff
  rcases matcher.nesting_levels false with ⟨hleast, hmost⟩
  refine ⟨hdeep, ⟨fun hparse => ?_, selector.parse_of_levels⟩, ?_, ?_, ?_⟩
  · apply Nat.le_of_not_lt
    intro hlt
    exact not_isTooDeep hparse (hdeep.mpr hlt)
  · rw [hdeep]
    omega
  · intro hnested
    exact hdeep.mpr (Nat.lt_of_lt_of_le hnested hleast)
  · intro hflat
    exact selector.parse_of_levels (by omega)

end Selectors

theorem parse_isTooDeep_iff_descendant :
    IsSelector ":not(a b)" (.not (.all [.tag "b", .ancestor (.tag "a")])) ∧
      (Matcher.not (.all [.tag "b", .ancestor (.tag "a")])).levels false = 2 ∧
      (parse ":not(a b)").result = .ok (.not (.all [.tag "b", .ancestor (.tag "a")])) := by
  have hmarked : endMark ∉ (":not(a b)" : Text) := by decide
  have hread : (parseWithin 2 ":not(a b)").result =
      .ok (.not (.all [.tag "b", .ancestor (.tag "a")])) := by rfl
  have hlevels : (Matcher.not (.all [.tag "b", .ancestor (.tag "a")])).levels false = 2 := by
    decide
  have selector := IsSelector.read hmarked hread
  have hparse := (parse_isTooDeep_iff selector).2.1.mpr (by rw [hlevels]; decide)
  exact ⟨selector, hlevels, hparse⟩

/-- The selector `* *` as the argument of the given number of negations. -/
def negations [Pattern.Engine] : Nat -> Group
  | 0 =>
      let all : Compound := .untagged (.leaf .universal) []
      let gap : Gap := ⟨⟨[' '], List.all_eq_true.mp (by decide)⟩, List.cons_ne_nil _ _⟩
      .mk .none none (.mk all [(.space gap, all)]) [] .none
  | count + 1 => .mk .none none (.mk (.untagged (.not (negations count)) []) []) [] .none

theorem levels_negations [Pattern.Engine] (count : Nat) : (negations count).levels = count + 1 := by
  induction count with
  | zero => rfl
  | succ count ih =>
      show max (max (max ((negations count).levels + 1) 0) 0) 0 = count + 2
      rw [ih]
      omega

theorem nesting_negations [Pattern.Engine]
    (count : Nat) : (negations count).meaning.nesting = count := by
  induction count with
  | zero => rfl
  | succ count ih =>
      show (negations count).meaning.nesting + 1 = count + 1
      rw [ih]

/-- No argument lies inside more than the allowed number of arguments, but the combinator in the
innermost one uses up a level. -/
theorem negations_isTooDeep :
    (negations maxNesting).meaning.nesting = maxNesting ∧
      (parse (negations maxNesting).write).IsTooDeep := by
  constructor
  · exact nesting_negations maxNesting
  · apply (IsSelector.written _).isTooDeep_iff.mpr
    rw [Group.levels_meaning, levels_negations]
    exact Nat.lt_succ_self maxNesting

end Selector
end TreeQuery
