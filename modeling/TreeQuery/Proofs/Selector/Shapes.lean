import TreeQuery.Pattern.Search
import TreeQuery.Proofs.Selector.Pieces
import TreeQuery.Proofs.Selector.Steps
import TreeQuery.Proofs.Text.Lowercase

/-!
# Shapes of parsed matchers

Whatever text is read, the matcher is a group of sequences.  No disjunction stands within another
one, and a combinator has a compound on its right side, because what is cut out there has no breaks
and a text without breaks is a compound.
-/

namespace TreeQuery
namespace Selector

open Scan Grammar

/-! # Shapes -/

/-- What the test names and the value that it compares to are not empty. -/
def AttributeTest.IsNamed : AttributeTest -> Prop
  | .present key => key ≠ []
  | .nameStartsWith start => start ≠ []
  | .compare _ key value => key ≠ [] ∧ value ≠ []
  | .matchesPattern key _ => key ≠ []

namespace Matcher

/-- The tests on another element that a combinator makes of its left side. -/
def relations : List (Matcher -> Matcher) :=
  [.parent, .ancestor, .previous, .before]

mutual
inductive IsSimple : Matcher -> Prop where
  | tag {name : Text} : name ≠ [] -> '|' ∉ name -> IsSimple (.tag name)
  | id {value : Text} : value ≠ [] -> IsSimple (.id value)
  | className {name : Text} : name ≠ [] -> IsSimple (.className name)
  | attribute {test : AttributeTest} : test.IsNamed -> IsSimple (.attribute test)
  | universal : IsSimple .universal
  | index {comparison : IndexComparison} {argument : Int} : IsSimple (.index comparison argument)
  | containsText {needle : Text} : needle ≠ [] -> IsSimple (.containsText needle)
  | matchesText {pattern : Pattern} : IsSimple (.matchesText pattern)
  | has {inner : Matcher} : IsGroup inner -> IsSimple (.has inner)
  | not {inner : Matcher} : IsGroup inner -> IsSimple (.not inner)

/-- Simple selectors one after the other.  Two or more of them make a conjunction. -/
inductive IsCompound : Matcher -> Prop where
  | simple {test : Matcher} : IsSimple test -> IsCompound test
  | all {tests : List Matcher} : 2 ≤ tests.length ->
      (forall test, test ∈ tests -> IsSimple test) -> IsCompound (.all tests)

/-- Compounds joined by combinators, the first of which may stand behind the root. -/
inductive IsSequence : Matcher -> Prop where
  | root : IsSequence .root
  | compound {test : Matcher} : IsCompound test -> IsSequence test
  | related {relation : Matcher -> Matcher} {left right : Matcher} : relation ∈ relations ->
      IsCompound right -> IsSequence left -> IsSequence (.all [right, relation left])

/-- One sequence, or a disjunction of two or more.  The root alone is at most the first branch of
a disjunction. -/
inductive IsGroup : Matcher -> Prop where
  | sequence {test : Matcher} : IsSequence test -> test ≠ .root -> IsGroup test
  | any {first : Matcher} {others : List Matcher} : IsSequence first -> others ≠ [] ->
      (forall branch, branch ∈ others -> IsSequence branch) -> .root ∉ others ->
      IsGroup (.any (first :: others))
end

mutual
/-- The number of tests of elements below and of negations that are within each other. -/
def nesting : Matcher -> Nat
  | .has inner => inner.nesting + 1
  | .not inner => inner.nesting + 1
  | .parent inner => inner.nesting
  | .ancestor inner => inner.nesting
  | .previous inner => inner.nesting
  | .before inner => inner.nesting
  | .all tests => nestingAll tests
  | .any tests => nestingAll tests
  | _ => 0

def nestingAll : List Matcher -> Nat
  | [] => 0
  | test :: rest => max test.nesting (nestingAll rest)
end

/-! # Nesting -/

theorem nestingAll_le_iff {tests : List Matcher} {bound : Nat} :
    nestingAll tests ≤ bound ↔ forall test, test ∈ tests -> test.nesting ≤ bound := by
  induction tests with
  | nil => simp [nestingAll]
  | cons test rest ih => rw [nestingAll, Nat.max_le, ih, List.forall_mem_cons]

theorem nestingAll_append (first second : List Matcher) :
    nestingAll (first ++ second) = max (nestingAll first) (nestingAll second) := by
  induction first with
  | nil => simp [nestingAll]
  | cons test rest ih => simp [nestingAll, ih, Nat.max_assoc]

end Matcher

theorem nesting_collapse_le {parts : List Matcher} {bound : Nat}
    (h : forall part, part ∈ parts -> part.nesting ≤ bound) : (collapse parts).nesting ≤ bound := by
  unfold collapse
  split
  · exact h _ List.mem_cons_self
  · exact Matcher.nestingAll_le_iff.mpr fun part hpart => h part (List.mem_reverse.mp hpart)

theorem Combinator.nesting_join (combinator : Combinator) (left right : Matcher) :
    (combinator.join left right).nesting = max left.nesting right.nesting := by
  cases combinator <;> simp [join, Matcher.nesting, Matcher.nestingAll, Nat.max_comm]

theorem Combinator.nesting_joinLast (combinator : Combinator) (right : Matcher)
    (branches : List Matcher) :
    Matcher.nestingAll (combinator.joinLast right branches) =
      max (Matcher.nestingAll branches) right.nesting := by
  induction branches with
  | nil => simp [joinLast, Matcher.nestingAll]
  | cons branch rest ih =>
      cases rest with
      | nil => simp [joinLast, Matcher.nestingAll, nesting_join]
      | cons next rest =>
          show max branch.nesting (Matcher.nestingAll (combinator.joinLast right (next :: rest))) = _
          rw [ih, ← Nat.max_assoc]
          rfl

theorem Combinator.nesting_attach (combinator : Combinator) (left right : Matcher) :
    (combinator.attach left right).nesting = max left.nesting right.nesting := by
  unfold attach
  split
  · simp [Matcher.nesting, Matcher.nestingAll_append, Matcher.nestingAll]
  · simp only [Matcher.nesting, nesting_joinLast]
  · exact combinator.nesting_join left right

/-! # Attaching -/

namespace Matcher

theorem IsCompound.single {test : Matcher} (h : IsCompound test) : IsSingle test := by
  intro branches hany
  subst hany
  cases h with
  | simple h => cases h

theorem IsCompound.ne_root {test : Matcher} (h : IsCompound test) : test ≠ .root := by
  intro hroot
  subst hroot
  cases h with
  | simple h => cases h

theorem IsSequence.single {test : Matcher} (h : IsSequence test) : IsSingle test := by
  intro branches hany
  cases h with
  | root => cases hany
  | compound h => exact h.single branches hany
  | related => cases hany

theorem isCompound_collapse {parts : List Matcher} (hne : parts ≠ [])
    (h : forall part, part ∈ parts -> IsSimple part) : IsCompound (collapse parts) := by
  unfold collapse
  split
  · exact IsCompound.simple (h _ List.mem_cons_self)
  · rename_i hmany
    apply IsCompound.all
    · rcases parts with _ | ⟨first, _ | ⟨second, rest⟩⟩
      · exact absurd rfl hne
      · exact absurd rfl (hmany first)
      · simp
    · exact fun part hpart => h part (List.mem_reverse.mp hpart)

theorem IsSequence.join {combinator : Combinator} (hcombinator : combinator ≠ .group)
    {left right : Matcher} (hleft : IsSequence left) (hright : IsCompound right) :
    IsSequence (combinator.join left right) ∧ combinator.join left right ≠ .root := by
  cases combinator with
  | group => exact absurd rfl hcombinator
  | child => exact ⟨.related (.head _) hright hleft, Matcher.noConfusion⟩
  | descendant => exact ⟨.related (.tail _ (.head _)) hright hleft, Matcher.noConfusion⟩
  | nextSibling =>
      exact ⟨.related (.tail _ (.tail _ (.head _))) hright hleft, Matcher.noConfusion⟩
  | subsequentSibling =>
      exact ⟨.related (.tail _ (.tail _ (.tail _ (.head _)))) hright hleft, Matcher.noConfusion⟩

theorem IsSequence.attach {combinator : Combinator} {left right : Matcher}
    (hleft : IsSequence left) (hright : IsCompound right) :
    IsGroup (combinator.attach left right) := by
  rw [attach_of_single hleft.single]
  by_cases hcombinator : combinator = .group
  · subst hcombinator
    refine IsGroup.any hleft (List.cons_ne_nil right []) ?_ ?_
    · rintro branch (_ | ⟨_, ⟨⟩⟩)
      exact .compound hright
    · rintro (_ | ⟨_, ⟨⟩⟩)
      exact hright.ne_root rfl
  · rcases hleft.join hcombinator hright with ⟨hjoined, hne⟩
    exact .sequence hjoined hne

theorem IsGroup.concat {first last : Matcher} {others : List Matcher} (hfirst : IsSequence first)
    (hothers : forall branch, branch ∈ others -> IsSequence branch) (hroot : .root ∉ others)
    (hlast : IsSequence last) (hne : last ≠ .root) :
    IsGroup (.any (first :: (others ++ [last]))) := by
  refine IsGroup.any hfirst (by simp) ?_ ?_
  · intro branch hbranch
    rcases List.mem_append.mp hbranch with hbranch | hbranch
    · exact hothers branch hbranch
    · rwa [List.mem_singleton.mp hbranch]
  · intro hmem
    rcases List.mem_append.mp hmem with hmem | hmem
    · exact hroot hmem
    · exact hne (List.mem_singleton.mp hmem).symm

theorem IsGroup.attach {combinator : Combinator} {left right : Matcher}
    (hleft : IsGroup left) (hright : IsCompound right) :
    IsGroup (combinator.attach left right) := by
  cases hleft with
  | sequence hleft => exact hleft.attach hright
  | @any first others hfirst hne hothers hroot =>
      by_cases hcombinator : combinator = .group
      · subst hcombinator
        exact IsGroup.concat hfirst hothers hroot (.compound hright) hright.ne_root
      · obtain ⟨init, last, rfl⟩ : exists init last, others = init ++ [last] :=
          ⟨_, _, (List.dropLast_concat_getLast hne).symm⟩
        have hlast : last ∈ init ++ [last] := List.mem_append_right _ (List.mem_singleton_self _)
        rcases (hothers last hlast).join hcombinator hright with ⟨hjoined, hnotroot⟩
        rw [← List.cons_append, attach_concat hcombinator, List.cons_append]
        exact IsGroup.concat hfirst
          (fun branch hbranch => hothers branch (List.mem_append_left _ hbranch))
          (fun hmem => hroot (List.mem_append_left _ hmem)) hjoined hnotroot

end Matcher

/-! # Simple selectors -/

theorem named_of_presenceTest {query rest key : Text} {test : AttributeTest} (hkey : key ≠ [])
    (h : presenceTest query rest key = .ok test) : test.IsNamed := by
  unfold presenceTest at h
  split at h
  · cases h
  · rename_i start hne
    cases h
    intro hstart
    exact hne (by rw [hstart])
  · cases h
    exact hkey

theorem named_of_operatorTest [Pattern.Engine]
    {query key after : Text} {test : AttributeTest} (hkey : key ≠ [])
    (h : operatorTest query key after = .ok test) : test.IsNamed := by
  unfold operatorTest at h
  split at h
  · cases hpattern : compilePattern (after.drop patternMark.length) with
    | error error =>
        rw [hpattern] at h
        cases h
    | ok pattern =>
        rw [hpattern] at h
        cases h
        exact hkey
  · split at h
    · cases h
    · simp only at h
      split at h
      · cases h
      · rename_i hvalue
        cases h
        exact ⟨hkey, by simpa using hvalue⟩

theorem named_of_attributeTest [Pattern.Engine] {query rest clause : Text} {test : AttributeTest}
    (h : attributeTest query rest clause = .ok test) : test.IsNamed := by
  unfold attributeTest at h
  simp only at h
  split at h
  · cases h
  · rename_i hkey
    have hkey : Text.foldAscii (Text.trim (upToAny attributeMarks clause).1) ≠ [] := by
      simpa using hkey
    split at h
    · exact named_of_presenceTest hkey h
    · exact named_of_operatorTest hkey h

/-- The inner reading gives groups of bounded nesting, and compounds of texts without breaks. -/
def ReadsShapes (inner : Text -> Report Matcher) (bound : Nat) : Prop :=
  forall {text : Text} {matcher : Matcher}, endMark ∉ text ->
    (inner text).result = .ok matcher ->
      (matcher.IsGroup ∧ matcher.nesting < bound) ∧ (Unbroken text -> matcher.IsCompound)

section Reading

variable [Pattern.Engine] {inner : Text -> Report Matcher} {bound : Nat}
  {query rest left : Text} {test : Matcher}

theorem Reads.isSimple (hinner : ReadsShapes inner bound) (hmarked : endMark ∉ rest)
    (reads : Reads inner query rest test left) : test.IsSimple ∧ test.nesting ≤ bound := by
  have hargument : forall {given text argument : Text} {matcher : Matcher},
      endMark ∉ given ++ '(' :: text -> balanced '(' ')' ('(' :: text) = (argument, left) ->
        (inner argument).result = .ok matcher ->
          matcher.IsGroup ∧ matcher.nesting < bound := by
    intro given text argument matcher hmarked hgroup hread
    refine (hinner (fun hmem => hmarked ?_) hread).1
    have hargument : endMark ∈ (balanced '(' ')' ('(' :: text)).1 := by rwa [hgroup]
    exact List.mem_append_right _ (mem_of_mem_balanced hargument)
  cases reads with
  | id hne => exact ⟨.id hne, Nat.zero_le _⟩
  | className hne => exact ⟨.className (Text.lower_ne_nil hne), Nat.zero_le _⟩
  | @tag raw name _ _ hname hne =>
      refine ⟨.tag hne ?_, Nat.zero_le _⟩
      intro hbar
      rw [hname] at hbar
      rcases List.mem_map.mp (Text.mem_of_mem_lower (by decide +kernel) (by decide) hbar) with
        ⟨c, _, hc⟩
      split at hc
      · cases hc
      · contradiction
  | bracketed _ htest => exact ⟨.attribute (named_of_attributeTest htest), Nat.zero_le _⟩
  | universal => exact ⟨.universal, Nat.zero_le _⟩
  | index => exact ⟨.index, Nat.zero_le _⟩
  | has _ hgroup hread =>
      rcases hargument hmarked hgroup hread with ⟨hshape, hnesting⟩
      exact ⟨.has hshape, hnesting⟩
  | not _ hgroup hread =>
      rcases hargument hmarked hgroup hread with ⟨hshape, hnesting⟩
      exact ⟨.not hshape, hnesting⟩
  | containsText _ _ hne => exact ⟨.containsText (Text.lower_ne_nil hne), Nat.zero_le _⟩
  | matchesText => exact ⟨.matchesText, Nat.zero_le _⟩

/-! # Steps -/

/-- What was read so far is simple selectors, or something related to what came before it, with a
separator or the end behind it. -/
inductive Shaped (bound : Nat) : Progress -> Prop where
  | parts {parts : List Matcher} {rest : Text} : parts ≠ [] ->
      (forall part, part ∈ parts -> part.IsSimple ∧ part.nesting ≤ bound) ->
      Shaped bound ⟨parts, rest⟩
  | related {test : Matcher} {rest : Text} : test.IsGroup -> test.nesting ≤ bound -> Ends rest ->
      Shaped bound ⟨[test], rest⟩

omit [Pattern.Engine] in
theorem Shaped.isGroup_collapse {progress : Progress} (h : Shaped bound progress) :
    (collapse progress.parts).IsGroup ∧ (collapse progress.parts).nesting ≤ bound := by
  cases h with
  | parts hne hparts =>
      have hcompound := Matcher.isCompound_collapse hne fun part hpart => (hparts part hpart).1
      exact ⟨.sequence (.compound hcompound) hcompound.ne_root,
        nesting_collapse_le fun part hpart => (hparts part hpart).2⟩
  | related hgroup hnesting => exact ⟨hgroup, hnesting⟩

theorem Advances.shaped (hinner : ReadsShapes inner bound) {before : Matcher}
    (hbefore : before.IsSequence ∨ before.IsGroup) (hnesting : before.nesting ≤ bound)
    {parts : List Matcher} (hparts : (forall c, rest.head? = some c -> isSeparator c = false) ->
      forall part, part ∈ parts -> part.IsSimple ∧ part.nesting ≤ bound)
    (hmarked : endMark ∉ rest) {next : Progress}
    (advances : Advances inner query before parts rest next) :
    Shaped bound next ∧ endMark ∉ next.rest := by
  cases advances with
  | @related combinator text right _ hsuffix hright =>
      have htext : endMark ∉ text := fun hmem => hmarked (hsuffix.subset hmem)
      rcases hinner (marked_subSelector htext) hright with ⟨⟨_, hbound⟩, hcompound⟩
      have hcompound := hcompound (unbroken_subSelector htext)
      have hgroup : (combinator.attach before right).IsGroup := by
        rcases hbefore with hbefore | hbefore
        · exact hbefore.attach hcompound
        · exact hbefore.attach hcompound
      have hattached : (combinator.attach before right).nesting ≤ bound := by
        rw [combinator.nesting_attach]
        exact Nat.max_le.mpr ⟨hnesting, Nat.le_of_lt hbound⟩
      exact ⟨.related hgroup hattached (ends_subSelector text),
        fun hmem => htext ((subSelector_suffix text).subset hmem)⟩
  | simple hhead reads =>
      refine ⟨.parts (List.cons_ne_nil _ _) ?_, fun hmem => hmarked (reads.suffix.subset hmem)⟩
      exact List.forall_mem_cons.mpr ⟨reads.isSimple hinner hmarked, hparts hhead⟩

theorem Shaped.advances (hinner : ReadsShapes inner bound) {progress next : Progress}
    (h : Shaped bound progress) (hmarked : endMark ∉ progress.rest) (hne : progress.rest ≠ [])
    (advances : Advances inner query (collapse progress.parts) progress.parts
      progress.rest next) :
    Shaped bound next ∧ endMark ∉ next.rest := by
  rcases h.isGroup_collapse with ⟨hgroup, hnesting⟩
  refine advances.shaped hinner (Or.inr hgroup) hnesting ?_ hmarked
  intro hhead
  cases h with
  | parts _ hparts => exact hparts
  | related _ _ hends =>
      have hfirst := List.head?_eq_some_head hne
      have hseparator := hends _ hfirst
      rw [hhead _ hfirst] at hseparator
      cases hseparator

structure OnlySimple (progress : Progress) : Prop where
  parts_ne_nil : progress.parts ≠ []
  parts_simple : forall part, part ∈ progress.parts -> part.IsSimple
  marked : endMark ∉ progress.rest
  unbroken : Unbroken progress.rest

theorem Advances.onlySimple (hinner : ReadsShapes inner bound) {before : Matcher}
    {parts : List Matcher} (hparts : forall part, part ∈ parts -> part.IsSimple)
    (hmarked : endMark ∉ rest) (h : Unbroken rest) {next : Progress}
    (advances : Advances inner query before parts rest next) : OnlySimple next := by
  cases advances with
  | related hhead =>
      rcases hhead with ⟨c, hc, hseparator⟩
      rw [h.head c hc] at hseparator
      cases hseparator
  | simple _ reads =>
      constructor
      case parts_ne_nil => exact List.cons_ne_nil _ _
      case parts_simple =>
        exact List.forall_mem_cons.mpr ⟨(reads.isSimple hinner hmarked).1, hparts⟩
      case marked => exact fun hmem => hmarked (reads.suffix.subset hmem)
      case unbroken => exact reads.unbroken h

/-! # Whole texts -/

theorem isGroup_of_parseWith (hinner : ReadsShapes inner bound) (hmarked : endMark ∉ query)
    (h : (parseWith inner query).result = .ok test) : test.IsGroup ∧ test.nesting ≤ bound := by
  have hfirst : endMark ∉ (skipWhitespace query).2 :=
    fun hmem => hmarked ((skipWhitespace_suffix query).subset hmem)
  have hend := parseWith_of_invariant
    (fun progress => Shaped bound progress ∧ endMark ∉ progress.rest)
    (fun next advances => advances.shaped hinner (Or.inl .root) (Nat.zero_le _)
      (fun _ part hpart => absurd hpart List.not_mem_nil) hfirst)
    (fun progress next holds hne advances => holds.1.advances hinner holds.2 hne advances) h
  rcases hend with ⟨parts, ⟨hshaped, _⟩, rfl⟩
  exact hshaped.isGroup_collapse

theorem isCompound_of_parseWith (hinner : ReadsShapes inner bound) (hmarked : endMark ∉ query)
    (hquery : Unbroken query) (h : (parseWith inner query).result = .ok test) :
    test.IsCompound := by
  have hskip : (skipWhitespace query).2 = query := by
    rcases skipWhitespace_cases query with ⟨⟨c, hc, hseparator⟩, _⟩ | hsame
    · rw [hquery.head c hc] at hseparator
      cases hseparator
    · rw [hsame]
  have hend := parseWith_of_invariant OnlySimple
    (fun next advances => by
      rw [hskip] at advances
      exact advances.onlySimple hinner (by simp) hmarked hquery)
    (fun progress next holds _ advances =>
      advances.onlySimple hinner holds.parts_simple holds.marked holds.unbroken) h
  rcases hend with ⟨parts, holds, rfl⟩
  exact Matcher.isCompound_collapse holds.parts_ne_nil holds.parts_simple

theorem ReadsShapes.parseWith_trim (hinner : ReadsShapes inner bound) :
    ReadsShapes (fun text => parseWith inner (Text.trim text)) (bound + 1) := by
  intro text matcher hmarked h
  have htrim : endMark ∉ Text.trim text := fun hmem => hmarked (Text.mem_of_mem_trim hmem)
  rcases isGroup_of_parseWith hinner htrim h with ⟨hgroup, hnesting⟩
  exact ⟨⟨hgroup, Nat.lt_succ_of_le hnesting⟩,
    fun hunbroken => isCompound_of_parseWith hinner htrim (hunbroken.trim hmarked) h⟩

theorem readsShapes_parseWithin (levels : Nat) : ReadsShapes (parseWithin levels) (levels + 1) := by
  induction levels with
  | zero =>
      -- Without levels nothing within is ever read.
      intro text matcher hmarked h
      have hinner : ReadsShapes
          (fun sub => .fail (.nestingTooDeep maxNesting (Text.trim text) sub)) 0 := by
        intro _ _ _ hread
        cases hread
      exact hinner.parseWith_trim hmarked h
  | succ levels ih => exact ih.parseWith_trim

end Reading

/-- Every matcher that is read from a text without end marks is a group, as is every matcher that
it negates or looks for below, and these are nested no deeper than allowed. -/
theorem parse_isGroup [Pattern.Engine] {text : Text} {matcher : Matcher} (hmarked : endMark ∉ text)
    (h : (parse text).result = .ok matcher) :
    matcher.IsGroup ∧ matcher.nesting ≤ maxNesting := by
  rcases (readsShapes_parseWithin maxNesting hmarked h).1 with ⟨hgroup, hnesting⟩
  exact ⟨hgroup, Nat.le_of_lt_succ hnesting⟩

def danglingText : Text :=
  ",p>:not(:has([k=v"

def danglingMatcher : Matcher :=
  .any [.root, .all [.not (.has (.attribute (.compare .equals "k" "v"))), .parent (.tag "p")]]

theorem parse_isGroup_dangling :
    endMark ∉ danglingText ∧ (parse danglingText).result = .ok danglingMatcher ∧
      danglingMatcher.IsGroup ∧ danglingMatcher.nesting ≤ maxNesting := by
  have hmarked : endMark ∉ danglingText := by decide
  have hparse : (parse danglingText).result = .ok danglingMatcher := rfl
  exact ⟨hmarked, hparse, parse_isGroup hmarked hparse⟩

end Selector
end TreeQuery
