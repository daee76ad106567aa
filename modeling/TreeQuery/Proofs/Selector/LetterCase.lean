import TreeQuery.Pattern.Search
import TreeQuery.Proofs.Selector.Steps
import TreeQuery.Proofs.Text.LetterCase

/-!
# Selectors in either case

Every look ahead and every class of characters is blind to the case of the letters `A` to `Z`, and
names, keys and values are read in lower case.  So a selector is read as the same matcher in any
letter case, unless it has an id or a regular expression, which are kept as they are written.
-/

namespace TreeQuery
namespace Selector

open Scan Text

/-! # Looking ahead and consuming -/

def foldBoth (texts : Text × Text) : Text × Text :=
  (foldAscii texts.1, foldAscii texts.2)

theorem alike_of_foldBoth {f : Text -> Text × Text}
    (hfold : forall text, f (foldAscii text) = foldBoth (f text)) {first second : Text}
    (h : Alike first second) : Alike (f first).1 (f second).1 ∧ Alike (f first).2 (f second).2 := by
  constructor
  · exact Alike.map (f := fun text => (f text).1) (fun text => congrArg Prod.fst (hfold text)) h
  · exact Alike.map (f := fun text => (f text).2) (fun text => congrArg Prod.snd (hfold text)) h

theorem toLower_peek (rest : Text) : peek (foldAscii rest) = (peek rest).toLower := by
  cases rest <;> rfl

theorem startsWith_foldAscii (mark rest : Text) :
    startsWith mark (foldAscii rest) = startsWith mark rest := by
  induction mark generalizing rest with
  | nil => rfl
  | cons c mark ih =>
      cases rest with
      | nil => rfl
      | cons r rest =>
          show (sameLetter r.toLower c && startsWith mark (foldAscii rest)) = _
          rw [sameLetter_toLower, ih, startsWith]

theorem run_foldAscii {test : Char -> Bool} (h : IsBlind test) (rest : Text) :
    run test (foldAscii rest) = foldBoth (run test rest) :=
  Prod.ext (takeWhile_foldAscii h rest) (dropWhile_foldAscii h rest)

theorem skipWhitespace_alike {rest rest' : Text} (h : Alike rest rest') :
    (skipWhitespace rest').1 = (skipWhitespace rest).1 ∧
      Alike (skipWhitespace rest).2 (skipWhitespace rest').2 := by
  have hnext : forall text, nextIs isWhitespace (foldAscii text) = nextIs isWhitespace text := by
    intro text
    cases text with
    | nil => rfl
    | cons c text => exact isBlind_isWhitespace c
  exact ⟨(h.congr hnext).symm, h.map (dropWhile_foldAscii isBlind_isWhitespace)⟩

theorem upTo_foldAscii {found : Text -> Bool} (h : forall text, found (foldAscii text) = found text)
    (rest : Text) : upTo found (foldAscii rest) = foldBoth (upTo found rest) := by
  induction rest with
  | nil => rfl
  | cons c rest ih =>
      have hfound : found (c.toLower :: foldAscii rest) = found (c :: rest) := h (c :: rest)
      show upTo found (c.toLower :: foldAscii rest) = _
      rw [upTo, upTo, hfound, ih]
      cases found (c :: rest) <;> rfl

theorem upToAny_foldAscii (marks : List Text) (rest : Text) :
    upToAny marks (foldAscii rest) = foldBoth (upToAny marks rest) := by
  apply upTo_foldAscii
  intro text
  simp only [startsWithAny, startsWith_foldAscii]

theorem isPrefixOf_foldAscii {mark : Char} (h : IsMark mark) (text : Text) :
    List.isPrefixOf [mark] (foldAscii text) = List.isPrefixOf [mark] text := by
  cases text with
  | nil => rfl
  | cons c text =>
      have hc : (mark == c.toLower) = (mark == c) := by
        rw [Bool.eq_iff_iff, beq_iff_eq, beq_iff_eq, eq_comm, h.toLower_eq_iff, eq_comm]
      show (mark == c.toLower && true) = (mark == c && true)
      rw [hc]

theorem past_foldAscii {mark : Char} (h : IsMark mark) (rest : Text) :
    past [mark] (foldAscii rest) = foldBoth (past [mark] rest) := by
  have hskip : forall text, (skip [mark] (foldAscii text)).2 = foldAscii (skip [mark] text).2 := by
    intro text
    unfold skip
    rw [startsWith_foldAscii]
    cases startsWith [mark] text with
    | true => exact List.map_drop.symm
    | false => rfl
  have hupTo : upToMark [mark] (foldAscii rest) = foldBoth (upToMark [mark] rest) :=
    upTo_foldAscii (isPrefixOf_foldAscii h) rest
  unfold past
  rw [hupTo]
  exact Prod.ext rfl (hskip _)

/-! # Groups -/

theorem depthAfter_toLower {opening closing : Char} (hopening : IsMark opening)
    (hclosing : IsMark closing) (depth : Nat) (last c : Char) :
    depthAfter opening closing depth last.toLower c.toLower =
      depthAfter opening closing depth last c := by
  have hlast : last.toLower = escapeMark ↔ last = escapeMark := IsMark.toLower_eq_iff (by decide)
  simp only [depthAfter, hlast, hopening.toLower_eq_iff, hclosing.toLower_eq_iff]

theorem balancedFrom_foldAscii {opening closing : Char} (hopening : IsMark opening)
    (hclosing : IsMark closing) (depth : Nat) (last : Char) (rest : Text) :
    balancedFrom opening closing depth last.toLower (foldAscii rest) =
      foldBoth (balancedFrom opening closing depth last rest) := by
  induction rest generalizing depth last with
  | nil => rfl
  | cons c rest ih =>
      have hend : last.toLower = endMark ↔ last = endMark := IsMark.toLower_eq_iff (by decide)
      show balancedFrom opening closing depth last.toLower (c.toLower :: foldAscii rest) = _
      rw [balancedFrom, balancedFrom, depthAfter_toLower hopening hclosing]
      simp only [ih, hend]
      split
      · rfl
      · split <;> rfl

theorem Pair.isMark {opening closing : Char} (pair : Pair opening closing) :
    IsMark opening ∧ IsMark closing := by
  cases pair <;> decide

theorem balanced_foldAscii {opening closing : Char} (pair : Pair opening closing) (rest : Text) :
    balanced opening closing (foldAscii rest) = foldBoth (balanced opening closing rest) :=
  balancedFrom_foldAscii pair.isMark.1 pair.isMark.2 0 endMark rest

theorem isBlind_isSeparator : IsBlind isSeparator :=
  isBlind_of_capitals (by decide +kernel)

theorem ends_foldAscii {text : Text} (h : Ends text) : Ends (foldAscii text) := by
  intro c hc
  cases text with
  | nil => cases hc
  | cons d rest =>
      cases hc
      rw [isBlind_isSeparator]
      exact h d rfl

theorem Joins.toLower {c : Char} (h : Joins c) : Joins c.toLower := by
  constructor
  case parenthesis => exact fun hc => h.parenthesis ((IsMark.toLower_eq_iff (by decide)).mp hc)
  case bracket => exact fun hc => h.bracket ((IsMark.toLower_eq_iff (by decide)).mp hc)
  case separator => exact (isBlind_isSeparator c).trans h.separator

theorem subSelector_foldAscii (rest : Text) :
    subSelector (foldAscii rest) = foldBoth (subSelector rest) := by
  induction rest using cut_induction with
  | ends text h =>
      rw [subSelector_of_ends h, subSelector_of_ends (ends_foldAscii h)]
      rfl
  | group opening closing rest pair ih =>
      have hopening : opening.toLower = opening := pair.isMark.1.toLower_eq_iff.mpr rfl
      have hclosing : closing.toLower = closing := pair.isMark.2.toLower_eq_iff.mpr rfl
      have hgroup : foldAscii (opening :: rest) = opening :: foldAscii rest := by
        show opening.toLower :: foldAscii rest = _
        rw [hopening]
      have hbalanced := balanced_foldAscii pair (opening :: rest)
      rw [hgroup] at hbalanced
      rw [hgroup, subSelector_group pair, subSelector_group pair, hbalanced]
      simp only [foldBoth] at ih ⊢
      rw [ih]
      simp [foldAscii, hopening, hclosing]
  | joins c rest h ih =>
      show subSelector (c.toLower :: foldAscii rest) = _
      rw [subSelector_joins h, subSelector_joins h.toLower, ih]
      rfl

/-! # Values -/

theorem unescape_foldAscii (text : Text) : unescape (foldAscii text) = foldAscii (unescape text) := by
  have hescape : forall {c : Char}, c.toLower = escapeMark ↔ c = escapeMark :=
    IsMark.toLower_eq_iff (by decide)
  have hafter : forall last text,
      unescapeAfter last.toLower (foldAscii text) = foldAscii (unescapeAfter last text) := by
    intro last text
    induction text generalizing last with
    | nil => rfl
    | cons c rest ih =>
        show unescapeAfter last.toLower (c.toLower :: foldAscii rest) = _
        rw [unescapeAfter, unescapeAfter]
        simp only [hescape, ih, ne_eq]
        split <;> rfl
  exact hafter endMark text

theorem dropQuotes?_foldAscii {quote : Char} (h : IsMark quote) (text : Text) :
    dropQuotes? quote (foldAscii text) = (dropQuotes? quote text).map foldAscii := by
  have hstart : forall text, dropStart? [quote] (foldAscii text) =
      (dropStart? [quote] text).map foldAscii := by
    intro text
    unfold dropStart?
    rw [isPrefixOf_foldAscii h]
    split
    · exact congrArg some List.map_drop.symm
    · rfl
  have hend : forall text, dropEnd? [quote] (foldAscii text) =
      (dropEnd? [quote] text).map foldAscii := by
    intro text
    have hsuffix : List.isSuffixOf [quote] (foldAscii text) = List.isSuffixOf [quote] text := by
      have hreverse : (foldAscii text).reverse = foldAscii text.reverse := List.map_reverse.symm
      unfold List.isSuffixOf
      rw [hreverse]
      exact isPrefixOf_foldAscii h text.reverse
    have hlength : (foldAscii text).length = text.length := List.length_map _
    unfold dropEnd?
    rw [hsuffix, hlength]
    split
    · exact congrArg some List.map_take.symm
    · rfl
  unfold dropQuotes?
  rw [hstart]
  cases dropStart? [quote] text with
  | none => rfl
  | some inner => exact hend inner

theorem dropQuotes_foldAscii (text : Text) :
    dropQuotes (foldAscii text) = foldAscii (dropQuotes text) := by
  unfold dropQuotes
  rw [dropQuotes?_foldAscii (by decide), dropQuotes?_foldAscii (by decide)]
  cases dropQuotes? '"' text with
  | some inner => rfl
  | none => cases dropQuotes? '\'' text <;> rfl

theorem attributeValue_foldAscii (raw : Text) :
    attributeValue (foldAscii raw) = attributeValue raw := by
  unfold attributeValue
  rw [unescape_foldAscii, trim_foldAscii, dropQuotes_foldAscii, trim_foldAscii, lower_foldAscii]

/-! # Matchers without ids and regular expressions -/

def AttributeTest.isCaseless : AttributeTest -> Bool
  | .present _ => true
  | .nameStartsWith _ => true
  | .compare _ _ _ => true
  | .matchesPattern _ _ => false

namespace Matcher

mutual
/-- Neither the matcher nor any part of it is an id or a regular expression. -/
def isCaseless : Matcher -> Bool
  | .tag _ => true
  | .id _ => false
  | .className _ => true
  | .attribute test => test.isCaseless
  | .universal => true
  | .index _ _ => true
  | .containsText _ => true
  | .matchesText _ => false
  | .all tests => areCaseless tests
  | .any tests => areCaseless tests
  | .root => true
  | .has inner => inner.isCaseless
  | .not inner => inner.isCaseless
  | .parent inner => inner.isCaseless
  | .ancestor inner => inner.isCaseless
  | .previous inner => inner.isCaseless
  | .before inner => inner.isCaseless

def areCaseless : List Matcher -> Bool
  | [] => true
  | test :: rest => test.isCaseless && areCaseless rest
end

theorem areCaseless_eq_all (tests : List Matcher) : areCaseless tests = tests.all isCaseless := by
  induction tests with
  | nil => rfl
  | cons test rest ih => rw [areCaseless, ih, List.all_cons]

theorem isCaseless_collapse (parts : List Matcher) :
    (collapse parts).isCaseless = parts.all isCaseless := by
  unfold collapse
  split
  · simp
  · rw [isCaseless, areCaseless_eq_all, List.all_reverse]

end Matcher

theorem Combinator.isCaseless_join (combinator : Combinator) (left right : Matcher) :
    (combinator.join left right).isCaseless = (left.isCaseless && right.isCaseless) := by
  cases combinator <;>
    simp [Combinator.join, Matcher.isCaseless, Matcher.areCaseless, Bool.and_comm]

theorem Combinator.isCaseless_joinLast (combinator : Combinator) (right : Matcher)
    (branches : List Matcher) :
    (combinator.joinLast right branches).all Matcher.isCaseless =
      (branches.all Matcher.isCaseless && right.isCaseless) := by
  induction branches with
  | nil => simp [Combinator.joinLast]
  | cons branch rest ih =>
      cases rest with
      | nil => simp [Combinator.joinLast, combinator.isCaseless_join]
      | cons next rest =>
          rw [Combinator.joinLast, List.all_cons, ih, ← Bool.and_assoc, ← List.all_cons]

theorem Combinator.isCaseless_attach (combinator : Combinator) (left right : Matcher) :
    (combinator.attach left right).isCaseless = (left.isCaseless && right.isCaseless) := by
  unfold Combinator.attach
  split
  · simp [Matcher.isCaseless, Matcher.areCaseless_eq_all]
  · rw [Matcher.isCaseless, Matcher.areCaseless_eq_all, combinator.isCaseless_joinLast,
      Matcher.isCaseless, Matcher.areCaseless_eq_all]
  · exact combinator.isCaseless_join left right

theorem handsBack_isCaseless [Pattern.Engine] {inner : Text -> Report Matcher} {query : Text} :
    HandsBack inner query (fun matcher => matcher.isCaseless = true) := by
  intro progress next advances h
  cases advances with
  | related =>
      rw [collapse, Combinator.isCaseless_attach, Bool.and_eq_true] at h
      exact h.1
  | simple =>
      rw [Matcher.isCaseless_collapse, List.all_cons, Bool.and_eq_true] at h
      rw [Matcher.isCaseless_collapse]
      exact h.2

/-! # Simple selectors in either case -/

/-- What is read on one side without an id or a regular expression is read on the other side too,
and the texts that are left are alike. -/
def Echoes (report report' : Report (Matcher × Text)) : Prop :=
  forall test left, report.result = .ok (test, left) -> test.isCaseless = true ->
    exists left', Alike left left' ∧ report'.result = .ok (test, left')

def ReadsAlike (inner inner' : Text -> Report Matcher) : Prop :=
  forall first second matcher, Alike first second -> (inner first).result = .ok matcher ->
    matcher.isCaseless = true -> (inner' second).result = .ok matcher

theorem exists_of_alike_cons {c : Char} {rest second : Text} (h : Alike (c :: rest) second) :
    exists d rest', second = d :: rest' ∧ d.toLower = c.toLower ∧ Alike rest rest' := by
  cases second with
  | nil => cases h
  | cons d rest' =>
      rcases List.cons.inj h with ⟨hletter, hrest⟩
      exact ⟨d, rest', rfl, hletter.symm, hrest⟩

section Reading

variable {inner inner' : Text -> Report Matcher} {query query' rest rest' : Text}

theorem classTest_echoes (h : Alike rest rest') :
    Echoes (.ofExcept (classTest query rest)) (.ofExcept (classTest query' rest')) := by
  intro test left hread _
  have hblind : IsBlind isNameChar := isBlind_of_capitals (by decide +kernel)
  rcases alike_of_foldBoth (run_foldAscii hblind) h with ⟨hname, hleft⟩
  simp only [Report.ofExcept, classTest] at hread ⊢
  rw [← hname.isEmpty_eq, ← hname.congr lower_foldAscii]
  split at hread
  · cases hread
  · rename_i hne
    cases hread
    exact ⟨_, hleft, by rw [if_neg hne]⟩

theorem tagName_foldAscii (raw : Text) :
    lower ((trim (foldAscii raw)).map (fun c => if c = '|' then ':' else c)) =
      lower ((trim raw).map (fun c => if c = '|' then ':' else c)) := by
  have hcolon : forall c : Char,
      (if c.toLower = '|' then ':' else c.toLower) = (if c = '|' then ':' else c).toLower := by
    intro c
    have hbar : c.toLower = '|' ↔ c = '|' := IsMark.toLower_eq_iff (by decide)
    simp only [hbar]
    split <;> rfl
  have hmap : forall text : Text, (foldAscii text).map (fun c => if c = '|' then ':' else c) =
      foldAscii (text.map (fun c => if c = '|' then ':' else c)) := by
    intro text
    simp only [foldAscii, List.map_map]
    exact List.map_congr_left fun c _ => hcolon c
  rw [trim_foldAscii, hmap, lower_foldAscii]

theorem tagTest_echoes (h : Alike rest rest') :
    Echoes (.ofExcept (tagTest query rest)) (.ofExcept (tagTest query' rest')) := by
  intro test left hread _
  have hblind : IsBlind isTagChar := isBlind_of_capitals (by decide +kernel)
  rcases alike_of_foldBoth (run_foldAscii hblind) h with ⟨hname, hleft⟩
  have hsame := Alike.congr (f := fun raw =>
    lower ((trim raw).map (fun c => if c = '|' then ':' else c))) tagName_foldAscii hname
  simp only [Report.ofExcept, tagTest] at hread ⊢
  simp only [← hsame]
  split at hread
  · cases hread
  · rename_i hne
    cases hread
    exact ⟨_, hleft, by rw [if_neg hne]⟩

/-! # Attributes in either case -/

theorem operatorTest_alike [Pattern.Engine]
    {key after after' : Text} (h : Alike after after') {test : AttributeTest}
    (hread : operatorTest query key after = .ok test) (hcaseless : test.isCaseless = true) :
    operatorTest query' key after' = .ok test := by
  have hstart : forall mark, startsWith mark after' = startsWith mark after :=
    fun mark => (h.congr (startsWith_foldAscii mark)).symm
  have hvalue : forall count, attributeValue (after'.drop count) = attributeValue (after.drop count) :=
    fun count => ((h.drop count).congr attributeValue_foldAscii).symm
  unfold operatorTest at hread ⊢
  simp only [hstart, hvalue]
  by_cases hmark : startsWith patternMark after
  · rw [if_pos hmark] at hread
    cases hpattern : compilePattern (after.drop patternMark.length) with
    | error error => simp [hpattern, bind, Except.bind] at hread
    | ok pattern =>
        simp only [hpattern, bind, Except.bind] at hread
        cases hread
        cases hcaseless
  · rw [if_neg hmark] at hread ⊢
    split at hread
    · cases hread
    · simp only at hread ⊢
      split at hread
      · cases hread
      · rename_i hne
        rw [if_neg hne]
        exact hread

theorem attributeTest_alike [Pattern.Engine]
    {clause clause' : Text} (h : Alike clause clause') {test : AttributeTest}
    (hread : attributeTest query rest clause = .ok test) (hcaseless : test.isCaseless = true) :
    attributeTest query' rest' clause' = .ok test := by
  rcases alike_of_foldBoth (upToAny_foldAscii attributeMarks) h with ⟨hname, hafter⟩
  have hskip := (skipWhitespace_alike hafter).2
  refine attributeTest_congr (hname.map trim_foldAscii).symm hskip.isEmpty_eq.symm ?_ hread
  exact fun key hkey => operatorTest_alike hskip hkey hcaseless

theorem bracketTest_echoes [Pattern.Engine] (h : Alike rest rest') :
    Echoes
      (do
        let test ← Report.ofExcept
          (attributeTest query (balanced '[' ']' rest).2 (balanced '[' ']' rest).1)
        pure (.attribute test, (balanced '[' ']' rest).2))
      (do
        let test ← Report.ofExcept
          (attributeTest query' (balanced '[' ']' rest').2 (balanced '[' ']' rest').1)
        pure (.attribute test, (balanced '[' ']' rest').2)) := by
  intro test left hread hcaseless
  rcases alike_of_foldBoth (balanced_foldAscii .brackets) h with ⟨hclause, hleft⟩
  rcases Report.result_bind_eq_ok.mp hread with ⟨found, hfound, hpair⟩
  cases hpair
  exact ⟨_, hleft, Report.result_bind_eq_ok.mpr
    ⟨found, attributeTest_alike hclause hfound hcaseless, rfl⟩⟩

/-! # Pseudo-classes in either case -/

theorem indexTest_echoes (comparison : IndexComparison) (h : Alike rest rest') :
    Echoes (indexTest query comparison rest) (indexTest query' comparison rest') := by
  intro test left hread _
  have hmark : IsMark ')' := by decide
  rcases alike_of_foldBoth (past_foldAscii hmark) h with ⟨hraw, hleft⟩
  have hvalue : Text.readInt32? (Text.trim (past ")" rest).1) =
      Text.readInt32? (Text.trim (past ")" rest').1) :=
    (hraw.map trim_foldAscii).congr readInt32?_foldAscii
  unfold indexTest at hread ⊢
  simp only at hread ⊢
  rw [← hvalue]
  split at hread
  · cases hread
  · cases hread
    exact ⟨(past ")" rest').2, hleft, rfl⟩

theorem nested_echoes (hinner : ReadsAlike inner inner') (wrap : Matcher -> Matcher)
    (hwrap : forall test, (wrap test).isCaseless = test.isCaseless) {argument argument' : Text}
    (hargument : Alike argument argument') {left left' : Text} (hleft : Alike left left')
    {error error' : ParseError} :
    Echoes
      (if (trim argument).isEmpty then .fail error
        else do
          let test ← inner argument
          pure (wrap test, left))
      (if (trim argument').isEmpty then .fail error'
        else do
          let test ← inner' argument'
          pure (wrap test, left')) := by
  intro test after hread hcaseless
  rcases Report.result_argument_eq_ok.mp hread with ⟨hblank, matcher, hmatcher, hpair⟩
  cases hpair
  rw [hwrap] at hcaseless
  rw [(hargument.map trim_foldAscii).isEmpty_eq] at hblank
  exact ⟨left', hleft, Report.result_argument_eq_ok.mpr
    ⟨hblank, matcher, hinner _ _ _ hargument hmatcher hcaseless, rfl⟩⟩

theorem fail_echoes {error : ParseError} {report : Report (Matcher × Text)} :
    Echoes (.fail error) report := by
  intro test left hread _
  cases hread

theorem pseudoTest_echoes [Pattern.Engine] (hinner : ReadsAlike inner inner') (pseudo : PseudoClass)
    (hstart : startsWith (pseudo.name ++ "(") rest = true) (h : Alike rest rest') :
    Echoes (pseudoTest inner query pseudo rest) (pseudoTest inner' query' pseudo rest') := by
  have hstart' : startsWith (pseudo.name ++ "(") rest' = true := by
    rw [← h.congr (startsWith_foldAscii _)]
    exact hstart
  have hafter := h.drop pseudo.name.length
  rcases alike_of_foldBoth (balanced_foldAscii .parentheses) hafter with ⟨hargument, hleft⟩
  simp only [pseudoTest, argumentOf_eq hstart, argumentOf_eq hstart', Report.pure_bind]
  cases pseudo with
  | index comparison =>
      have htail : Alike (rest.drop (PseudoClass.name (.index comparison)).length).tail
          (rest'.drop (PseudoClass.name (.index comparison)).length).tail := by
        rw [← List.drop_one, ← List.drop_one]
        exact hafter.drop 1
      exact indexTest_echoes comparison htail
  | has => exact nested_echoes hinner .has (fun _ => rfl) hargument hleft
  | not => exact nested_echoes hinner .not (fun _ => rfl) hargument hleft
  | contains =>
      have hneedle := hargument.map unescape_foldAscii
      simp only
      rw [← hneedle.isEmpty_eq, ← hneedle.congr lower_foldAscii]
      split
      · exact fail_echoes
      · intro test left hread _
        cases hread
        exact ⟨_, hleft, rfl⟩
  | matchesPattern =>
      simp only
      split
      · exact fail_echoes
      · intro test left hread hcaseless
        rcases Report.result_bind_eq_ok.mp hread with ⟨pattern, _, hpair⟩
        cases hpair
        cases hcaseless

theorem find?_foldAscii (rest : Text) :
    PseudoClass.find? (foldAscii rest) = PseudoClass.find? rest := by
  simp only [PseudoClass.find?, startsWith_foldAscii]

theorem simpleTest_echoes [Pattern.Engine]
    (hinner : ReadsAlike inner inner') (h : Alike rest rest') :
    Echoes (simpleTest inner query rest) (simpleTest inner' query' rest') := by
  cases rest with
  | nil => exact fail_echoes
  | cons c after =>
      rcases exists_of_alike_cons h with ⟨d, after', rfl, hletter, hafter⟩
      have hmark : forall {mark : Char}, IsMark mark -> (d = mark ↔ c = mark) := by
        intro mark hmark
        rw [← hmark.toLower_eq_iff, hletter, hmark.toLower_eq_iff]
      have halphanumeric : isAlphanumeric d = isAlphanumeric c := by
        rw [← isBlind_isAlphanumeric, hletter, isBlind_isAlphanumeric]
      have hhash : d = '#' ↔ c = '#' := hmark (by decide)
      have hdot : d = '.' ↔ c = '.' := hmark (by decide)
      have hbracket : d = '[' ↔ c = '[' := hmark (by decide)
      have hstar : d = '*' ↔ c = '*' := hmark (by decide)
      unfold simpleTest
      simp only [hhash, hdot, hbracket, hstar, halphanumeric, ← h.congr find?_foldAscii]
      split
      · intro test left hread hcaseless
        rcases exists_of_run id .id hread with ⟨name, _, _, _, rfl⟩
        cases hcaseless
      · split
        · exact classTest_echoes hafter
        · split
          · exact tagTest_echoes h
          · split
            · exact bracketTest_echoes h
            · split
              · intro test left hread _
                cases hread
                exact ⟨after', hafter, rfl⟩
              · cases hfind : PseudoClass.find? (c :: after) with
                | none => exact fail_echoes
                | some pseudo =>
                    have hstart := PseudoClass.startsWith_of_find? hfind
                    exact pseudoTest_echoes hinner pseudo hstart h

/-! # Steps in either case -/

theorem ofMark?_alike (h : Alike rest rest') :
    Combinator.ofMark? (peek rest') = Combinator.ofMark? (peek rest) := by
  have hblind : IsBlind Combinator.ofMark? := isBlind_of_capitals (by decide)
  apply Eq.symm
  apply h.congr
  intro text
  rw [toLower_peek, hblind]

theorem relate_alike (hinner : ReadsAlike inner inner') {combinator : Combinator}
    {parts : List Matcher} {next : Progress} (h : Alike rest rest')
    (hread : (relate inner combinator parts rest).result = .ok next)
    (hcaseless : (collapse next.parts).isCaseless = true) :
    exists left', Alike next.rest left' ∧
      (relate inner' combinator parts rest').result = .ok ⟨next.parts, left'⟩ := by
  have hskip := (skipWhitespace_alike h).2
  rcases alike_of_foldBoth subSelector_foldAscii hskip with ⟨htext, hleft⟩
  rcases exists_of_relate hread with ⟨right, hright, rfl⟩
  rw [collapse, Combinator.isCaseless_attach, Bool.and_eq_true] at hcaseless
  exact ⟨_, hleft, Report.result_bind_eq_ok.mpr
    ⟨right, hinner _ _ _ htext hright hcaseless.2, rfl⟩⟩

theorem simple_alike [Pattern.Engine]
    (hinner : ReadsAlike inner inner') {parts : List Matcher} {next : Progress}
    (h : Alike rest rest')
    (hread : (do
      let (test, left) ← simpleTest inner query rest
      pure (⟨test :: parts, left⟩ : Progress) : Report Progress).result = .ok next)
    (hcaseless : (collapse next.parts).isCaseless = true) :
    exists left', Alike next.rest left' ∧
      (do
        let (test, left) ← simpleTest inner' query' rest'
        pure (⟨test :: parts, left⟩ : Progress) : Report Progress).result =
          .ok ⟨next.parts, left'⟩ := by
  rcases Report.result_bind_eq_ok.mp hread with ⟨⟨test, left⟩, htest, hnext⟩
  cases hnext
  rw [Matcher.isCaseless_collapse, List.all_cons, Bool.and_eq_true] at hcaseless
  rcases simpleTest_echoes hinner h test left htest hcaseless.1 with ⟨left', hleft, htest'⟩
  exact ⟨left', hleft, Report.result_bind_eq_ok.mpr ⟨(test, left'), htest', rfl⟩⟩

theorem step_alike [Pattern.Engine]
    (hinner : ReadsAlike inner inner') {parts : List Matcher} {next : Progress}
    (h : Alike rest rest') (hread : (step inner query ⟨parts, rest⟩).result = .ok next)
    (hcaseless : (collapse next.parts).isCaseless = true) :
    exists left', Alike next.rest left' ∧
      (step inner' query' ⟨parts, rest'⟩).result = .ok ⟨next.parts, left'⟩ := by
  rcases skipWhitespace_alike h with ⟨hspaced, hskip⟩
  rw [step_eq] at hread ⊢
  simp only [hspaced, ofMark?_alike hskip] at hread ⊢
  split at hread
  · rw [← List.drop_one] at hread ⊢
    exact relate_alike hinner (hskip.drop 1) hread hcaseless
  · split at hread
    · rename_i hspace
      rw [if_pos hspace]
      exact relate_alike hinner hskip hread hcaseless
    · rename_i hspace
      rw [if_neg hspace]
      exact simple_alike hinner hskip hread hcaseless

theorem start_alike [Pattern.Engine]
    (hinner : ReadsAlike inner inner') {next : Progress} (h : Alike query query')
    (hread : (start inner query).result = .ok next)
    (hcaseless : (collapse next.parts).isCaseless = true) :
    exists left', Alike next.rest left' ∧
      (start inner' query').result = .ok ⟨next.parts, left'⟩ := by
  have hskip := (skipWhitespace_alike h).2
  rw [start_eq] at hread ⊢
  simp only [ofMark?_alike hskip] at hread ⊢
  split at hread
  · rw [← List.drop_one] at hread ⊢
    exact relate_alike hinner (hskip.drop 1) hread hcaseless
  · exact simple_alike hinner hskip hread hcaseless

theorem parseWith_alike [Pattern.Engine] (hinner : ReadsAlike inner inner') : ReadsAlike
    (fun text => parseWith inner (trim text)) (fun text => parseWith inner' (trim text)) := by
  intro first second matcher h hread hcaseless
  have htrim := h.map trim_foldAscii
  rcases Report.result_bind_eq_ok.mp hread with ⟨progress, hstart, hfollow⟩
  have hback : HandsBack inner (trim first) (fun matcher => matcher.isCaseless = true) :=
    handsBack_isCaseless
  rcases start_alike hinner htrim hstart (hback.keeps_parts hfollow hcaseless) with
    ⟨left', hleft, hstart'⟩
  refine Report.result_bind_eq_ok.mpr ⟨⟨progress.parts, left'⟩, hstart', ?_⟩
  refine hback.simulation (fun progress rest' => Alike progress.rest rest') ?_ ?_
    (Nat.le_of_eq htrim.length_eq) hleft hcaseless hfollow
  · intro parts rest' hrest
    exact List.isEmpty_iff.mp hrest.isEmpty_eq.symm
  · intro progress rest' next _ hrest hstep hkeeps
    exact step_alike hinner hrest hstep hkeeps

end Reading

theorem parseWithin_alike [Pattern.Engine]
    (levels : Nat) : ReadsAlike (parseWithin levels) (parseWithin levels) := by
  induction levels with
  | zero =>
      intro first second matcher h hread hcaseless
      have hinner : ReadsAlike
          (fun sub => .fail (.nestingTooDeep maxNesting (trim first) sub))
          (fun sub => .fail (.nestingTooDeep maxNesting (trim second) sub)) := by
        intro _ _ _ _ hfail
        cases hfail
      exact parseWith_alike hinner first second matcher h hread hcaseless
  | succ levels ih => exact parseWith_alike ih

/-- A text that differs in the case of the letters `A` to `Z` alone is read as the same matcher,
unless the matcher has an id or a regular expression in it. -/
theorem parse_alike [Pattern.Engine]
    {first second : Text} {matcher : Matcher} (h : Alike first second)
    (hread : (parse first).result = .ok matcher) (hcaseless : matcher.isCaseless = true) :
    (parse second).result = .ok matcher :=
  parseWithin_alike maxNesting first second matcher h hread hcaseless

def mixedText : Text :=
  ".AΣ[Key='Big']>:Not(:EQ(3))"

def mixedMatcher : Matcher :=
  .all [.not (.index .equal 3),
    .parent (.all [.className "aς", .attribute (.compare .equals "key" "big")])]

theorem parse_alike_mixedText :
    Alike mixedText ".aΣ[kEY='bIG']>:nOT(:eq(3))" ∧
      (parse mixedText).result = .ok mixedMatcher ∧ mixedMatcher.isCaseless = true ∧
        (parse ".aΣ[kEY='bIG']>:nOT(:eq(3))").result = .ok mixedMatcher := by
  have halike : Alike mixedText ".aΣ[kEY='bIG']>:nOT(:eq(3))" := by decide
  have hread : (parse mixedText).result = .ok mixedMatcher := by rfl
  have hcaseless : mixedMatcher.isCaseless = true := by decide
  exact ⟨halike, hread, hcaseless, parse_alike halike hread hcaseless⟩

end Selector
end TreeQuery
