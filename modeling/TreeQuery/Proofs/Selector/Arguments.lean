import TreeQuery.Proofs.Selector.Levels
import TreeQuery.Proofs.Selector.RoundTrip
import TreeQuery.Proofs.Selector.Steps

/-!
# Selectors as arguments

A selector that stands in the parentheses of `:has` or `:not` is cut out by counting parentheses
alone.  Where the count agrees with the selector it is read as it is by itself, one level below.
-/

namespace TreeQuery
namespace Selector

open Scan

inductive Nests : PseudoClass -> (Matcher -> Matcher) -> Prop where
  | has : Nests .has .has
  | not : Nests .not .not

def PseudoClass.enclose (pseudo : PseudoClass) (text : Text) : Text :=
  pseudo.name ++ '(' :: (text ++ [')'])

theorem Nests.injective {pseudo : PseudoClass} {wrap : Matcher -> Matcher}
    (nests : Nests pseudo wrap) {first second : Matcher} (h : wrap first = wrap second) :
    first = second := by
  cases nests with
  | has => exact Matcher.has.inj h
  | not => exact Matcher.not.inj h

/-! # Reading the argument -/

section Reading

variable [Pattern.Engine] {inner : Text -> Report Matcher} {query text argument left : Text}
  {pseudo : PseudoClass} {wrap : Matcher -> Matcher}

theorem simpleTest_nests (nests : Nests pseudo wrap)
    (hgroup : balanced '(' ')' ('(' :: text) = (argument, left)) {next : Matcher × Text} :
    (simpleTest inner query (pseudo.name ++ '(' :: text)).result = .ok next ↔
      Text.trim argument ≠ [] ∧ exists matcher, (inner argument).result = .ok matcher ∧
        next = (wrap matcher, left) := by
  have hpseudo : simpleTest inner query (pseudo.name ++ '(' :: text) =
      if (Text.trim argument).isEmpty then
        .fail (.emptyArgument pseudo.name query (pseudo.name ++ '(' :: text))
      else (do
        let test ← inner argument
        pure (wrap test, left)) := by
    rw [simpleTest_pseudo]
    cases nests with
    | has => simp only [pseudoTest, argumentOf_name, Report.pure_bind, hgroup]
    | not => simp only [pseudoTest, argumentOf_name, Report.pure_bind, hgroup]
  rw [hpseudo, Report.result_argument_eq_ok, List.isEmpty_eq_false_iff]

theorem start_enclose (pseudo : PseudoClass) (text : Text) :
    start inner (pseudo.enclose text) = (do
      let (test, left) ← simpleTest inner (pseudo.enclose text) (pseudo.enclose text)
      pure ⟨[test], left⟩) := by
  have hname : exists more, pseudo.enclose text = ':' :: more := by
    cases pseudo <;> exact ⟨_, rfl⟩
  rcases hname with ⟨more, hname⟩
  have hcolon : isSeparator ':' = false := by decide +kernel
  have hmark : Combinator.ofMark? (peek (':' :: more)) = none := rfl
  rw [hname, start_eq]
  simp only [skipWhitespace_of_not_separator hcolon, hmark]

theorem parseWith_enclose (nests : Nests pseudo wrap)
    (hgroup : balanced '(' ')' ('(' :: (text ++ [')'])) = (argument, left)) {result : Matcher} :
    (parseWith inner (pseudo.enclose text)).result = .ok result ↔
      Text.trim argument ≠ [] ∧ exists matcher, (inner argument).result = .ok matcher ∧
        (follow inner (pseudo.enclose text) (pseudo.enclose text).length
          ⟨[wrap matcher], left⟩).result = .ok result := by
  unfold parseWith
  rw [start_enclose, Report.result_bind_eq_ok]
  constructor
  · rintro ⟨progress, hstart, hfollow⟩
    rcases Report.result_bind_eq_ok.mp hstart with ⟨next, htest, hnext⟩
    rcases (simpleTest_nests nests hgroup).mp htest with ⟨hargument, matcher, hmatcher, rfl⟩
    cases hnext
    exact ⟨hargument, matcher, hmatcher, hfollow⟩
  · rintro ⟨hargument, matcher, hmatcher, hfollow⟩
    refine ⟨⟨[wrap matcher], left⟩, ?_, hfollow⟩
    exact Report.result_bind_eq_ok.mpr
      ⟨(wrap matcher, left), (simpleTest_nests nests hgroup).mpr ⟨hargument, matcher, hmatcher, rfl⟩,
        rfl⟩

/-! # More than the argument -/

def IsJoined (matcher : Matcher) : Prop :=
  exists tests, matcher = .all tests ∨ matcher = .any tests

omit [Pattern.Engine] in
theorem Nests.not_joined (nests : Nests pseudo wrap) (matcher : Matcher) :
    ¬IsJoined (wrap matcher) := by
  rintro ⟨tests, hjoined⟩
  cases nests with
  | has => rcases hjoined with hjoined | hjoined <;> cases hjoined
  | not => rcases hjoined with hjoined | hjoined <;> cases hjoined

omit [Pattern.Engine] in
theorem joined_attach (combinator : Combinator) (left right : Matcher) :
    IsJoined (combinator.attach left right) := by
  unfold Combinator.attach
  split
  · exact ⟨_, Or.inr rfl⟩
  · exact ⟨_, Or.inr rfl⟩
  · cases combinator with
    | group => exact ⟨_, Or.inr rfl⟩
    | child => exact ⟨_, Or.inl rfl⟩
    | descendant => exact ⟨_, Or.inl rfl⟩
    | nextSibling => exact ⟨_, Or.inl rfl⟩
    | subsequentSibling => exact ⟨_, Or.inl rfl⟩

theorem Advances.joined {before : Matcher} {parts : List Matcher} {rest : Text}
    (hparts : parts ≠ []) {next : Progress} (advances : Advances inner query before parts rest next) :
    next.parts ≠ [] ∧ IsJoined (collapse next.parts) := by
  cases advances with
  | related => exact ⟨List.cons_ne_nil _ _, joined_attach _ _ _⟩
  | simple =>
      refine ⟨List.cons_ne_nil _ _, ?_⟩
      cases parts with
      | nil => exact absurd rfl hparts
      | cons part parts => exact ⟨_, Or.inl rfl⟩

theorem joined_of_follow {fuel : Nat} {first result : Matcher} (hleft : left ≠ [])
    (h : (follow inner query fuel ⟨[first], left⟩).result = .ok result) : IsJoined result := by
  have hend := follow_of_invariant
    (fun progress => progress = ⟨[first], left⟩ ∨
      progress.parts ≠ [] ∧ IsJoined (collapse progress.parts))
    (fun progress next holds _ advances => by
      have hparts : progress.parts ≠ [] := by
        rcases holds with rfl | ⟨hparts, _⟩
        · exact List.cons_ne_nil first []
        · exact hparts
      exact Or.inr (advances.joined hparts))
    (Or.inl rfl) h
  rcases hend with ⟨parts, hsame | ⟨_, hjoined⟩, rfl⟩
  · cases hsame
    exact absurd rfl hleft
  · exact hjoined

theorem parseWith_enclose_whole (nests : Nests pseudo wrap)
    (hgroup : balanced '(' ')' ('(' :: (text ++ [')'])) = (argument, [])) {matcher : Matcher} :
    (parseWith inner (pseudo.enclose text)).result = .ok (wrap matcher) ↔
      Text.trim argument ≠ [] ∧ (inner argument).result = .ok matcher := by
  have hfollow : forall test fuel,
      (follow inner (pseudo.enclose text) fuel ⟨[test], []⟩).result = .ok test :=
    fun test fuel => finishes_end [test] fuel (Nat.zero_le fuel)
  rw [parseWith_enclose nests hgroup]
  constructor
  · rintro ⟨hargument, read, hread, hend⟩
    rw [hfollow, Except.ok.injEq] at hend
    rw [← nests.injective hend]
    exact ⟨hargument, hread⟩
  · rintro ⟨hargument, hread⟩
    exact ⟨hargument, matcher, hread, hfollow _ _⟩

theorem parseWith_enclose_part (nests : Nests pseudo wrap)
    (hgroup : balanced '(' ')' ('(' :: (text ++ [')'])) = (argument, left)) (hleft : left ≠ [])
    (matcher : Matcher) :
    (parseWith inner (pseudo.enclose text)).result ≠ .ok (wrap matcher) := by
  intro h
  rcases (parseWith_enclose nests hgroup).mp h with ⟨_, read, _, hend⟩
  exact nests.not_joined matcher (joined_of_follow hleft hend)

end Reading

/-! # Whole selectors -/

theorem PseudoClass.tight_enclose (pseudo : PseudoClass) (text : Text) :
    Text.Tight (pseudo.enclose text) := by
  have hne : pseudo.name ≠ [] := by
    cases pseudo <;> exact List.cons_ne_nil _ _
  have hname : Text.Tight pseudo.name := (solid_of_plain hne pseudo.plain_name).tight
  exact hname.surround ('(' :: text) (Text.tight_char (by decide +kernel))

theorem not_blank_of_parseWithin [Pattern.Engine] {levels : Nat} {text : Text} {matcher : Matcher}
    (h : (parseWithin levels text).result = .ok matcher) : Text.trim text ≠ [] := by
  intro hblank
  cases levels with
  | zero =>
      unfold parseWithin at h
      rw [hblank] at h
      cases h
  | succ levels =>
      unfold parseWithin at h
      rw [hblank] at h
      cases h

theorem parse_enclose [Pattern.Engine] (pseudo : PseudoClass) (text : Text) :
    parse (pseudo.enclose text) =
      parseWith (parseWithin (maxNesting - 1)) (pseudo.enclose text) := by
  show parseWith (parseWithin (maxNesting - 1)) (Text.trim (pseudo.enclose text)) = _
  rw [Text.trim_of_tight (pseudo.tight_enclose text)]

/-! # Which argument is read -/

/-- Every closing parenthesis closes one that was opened, none stays open, and the escape mark does
not come last.  Parentheses right after the escape mark do not count. -/
def SelfContained (text : Text) : Prop :=
  stillOpen '(' ')' 0 '(' text = some 0 ∧ text.getLast? ≠ some escapeMark

instance (text : Text) : Decidable (SelfContained text) :=
  inferInstanceAs (Decidable (_ ∧ _))

theorem getLastD_eq_escapeMark_iff {text : Text} :
    text.getLastD '(' = escapeMark ↔ text.getLast? = some escapeMark := by
  rw [List.getLastD_eq_getLast?]
  cases text.getLast? with
  | none => decide
  | some c => simp

section Whole

variable {text : Text} {pseudo : PseudoClass} {wrap : Matcher -> Matcher} {matcher : Matcher}

theorem balanced_selfContained (hmarked : endMark ∉ text) (h : SelfContained text) (rest : Text) :
    balanced '(' ')' ('(' :: (text ++ ')' :: rest)) = (text, rest) :=
  balanced_of_closed .parentheses h.1 hmarked
    (fun hlast => h.2 (getLastD_eq_escapeMark_iff.mp hlast)) rest

theorem unclosed_of_not_selfContained {left : Nat} (h : ¬SelfContained text)
    (hleft : stillOpen '(' ')' 0 '(' text = some left) :
    0 < left ∨ text.getLastD '(' = escapeMark := by
  cases left with
  | zero =>
      refine Or.inr (getLastD_eq_escapeMark_iff.mpr ?_)
      exact Classical.not_not.mp fun hlast => h ⟨hleft, hlast⟩
  | succ left => exact Or.inl (Nat.succ_pos left)

theorem parse_enclose_selfContained [Pattern.Engine]
    (nests : Nests pseudo wrap) (hmarked : endMark ∉ text)
    (h : SelfContained text) :
    (parse (pseudo.enclose text)).result = .ok (wrap matcher) ↔
      (parseWithin (maxNesting - 1) text).result = .ok matcher := by
  rw [parse_enclose, parseWith_enclose_whole nests (balanced_selfContained hmarked h [])]
  exact and_iff_right_of_imp not_blank_of_parseWithin

/-- The closing parenthesis is read as part of the argument. -/
theorem parse_enclose_unclosed [Pattern.Engine]
    (nests : Nests pseudo wrap) (hmarked : endMark ∉ text)
    (h : ¬SelfContained text) (hopen : stillOpen '(' ')' 0 '(' text ≠ none) :
    (parse (pseudo.enclose text)).result = .ok (wrap matcher) ↔
      (parseWithin (maxNesting - 1) (text ++ [')'])).result = .ok matcher := by
  rcases Option.ne_none_iff_exists'.mp hopen with ⟨left, hleft⟩
  have hgroup := balanced_of_unclosed .parentheses hleft hmarked
    (unclosed_of_not_selfContained h hleft)
  rw [parse_enclose, parseWith_enclose_whole nests hgroup]
  exact and_iff_right_of_imp not_blank_of_parseWithin

/-- The argument ends within the text, and what is left of the text is more than the argument. -/
theorem parse_enclose_overclosed [Pattern.Engine]
    (nests : Nests pseudo wrap) (hmarked : endMark ∉ text)
    (h : stillOpen '(' ')' 0 '(' text = none) :
    (parse (pseudo.enclose text)).result ≠ .ok (wrap matcher) := by
  rcases exists_of_closed .parentheses h hmarked with ⟨inside, left, rfl, hinside⟩
  have hgroup : balanced '(' ')' ('(' :: ((inside ++ ')' :: left) ++ [')'])) =
      (inside, left ++ [')']) := by
    rw [List.append_assoc]
    exact hinside (left ++ [')'])
  rw [parse_enclose]
  exact parseWith_enclose_part nests hgroup (by simp) matcher

end Whole

end Selector
end TreeQuery
