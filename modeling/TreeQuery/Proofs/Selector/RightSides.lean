import Mathlib.Data.List.Find
import TreeQuery.Pattern.Search
import TreeQuery.Proofs.Selector.Arguments

/-!
# Compounds on the right of a combinator

A compound that comes first is read where it stands.  Behind a combinator it is cut out before it
is read, and a group that was left open at its end gets a closing delimiter.  That makes no
difference if the delimiter closes the group, and otherwise it is read as part of the group.
-/

namespace TreeQuery
namespace Selector

open Scan Grammar

/-! # Texts that a delimiter closes -/

/-- The last group of the text is open, and it is the same group when the closing delimiter is
added. -/
inductive Closable (closing : Char) : Text -> Prop where
  | last {opening : Char} {text : Text} : Pair opening closing ->
      balanced opening closing (opening :: text) = (text, []) ->
      balanced opening closing (opening :: (text ++ [closing])) = (text, []) ->
      Closable closing (opening :: text)
  | group {opening other : Char} {inside left : Text} : Pair opening other ->
      (forall rest, balanced opening other (opening :: (inside ++ other :: rest)) = (inside, rest)) ->
      Closable closing left -> Closable closing (opening :: (inside ++ other :: left))
  | joins {c : Char} {rest : Text} : Joins c -> Closable closing rest -> Closable closing (c :: rest)

/-- The second text is the first one with the delimiter that closes it, or both are at their
end. -/
def Completed (closing : Char) (text completed : Text) : Prop :=
  Closable closing text ∧ completed = text ++ [closing] ∨ text = [] ∧ completed = []

/-- What is cut out for the right side of a combinator does not change when it is cut out again. -/
def Settled (text : Text) : Prop :=
  (subSelector (subSelector text).1).1 = (subSelector text).1

instance (text : Text) : Decidable (Settled text) :=
  inferInstanceAs (Decidable (_ = _))

section Closing

variable {closing : Char} {text : Text}

theorem Pair.not_joins {opening other : Char} (pair : Pair opening other) : ¬Joins opening := by
  intro joins
  cases pair with
  | parentheses => exact joins.parenthesis rfl
  | brackets => exact joins.bracket rfl

theorem Pair.closing_unique {opening closing other : Char} (first : Pair opening closing)
    (second : Pair opening other) : closing = other := by
  cases first <;> cases second <;> rfl

theorem Closable.exists_pair (h : Closable closing text) : exists opening, Pair opening closing := by
  induction h with
  | last pair => exact ⟨_, pair⟩
  | group _ _ _ ih => exact ih
  | joins _ _ ih => exact ih

theorem Closable.ne_nil (h : Closable closing text) : text ≠ [] := by
  cases h <;> exact List.cons_ne_nil _ _

theorem Closable.exists_cons (h : Closable closing text) :
    exists c rest, text = c :: rest ∧ isSeparator c = false := by
  have hopening : forall {opening other}, Pair opening other -> isSeparator opening = false := by
    intro opening other pair
    cases pair <;> decide
  cases h with
  | last pair => exact ⟨_, _, rfl, hopening pair⟩
  | group pair => exact ⟨_, _, rfl, hopening pair⟩
  | joins joins => exact ⟨_, _, rfl, joins.separator⟩

theorem Closable.of_joins {c : Char} {rest : Text} (hc : Joins c) (h : Closable closing (c :: rest)) :
    Closable closing rest := by
  cases h with
  | last pair => exact absurd hc pair.not_joins
  | group pair => exact absurd hc pair.not_joins
  | joins _ hrest => exact hrest

theorem Closable.of_append {before : Text} (hbefore : forall c, c ∈ before -> Joins c)
    (h : Closable closing (before ++ text)) : Closable closing text := by
  induction before with
  | nil => exact h
  | cons c before ih =>
      exact ih (fun d hd => hbefore d (List.mem_cons_of_mem _ hd))
        (h.of_joins (hbefore c List.mem_cons_self))

theorem Closable.balanced_concat {opening other : Char} (pair : Pair opening other)
    (h : Closable closing (opening :: text)) :
    exists left', Completed closing (balanced opening other (opening :: text)).2 left' ∧
      balanced opening other (opening :: (text ++ [closing])) =
        ((balanced opening other (opening :: text)).1, left') := by
  cases h with
  | last first hopen hclosed =>
      cases first.closing_unique pair
      rw [hopen]
      exact ⟨[], Or.inr ⟨rfl, rfl⟩, hclosed⟩
  | @group _ second inside left first hinside hleft =>
      cases first.closing_unique pair
      rw [hinside]
      refine ⟨left ++ [closing], Or.inl ⟨hleft, rfl⟩, ?_⟩
      rw [List.append_assoc, List.cons_append, hinside]
  | joins hopening => exact absurd hopening pair.not_joins

theorem Closable.run_concat {test : Char -> Bool} (htest : forall c, test c = true -> Joins c)
    (h : Closable closing text) :
    Closable closing (run test text).2 ∧
      run test (text ++ [closing]) = ((run test text).1, (run test text).2 ++ [closing]) := by
  have hstops : forall {c : Char} {rest : Text}, test c = false ->
      Closable closing (c :: rest) ->
      Closable closing (run test (c :: rest)).2 ∧
        run test (c :: rest ++ [closing]) =
          ((run test (c :: rest)).1, (run test (c :: rest)).2 ++ [closing]) := by
    intro c rest hc hclosable
    have hrun : forall more, run test (c :: more) = ([], c :: more) := by
      intro more
      exact Prod.ext (List.takeWhile_cons_of_neg (by simp [hc]))
        (List.dropWhile_cons_of_neg (by simp [hc]))
    rw [List.cons_append, hrun, hrun]
    exact ⟨hclosable, rfl⟩
  have hopening : forall {opening other}, Pair opening other -> test opening = false :=
    fun pair => Bool.eq_false_iff.mpr fun htrue => pair.not_joins (htest _ htrue)
  induction h with
  | last pair hopen hclosed => exact hstops (hopening pair) (.last pair hopen hclosed)
  | group pair hinside hleft => exact hstops (hopening pair) (.group pair hinside hleft)
  | @joins c rest hc hrest ih =>
      cases htrue : test c with
      | false => exact hstops htrue (.joins hc hrest)
      | true =>
          rcases ih with ⟨hleft, hrun⟩
          simp only [run, List.cons_append, List.takeWhile_cons, List.dropWhile_cons, htrue,
            if_true, Prod.mk.injEq] at hrun ⊢
          exact ⟨hleft, by rw [hrun.1], hrun.2⟩

/-- A text without breaks is cut out as it is, or with a delimiter that does or does not close its
last group. -/
theorem subSelector_cases (hmarked : endMark ∉ text) (hunbroken : Unbroken text) :
    (subSelector text).1 = text ∨ exists closing, (subSelector text).1 = text ++ [closing] ∧
      (Closable closing text ∨ (subSelector (text ++ [closing])).1 ≠ text ++ [closing]) := by
  induction text using cut_induction with
  | ends text hends =>
      cases text with
      | nil => exact Or.inl rfl
      | cons c rest =>
          have hseparator := hends c rfl
          rw [hunbroken.not_separator] at hseparator
          cases hseparator
  | group opening closing rest pair ih =>
      have hrest : endMark ∉ rest := fun hmem => hmarked (List.mem_cons_of_mem _ hmem)
      have hnothing : subSelector [] = ([], []) := rfl
      cases hopen : stillOpen opening closing 0 opening rest with
      | none =>
          rcases exists_of_closed pair hopen hrest with ⟨inside, left, rfl, hinside⟩
          have hleft : Unbroken left := by
            have hgroup := (unbroken_group pair).mp hunbroken
            rwa [hinside] at hgroup
          have hcut : forall more, (subSelector (opening :: (inside ++ closing :: more))).1 =
              opening :: (inside ++ closing :: (subSelector more).1) := by
            intro more
            rw [subSelector_group pair, hinside]
            rfl
          rw [hinside] at ih
          rw [hcut]
          rcases ih (fun hmem => hrest (by simp [hmem])) hleft with hsame | ⟨added, hadded, hcases⟩
          · exact Or.inl (by rw [hsame])
          · refine Or.inr ⟨added, by rw [hadded]; simp, ?_⟩
            refine hcases.imp (Closable.group pair hinside) ?_
            intro hne hsame
            rw [List.cons_append, List.append_assoc, List.cons_append, hcut] at hsame
            exact hne (List.cons.inj (List.append_cancel_left (List.cons.inj hsame).2)).2
      | some depth =>
          have hgroup := (balanced_of_open pair hopen hrest).1
          have hcut : (subSelector (opening :: rest)).1 = opening :: rest ++ [closing] := by
            rw [subSelector_group pair, hgroup, hnothing]
          refine Or.inr ⟨closing, hcut, ?_⟩
          by_cases hcloses : depth = 0 ∧ rest.getLastD opening ≠ escapeMark
          · rcases hcloses with ⟨rfl, hlast⟩
            exact Or.inl (.last pair hgroup (balanced_of_closed pair hopen hrest hlast []))
          · have hunclosed : 0 < depth ∨ rest.getLastD opening = escapeMark := by
              rcases Nat.eq_zero_or_pos depth with rfl | hpositive
              · exact Or.inr (Classical.not_not.mp fun hlast => hcloses ⟨rfl, hlast⟩)
              · exact Or.inl hpositive
            refine Or.inr fun hsame => ?_
            have hlength := congrArg List.length hsame
            rw [List.cons_append, subSelector_group pair,
              balanced_of_unclosed pair hopen hrest hunclosed, hnothing] at hlength
            simp at hlength
  | joins c rest hc ih =>
      have hrest : endMark ∉ rest := fun hmem => hmarked (List.mem_cons_of_mem _ hmem)
      have hcut : forall more, (subSelector (c :: more)).1 = c :: (subSelector more).1 := by
        intro more
        rw [subSelector_joins hc]
      rw [hcut]
      rcases ih hrest ((unbroken_joins hc).mp hunbroken) with hsame | ⟨added, hadded, hcases⟩
      · exact Or.inl (by rw [hsame])
      · refine Or.inr ⟨added, by rw [hadded]; rfl, ?_⟩
        refine hcases.imp (Closable.joins hc) ?_
        intro hne hsame
        rw [List.cons_append, hcut] at hsame
        exact hne (List.cons.inj hsame).2

theorem Settled.cases (hmarked : endMark ∉ text) (hunbroken : Unbroken text) (h : Settled text) :
    (subSelector text).1 = text ∨
      exists closing, (subSelector text).1 = text ++ [closing] ∧ Closable closing text := by
  refine (subSelector_cases hmarked hunbroken).imp_right ?_
  rintro ⟨closing, hcut, hclosable | hne⟩
  · exact ⟨closing, hcut, hclosable⟩
  · unfold Settled at h
    rw [hcut] at h
    exact absurd h hne

end Closing

/-! # Simple selectors in a completed text -/

section Reading

variable {inner : Text -> Report Matcher} {query query' rest left : Text} {test : Matcher}
  {closing : Char}

theorem Closable.completed (h : Closable closing left) : Completed closing left (left ++ [closing]) :=
  Or.inl ⟨h, rfl⟩

theorem nameChar_joins {c : Char} (h : isNameChar c = true) : Joins c :=
  (plain_of_tagChar (tagChar_of_nameChar h)).joins

theorem name_completed {check : Char -> Bool} (hcheck : forall c, check c = true -> Joins c)
    (shape : Text -> Text) (make : Text -> Matcher) {error error' : ParseError}
    (h : Closable closing rest)
    (hread : (if (shape (run check rest).1).isEmpty then Except.error error
      else .ok (make (shape (run check rest).1), (run check rest).2)) = .ok (test, left)) :
    exists left', Completed closing left left' ∧
      (if (shape (run check (rest ++ [closing])).1).isEmpty then Except.error error'
      else .ok (make (shape (run check (rest ++ [closing])).1),
        (run check (rest ++ [closing])).2)) = .ok (test, left') := by
  rcases h.run_concat hcheck with ⟨hleft, hrun⟩
  rw [hrun]
  split at hread
  · cases hread
  · rename_i hne
    cases hread
    exact ⟨_, hleft.completed, if_neg hne⟩

theorem tagTest_completed (h : Closable closing rest)
    (hread : tagTest query rest = .ok (test, left)) :
    exists left', Completed closing left left' ∧
      tagTest query' (rest ++ [closing]) = .ok (test, left') :=
  name_completed (fun _ hc => (plain_of_tagChar hc).joins)
    (fun raw => Text.lower ((Text.trim raw).map (fun c => if c = '|' then ':' else c))) .tag h hread

theorem indexTest_completed {comparison : IndexComparison} {text : Text}
    (h : Closable closing ('(' :: text))
    (hread : (indexTest query comparison text).result = .ok (test, left)) :
    exists left', Completed closing left left' ∧
      (indexTest query' comparison (text ++ [closing])).result = .ok (test, left') := by
  rcases hpast : past ")" text with ⟨raw, after⟩
  simp only [indexTest, hpast] at hread
  cases hvalue : Text.readInt32? (Text.trim raw) with
  | none => simp [hvalue] at hread
  | some value =>
      simp only [hvalue] at hread
      cases hread
      have hraw : forall c, c ∈ raw -> c ≠ ')' := by
        rintro c hc rfl
        have hdelimiter := (ordinary_of_readInt32? hvalue _ hc).2
        cases hdelimiter
      have hgroup := ((closed_of_readInt32? hvalue).neutral .parentheses).balanced .parentheses
      -- It is enough that the same number is found in front of what is left.
      suffices hfound : exists left', Completed closing left left' ∧
          past ")" (text ++ [closing]) = (raw, left') by
        rcases hfound with ⟨left', hleft, hpast⟩
        exact ⟨left', hleft, by simp only [indexTest, hpast, hvalue]⟩
      rcases past_parenthesis_cases hpast with rfl | ⟨rfl, rfl⟩
      · rcases h.balanced_concat .parentheses with ⟨left', hleft, hbalanced⟩
        rw [List.append_assoc, List.cons_append, hgroup, hgroup] at hbalanced
        rw [hgroup] at hleft
        rw [List.append_assoc, List.cons_append, past_parenthesis hraw]
        exact ⟨left', hleft, Prod.ext rfl (congrArg Prod.snd hbalanced)⟩
      · cases h with
        | last pair =>
            cases pair
            exact ⟨[], Or.inr ⟨rfl, rfl⟩, past_parenthesis hraw⟩
        | group pair =>
            cases pair
            exact absurd rfl (hraw ')' (by simp))
        | joins joins => exact absurd rfl joins.parenthesis

/-! # Pseudo-classes in a completed text -/

theorem startsWith_concat {mark : Text} {c : Char}
    (h : forall d, d ∈ mark -> Text.sameLetter c d = false) (text : Text) :
    startsWith mark (text ++ [c]) = startsWith mark text := by
  induction mark generalizing text with
  | nil => rfl
  | cons d mark ih =>
      cases text with
      | nil =>
          show (Text.sameLetter c d && startsWith mark []) = false
          rw [h d List.mem_cons_self]
          rfl
      | cons e text =>
          rw [List.cons_append, startsWith, startsWith,
            ih (fun d hd => h d (List.mem_cons_of_mem _ hd))]

theorem find?_concat {opening : Char} (pair : Pair opening closing) (text : Text) :
    PseudoClass.find? (text ++ [closing]) = PseudoClass.find? text := by
  have hnames : PseudoClass.list.all (fun pseudo => (pseudo.name ++ ['(']).all (fun d =>
      !Text.sameLetter ')' d && !Text.sameLetter ']' d)) = true := by
    decide +kernel
  apply List.find?_congr
  intro pseudo hpseudo
  apply startsWith_concat
  intro d hd
  have hletters := List.all_eq_true.mp (List.all_eq_true.mp hnames pseudo hpseudo) d hd
  rw [Bool.and_eq_true, Bool.not_eq_true', Bool.not_eq_true'] at hletters
  cases pair with
  | parentheses => exact hletters.1
  | brackets => exact hletters.2

theorem pseudoTest_completed [Pattern.Engine] {pseudo : PseudoClass} {given text : Text}
    (hlength : given.length = pseudo.name.length) (h : Closable closing ('(' :: text))
    (hstart : startsWith (pseudo.name ++ "(") (given ++ '(' :: text) = true)
    (hstart' : startsWith (pseudo.name ++ "(") (given ++ '(' :: (text ++ [closing])) = true)
    (hread : (pseudoTest inner query pseudo (given ++ '(' :: text)).result = .ok (test, left)) :
    exists left', Completed closing left left' ∧
      (pseudoTest inner query' pseudo (given ++ '(' :: (text ++ [closing]))).result =
        .ok (test, left') := by
  have hdrop : forall more : Text, (given ++ '(' :: more).drop pseudo.name.length = '(' :: more := by
    intro more
    rw [← hlength, List.drop_left]
  rcases h.balanced_concat .parentheses with ⟨left', hleft, hgroup⟩
  simp only [pseudoTest, argumentOf_eq hstart, argumentOf_eq hstart', Report.pure_bind, hdrop]
    at hread ⊢
  cases pseudo with
  | index comparison => exact indexTest_completed h hread
  | has =>
      simp only [hgroup] at hread ⊢
      rcases Report.result_argument_eq_ok.mp hread with ⟨hblank, found, hfound, hpair⟩
      cases hpair
      exact ⟨left', hleft, Report.result_argument_eq_ok.mpr ⟨hblank, found, hfound, rfl⟩⟩
  | not =>
      simp only [hgroup] at hread ⊢
      rcases Report.result_argument_eq_ok.mp hread with ⟨hblank, found, hfound, hpair⟩
      cases hpair
      exact ⟨left', hleft, Report.result_argument_eq_ok.mpr ⟨hblank, found, hfound, rfl⟩⟩
  | contains =>
      simp only [hgroup] at hread ⊢
      split at hread
      · cases hread
      · rename_i hne
        rw [if_neg hne]
        cases hread
        exact ⟨left', hleft, rfl⟩
  | matchesPattern =>
      simp only [hgroup] at hread ⊢
      rcases Report.result_argument_eq_ok.mp hread with ⟨hblank, found, hfound, hpair⟩
      cases hpair
      exact ⟨left', hleft, Report.result_argument_eq_ok.mpr ⟨hblank, found, hfound, rfl⟩⟩

theorem bracketTest_completed [Pattern.Engine] {text : Text} (h : Closable closing ('[' :: text))
    (hread : (do
      let (clause, left) := balanced '[' ']' ('[' :: text)
      let test ← Report.ofExcept (attributeTest query left clause)
      pure (Matcher.attribute test, left) : Report (Matcher × Text)).result = .ok (test, left)) :
    exists left', Completed closing left left' ∧
      (do
        let (clause, left) := balanced '[' ']' ('[' :: (text ++ [closing]))
        let test ← Report.ofExcept (attributeTest query' left clause)
        pure (Matcher.attribute test, left) : Report (Matcher × Text)).result =
          .ok (test, left') := by
  rcases h.balanced_concat .brackets with ⟨left', hleft, hgroup⟩
  rcases Report.result_bind_eq_ok.mp hread with ⟨found, hfound, hpair⟩
  cases hpair
  rw [hgroup]
  exact ⟨left', hleft, Report.result_bind_eq_ok.mpr ⟨found, attributeTest_of_ok hfound, rfl⟩⟩

theorem simpleTest_completed [Pattern.Engine] (h : Closable closing rest)
    (hread : (simpleTest inner query rest).result = .ok (test, left)) :
    exists left', Completed closing left left' ∧
      (simpleTest inner query' (rest ++ [closing])).result = .ok (test, left') := by
  cases rest with
  | nil => exact absurd rfl h.ne_nil
  | cons c after =>
      rcases h.exists_pair with ⟨opening, pair⟩
      have hfind : PseudoClass.find? (c :: (after ++ [closing])) = PseudoClass.find? (c :: after) :=
        find?_concat pair (c :: after)
      show exists left', Completed closing left left' ∧
        (simpleTest inner query' (c :: (after ++ [closing]))).result = .ok (test, left')
      have hjoins : forall {mark : Char}, c = mark -> Plain mark -> Closable closing after :=
        fun hc hmark => h.of_joins (hc ▸ hmark.joins)
      unfold simpleTest at hread ⊢
      simp only [hfind] at hread ⊢
      split at hread
      · rename_i hhash
        rw [if_pos hhash]
        exact name_completed (fun _ => nameChar_joins) id .id (hjoins hhash (by decide)) hread
      · rename_i hhash
        rw [if_neg hhash]
        split at hread
        · rename_i hdot
          rw [if_pos hdot]
          exact name_completed (fun _ => nameChar_joins) id
            (fun name => .className (Text.lower name)) (hjoins hdot (by decide)) hread
        · rename_i hdot
          rw [if_neg hdot]
          split at hread
          · rename_i hletter
            rw [if_pos hletter]
            have hname : exists left', Completed closing left left' ∧
                tagTest query' (c :: after ++ [closing]) = .ok (test, left') :=
              tagTest_completed h hread
            exact hname
          · rename_i hletter
            rw [if_neg hletter]
            split at hread
            · rename_i hbracket
              subst hbracket
              exact bracketTest_completed h hread
            · rename_i hbracket
              rw [if_neg hbracket]
              split at hread
              · rename_i hstar
                rw [if_pos hstar]
                cases hread
                exact ⟨_, (hjoins hstar (by decide)).completed, rfl⟩
              · rename_i hstar
                rw [if_neg hstar]
                split at hread
                · rename_i pseudo hpseudo
                  rcases PseudoClass.exists_of_find? hpseudo with
                    ⟨given, text, hrest, hlength, hgiven⟩
                  have hgroup : Closable closing ('(' :: text) := by
                    rw [hrest] at h
                    exact h.of_append fun d hd => (hgiven d hd).joins
                  have hadded : c :: (after ++ [closing]) = given ++ '(' :: (text ++ [closing]) := by
                    rw [← List.cons_append, hrest, List.append_assoc, List.cons_append]
                  have hstart := PseudoClass.startsWith_of_find? hpseudo
                  have hstart' := PseudoClass.startsWith_of_find? (hfind.trans hpseudo)
                  rw [hrest] at hread hstart
                  rw [hadded] at hstart' ⊢
                  exact pseudoTest_completed hlength hgroup hstart hstart' hread
                · cases hread

/-! # Whole compounds -/

theorem simple_completed [Pattern.Engine]
    {parts : List Matcher} {next : Progress} (h : Closable closing rest)
    (hread : (do
      let (test, left) ← simpleTest inner query rest
      pure (⟨test :: parts, left⟩ : Progress) : Report Progress).result = .ok next) :
    exists left', Completed closing next.rest left' ∧
      (do
        let (test, left) ← simpleTest inner query' (rest ++ [closing])
        pure (⟨test :: parts, left⟩ : Progress) : Report Progress).result =
          .ok ⟨next.parts, left'⟩ := by
  rcases Report.result_bind_eq_ok.mp hread with ⟨⟨test, left⟩, htest, hnext⟩
  cases hnext
  rcases simpleTest_completed h htest with ⟨left', hleft, htest'⟩
  exact ⟨left', hleft, Report.result_bind_eq_ok.mpr ⟨(test, left'), htest', rfl⟩⟩

theorem step_completed [Pattern.Engine]
    {parts : List Matcher} {next : Progress} (h : Closable closing rest)
    (hread : (step inner query ⟨parts, rest⟩).result = .ok next) :
    exists left', Completed closing next.rest left' ∧
      (step inner query' ⟨parts, rest ++ [closing]⟩).result = .ok ⟨next.parts, left'⟩ := by
  rcases h.exists_cons with ⟨c, more, rfl, hc⟩
  have hskip : forall more, skipWhitespace (c :: more) = (false, c :: more) :=
    fun _ => skipWhitespace_of_not_separator hc
  have hmark : forall more : Text, Combinator.ofMark? (peek (c :: more)) = none :=
    fun _ => ofMark?_of_not_separator hc
  rw [step_eq] at hread ⊢
  simp only [List.cons_append, hskip, hmark, Bool.false_eq_true, if_false] at hread ⊢
  exact simple_completed h hread

theorem start_completed [Pattern.Engine] {next : Progress} (h : Closable closing query)
    (hread : (start inner query).result = .ok next) :
    exists left', Completed closing next.rest left' ∧
      (start inner (query ++ [closing])).result = .ok ⟨next.parts, left'⟩ := by
  rcases h.exists_cons with ⟨c, more, rfl, hc⟩
  have hskip : forall more, skipWhitespace (c :: more) = (false, c :: more) :=
    fun _ => skipWhitespace_of_not_separator hc
  have hmark : forall more : Text, Combinator.ofMark? (peek (c :: more)) = none :=
    fun _ => ofMark?_of_not_separator hc
  rw [start_eq] at hread ⊢
  simp only [List.cons_append, hskip, hmark] at hread ⊢
  exact simple_completed h hread

theorem parseWith_completed [Pattern.Engine] {matcher : Matcher} (h : Closable closing query)
    (hread : (parseWith inner query).result = .ok matcher) :
    (parseWith inner (query ++ [closing])).result = .ok matcher := by
  rcases Report.result_bind_eq_ok.mp hread with ⟨progress, hstart, hfollow⟩
  rcases start_completed h hstart with ⟨left', hleft, hstart'⟩
  have hback : HandsBack inner query (fun _ => True) := fun _ _ _ _ => trivial
  have hlength : query.length ≤ (query ++ [closing]).length := by simp
  refine Report.result_bind_eq_ok.mpr ⟨⟨progress.parts, left'⟩, hstart', ?_⟩
  refine hback.simulation (fun progress rest' => Completed closing progress.rest rest') ?_ ?_
    hlength hleft trivial hfollow
  · rintro parts rest' (⟨hclosable, _⟩ | ⟨_, hend⟩)
    · exact absurd rfl hclosable.ne_nil
    · exact hend
  · rintro progress rest' next hne (⟨hclosable, rfl⟩ | ⟨hend, _⟩) hstep _
    · exact step_completed hclosable hstep
    · exact absurd hend hne

end Reading

/-! # Behind a combinator -/

section Behind

variable {text : Text} {matcher : Matcher}

theorem trim_behind (tag : TagName) (separator : Separator) (hunbroken : Unbroken text)
    (hne : Text.trim text ≠ []) :
    Text.trim (tag.write ++ (separator.write ++ text)) =
      tag.write ++ (separator.write ++ Text.trim text) := by
  rcases hunbroken.exists_trim with ⟨after, htext, hafter⟩
  have htight : Text.Tight (tag.write ++ (separator.write ++ Text.trim text)) :=
    tag.solid.tight.surround separator.write (Text.tight_trim hne)
  have htrim := Text.trim_blanks htight (List.forall_mem_nil _) hafter
  rw [List.nil_append, List.append_assoc, List.append_assoc, ← htext] at htrim
  exact htrim

/-- What stands behind the separator is cut out and read one level below. -/
theorem parse_behind_eq_ok_iff [Pattern.Engine]
    (tag : TagName) (separator : Separator) (hmarked : endMark ∉ text)
    (hunbroken : Unbroken text) (hne : Text.trim text ≠ []) {result : Matcher} :
    (parse (tag.write ++ (separator.write ++ text))).result = .ok result ↔
      exists right,
        (parseWithin (maxNesting - 1) (subSelector (Text.trim text)).1).result = .ok right ∧
          result = separator.combinator.join tag.meaning right := by
  have hquery := trim_behind tag separator hunbroken hne
  have hcut : Unbroken (Text.trim text) := hunbroken.trim hmarked
  show (parseWith (parseWithin (maxNesting - 1)) (Text.trim _)).result = _ ↔ _
  rw [hquery]
  generalize parseWithin (maxNesting - 1) = inner
  cases hcore : Text.trim text with
  | nil => exact absurd hcore hne
  | cons c more =>
      rw [hcore] at hcut
      have hseparator : isSeparator c = false := hcut.not_separator
      have hrelate : forall parts, relate inner separator.combinator parts (c :: more) = (do
          let right ← inner (subSelector (c :: more)).1
          pure ⟨[separator.combinator.attach (collapse parts) right], []⟩) := by
        intro parts
        have hblank : relate inner separator.combinator parts (Blank.none.text ++ c :: more) = _ :=
          relate_blank separator.combinator parts .none (not_whitespace_of_not_separator hseparator)
        rw [hcut] at hblank
        exact hblank
      have hattach : forall right, separator.combinator.attach (collapse [tag.meaning]) right =
          separator.combinator.join tag.meaning right :=
        fun right => attach_of_single (fun _ => Matcher.noConfusion) right
      have hempty : (separator.write ++ c :: more).isEmpty = false := by simp
      have hstart : (start inner (tag.write ++ (separator.write ++ c :: more))).result =
          .ok ⟨[tag.meaning], separator.write ++ c :: more⟩ :=
        start_simple ⟨tag.first, tag.rest, rfl, (plain_of_alphanumeric tag.start).separator⟩
          (fun _ _ => simpleTest_tag tag) (stops_of_ends (separator.ends _))
      unfold parseWith
      rw [Report.result_bind, hstart]
      show (follow inner _ (_ + 1) _).result = _ ↔ _
      unfold follow
      rw [hempty, if_neg (by decide), step_separator _ separator hseparator, hrelate,
        Report.result_bind_eq_ok]
      constructor
      · rintro ⟨next, hnext, hend⟩
        rcases Report.result_bind_eq_ok.mp hnext with ⟨right, hright, hpair⟩
        cases hpair
        rw [finishes_end _ _ (Nat.zero_le _), Except.ok.injEq] at hend
        exact ⟨right, hright, hend.symm.trans (hattach right)⟩
      · rintro ⟨right, hright, rfl⟩
        refine ⟨_, Report.result_bind_eq_ok.mpr ⟨right, hright, rfl⟩, ?_⟩
        rw [finishes_end _ _ (Nat.zero_le _), ← hattach]
        rfl

theorem parseWithin_cut [Pattern.Engine]
    {levels : Nat} (hmarked : endMark ∉ text) (hunbroken : Unbroken text)
    (hsettled : Settled text) (htrim : Text.trim text = text)
    (h : (parseWithin (levels + 1) text).result = .ok matcher) :
    (parseWithin (levels + 1) (subSelector text).1).result = .ok matcher := by
  rcases hsettled.cases hmarked hunbroken with hcut | ⟨closing, hcut, hclosable⟩
  · rw [hcut]
    exact h
  · have htight : Text.Tight text := by
      rw [← htrim]
      exact Text.tight_trim (not_blank_of_parseWithin h)
    have hclosing : Text.isWhitespace closing = false := by
      rcases hclosable.exists_pair with ⟨opening, pair⟩
      cases pair <;> decide
    have hadded : Text.trim (text ++ [closing]) = text ++ [closing] :=
      Text.trim_of_tight (htight.append (Text.tight_char hclosing))
    unfold parseWithin at h ⊢
    rw [htrim] at h
    rw [hcut, hadded]
    exact parseWith_completed hclosable h

/-- Behind a tag and a separator a compound is read as it is when it comes first, if cutting it out
a second time would change nothing.  Otherwise it is what is cut out that is read. -/
theorem parse_behind [Pattern.Engine]
    (tag : TagName) (separator : Separator) (hmarked : endMark ∉ text)
    (hunbroken : Unbroken text) (h : (parse text).result = .ok matcher)
    (hlevels : ¬(parseWithin (maxNesting - 1) text).IsTooDeep) :
    (Settled (Text.trim text) ->
      (parse (tag.write ++ (separator.write ++ text))).result =
        .ok (separator.combinator.join tag.meaning matcher)) ∧
    forall result, (parse (tag.write ++ (separator.write ++ text))).result = .ok result ↔
      exists right,
        (parseWithin (maxNesting - 1) (subSelector (Text.trim text)).1).result = .ok right ∧
          result = separator.combinator.join tag.meaning right := by
  have hne : Text.trim text ≠ [] := not_blank_of_parseWithin h
  have hiff : forall result, (parse (tag.write ++ (separator.write ++ text))).result = .ok result ↔ _ :=
    fun result => parse_behind_eq_ok_iff tag separator hmarked hunbroken hne
  refine ⟨fun hsettled => ?_, hiff⟩
  have htrim : Text.trim (Text.trim text) = Text.trim text := Text.trim_trim text
  have hbelow : (parseWithin (maxNesting - 2 + 1) (Text.trim text)).result = .ok matcher := by
    have hsame : parse text = parseWithin (maxNesting - 1) text :=
      parseWithin_eq_of_le (Nat.sub_le _ _) hlevels
    rw [hsame] at h
    show (parseWith _ (Text.trim (Text.trim text))).result = _
    rw [htrim]
    exact h
  have hcut := parseWithin_cut (fun hmem => hmarked (Text.mem_of_mem_trim hmem))
    (hunbroken.trim hmarked) hsettled htrim hbelow
  exact (hiff _).mpr ⟨matcher, hcut, rfl⟩

end Behind

def sampleTag : TagName :=
  ⟨'x', [], by decide +kernel, by simp⟩

def sampleSeparator : Separator :=
  .marked .none '>' .child rfl .none

theorem parse_behind_closable :
    endMark ∉ ("[a=b" : Text) ∧ Unbroken "[a=b" ∧ Settled "[a=b" ∧
      (parse "[a=b").result = .ok (.attribute (.compare .equals "a" "b")) ∧
      ¬(parseWithin (maxNesting - 1) "[a=b").IsTooDeep ∧
      (parse "x>[a=b").result =
        .ok (.all [.attribute (.compare .equals "a" "b"), .parent (.tag "x")]) := by
  have hmarked : endMark ∉ ("[a=b" : Text) := by decide
  have hunbroken : Unbroken "[a=b" := by rfl
  have hsettled : Settled "[a=b" := by decide
  have hread : (parse "[a=b").result = .ok (.attribute (.compare .equals "a" "b")) := by rfl
  have hlevels : ¬(parseWithin (maxNesting - 1) "[a=b").IsTooDeep := by
    rintro ⟨limit, query, remainder, hdeep⟩
    cases hdeep
  have hbehind := (parse_behind sampleTag sampleSeparator hmarked hunbroken hread hlevels).1 hsettled
  exact ⟨hmarked, hunbroken, hsettled, hread, hlevels, hbehind⟩

/-- The bracket that is added closes the inner one, and is read as part of the value. -/
theorem parse_behind_not_settled :
    Unbroken "[a=[b" ∧ (parse "[a=[b").result = .ok (.attribute (.compare .equals "a" "[b")) ∧
      ¬(parseWithin (maxNesting - 1) "[a=[b").IsTooDeep ∧
      (parse "x [a=[b").result =
        .ok (.all [.attribute (.compare .equals "a" "[b]"), .ancestor (.tag "x")]) := by
  refine ⟨by rfl, by rfl, ?_, by rfl⟩
  rintro ⟨limit, query, remainder, hdeep⟩
  cases hdeep

end Selector
end TreeQuery
