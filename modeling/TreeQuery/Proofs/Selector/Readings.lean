import Mathlib.Data.List.TakeWhile
import TreeQuery.Proofs.Selector.Breaks
import TreeQuery.Proofs.Selector.Leaves

/-!
# What a simple selector was read from

Whatever the text, if a simple selector is read from it then the text starts in one of a few ways.
What is left is the end of the text, and it has no breaks if the text has none.
-/

namespace TreeQuery
namespace Selector

open Scan Grammar

/-! # Reports that succeed -/

theorem Report.result_bind_eq_ok {α β : Type} {report : Report α} {continuation : α -> Report β}
    {result : β} :
    (report >>= continuation).result = .ok result ↔
      exists value, report.result = .ok value ∧ (continuation value).result = .ok result := by
  rw [Report.result_bind]
  cases report.result with
  | error error => simp
  | ok value => simp

/-- What an argument is made into is read if the argument is not blank and is read itself. -/
theorem Report.result_argument_eq_ok {α β γ : Type} {isBlank : Bool} {error : ParseError}
    {report : Report α} {wrap : α -> β} {left : γ} {next : β × γ} :
    (if isBlank then Report.fail error
      else do
        let value ← report
        pure (wrap value, left)).result = .ok next ↔
      isBlank = false ∧ exists value, report.result = .ok value ∧ next = (wrap value, left) := by
  cases isBlank with
  | true => simp
  | false =>
      rw [if_neg Bool.false_ne_true, Report.result_bind_eq_ok]
      constructor
      · intro h
        rcases h with ⟨value, hvalue, hnext⟩
        cases hnext
        exact ⟨rfl, value, hvalue, rfl⟩
      · intro h
        rcases h with ⟨_, value, hvalue, hnext⟩
        rw [hnext]
        exact ⟨value, hvalue, rfl⟩

/-! # Names of pseudo-classes in any letter case -/

def strictMarks : Text :=
  structuralMarks ++ Combinator.marks ++
    (Text.whitespaceSpans.flatMap Span.codes).map Char.ofNat

theorem plain_of_not_strict {c : Char} (h : c ∉ strictMarks) : Plain c := by
  simp only [strictMarks, List.mem_append, not_or] at h
  rcases h with ⟨⟨hstructural, hmarks⟩, hspaces⟩
  rcases ordinary_of_not_mem hstructural with ⟨hordinary, hdelimiter⟩
  have hwhitespace : Text.isWhitespace c = false := by
    apply Bool.eq_false_iff.mpr
    intro hspace
    apply hspaces
    exact List.mem_map.mpr ⟨c.toNat, Span.mem_codes_of_covers hspace, Char.ofNat_toNat c⟩
  constructor
  case ordinary => exact hordinary
  case delimiter => exact hdelimiter
  case separator => simp [isSeparator, hmarks, hwhitespace]

theorem PseudoClass.plain_of_sameLetter {pseudo : PseudoClass} {c d : Char}
    (hd : d ∈ pseudo.name) (h : Text.sameLetter c d = true) : Plain c := by
  have hnames : PseudoClass.list.all (fun pseudo => pseudo.name.all (fun d =>
      strictMarks.all (fun c => !Text.sameLetter c d))) = true := by
    decide +kernel
  have hmem : pseudo ∈ PseudoClass.list := by
    cases pseudo with
    | index comparison => cases comparison <;> decide
    | has => decide
    | not => decide
    | contains => decide
    | matchesPattern => decide
  apply plain_of_not_strict
  intro hstrict
  have hname := List.all_eq_true.mp (List.all_eq_true.mp hnames pseudo hmem) d hd
  have hdiffers := List.all_eq_true.mp hname c hstrict
  rw [h] at hdiffers
  cases hdiffers

theorem exists_of_startsWith {name rest : Text} (h : startsWith (name ++ "(") rest = true) :
    exists given text, rest = given ++ '(' :: text ∧ given.length = name.length ∧
      forall c, c ∈ given -> exists d, d ∈ name ∧ Text.sameLetter c d = true := by
  induction name generalizing rest with
  | nil =>
      cases rest with
      | nil => cases h
      | cons c rest =>
          have hc : c = '(' :=
            Text.eq_of_sameLetter (by decide +kernel) (Bool.and_eq_true_iff.mp h).1
          exact ⟨[], rest, by rw [hc]; rfl, rfl, by simp⟩
  | cons d name ih =>
      cases rest with
      | nil => cases h
      | cons c rest =>
          rcases Bool.and_eq_true_iff.mp h with ⟨hletter, hrest⟩
          rcases ih hrest with ⟨given, text, rfl, hlength, hgiven⟩
          refine ⟨c :: given, text, rfl, by rw [List.length_cons, hlength, List.length_cons], ?_⟩
          intro e he
          rcases List.mem_cons.mp he with rfl | he
          · exact ⟨d, List.mem_cons_self, hletter⟩
          · rcases hgiven e he with ⟨f, hf, hsame⟩
            exact ⟨f, List.mem_cons_of_mem _ hf, hsame⟩

theorem PseudoClass.exists_of_find? {rest : Text} {pseudo : PseudoClass}
    (h : find? rest = some pseudo) :
    exists given text, rest = given ++ '(' :: text ∧ given.length = pseudo.name.length ∧
      forall c, c ∈ given -> Plain c := by
  rcases exists_of_startsWith (startsWith_of_find? h) with ⟨given, text, hrest, hlength, hgiven⟩
  refine ⟨given, text, hrest, hlength, fun c hc => ?_⟩
  rcases hgiven c hc with ⟨d, hd, hletter⟩
  exact plain_of_sameLetter hd hletter

/-! # Simple selectors -/

/-- A simple selector is read from the start of a text, and the rest is left. -/
inductive Reads [Pattern.Engine] (inner : Text -> Report Matcher) (query : Text) :
    Text -> Matcher -> Text -> Prop where
  | id {name left : Text} : name ≠ [] -> (forall c, c ∈ name -> isNameChar c = true) ->
      Reads inner query ('#' :: (name ++ left)) (.id name) left
  | className {name left : Text} : name ≠ [] -> (forall c, c ∈ name -> isNameChar c = true) ->
      Reads inner query ('.' :: (name ++ left)) (.className (Text.lower name)) left
  | tag {raw name left : Text} : (forall c, c ∈ raw -> isTagChar c = true) ->
      name = Text.lower ((Text.trim raw).map (fun c => if c = '|' then ':' else c)) ->
      name ≠ [] -> Reads inner query (raw ++ left) (.tag name) left
  | bracketed {text clause left : Text} {test : AttributeTest} :
      balanced '[' ']' ('[' :: text) = (clause, left) ->
      attributeTest query left clause = .ok test ->
      Reads inner query ('[' :: text) (.attribute test) left
  | universal {left : Text} : Reads inner query ('*' :: left) .universal left
  | index {given text raw left : Text} {comparison : IndexComparison} {value : Int} :
      (forall c, c ∈ given -> Plain c) -> past ")" text = (raw, left) ->
      Text.readInt32? (Text.trim raw) = some value ->
      Reads inner query (given ++ '(' :: text) (.index comparison value) left
  | has {given text argument left : Text} {test : Matcher} : (forall c, c ∈ given -> Plain c) ->
      balanced '(' ')' ('(' :: text) = (argument, left) -> (inner argument).result = .ok test ->
      Reads inner query (given ++ '(' :: text) (.has test) left
  | not {given text argument left : Text} {test : Matcher} : (forall c, c ∈ given -> Plain c) ->
      balanced '(' ')' ('(' :: text) = (argument, left) -> (inner argument).result = .ok test ->
      Reads inner query (given ++ '(' :: text) (.not test) left
  | containsText {given text argument left : Text} : (forall c, c ∈ given -> Plain c) ->
      balanced '(' ')' ('(' :: text) = (argument, left) -> unescape argument ≠ [] ->
      Reads inner query (given ++ '(' :: text) (.containsText (Text.lower (unescape argument))) left
  | matchesText {given text argument left : Text} {pattern : Pattern} :
      (forall c, c ∈ given -> Plain c) -> balanced '(' ')' ('(' :: text) = (argument, left) ->
      argument ≠ [] -> Pattern.compile? argument = some pattern ->
      Reads inner query (given ++ '(' :: text) (.matchesText pattern) left

section Reading

variable {inner : Text -> Report Matcher} {query rest left : Text} {test : Matcher}

theorem exists_of_run {check : Char -> Bool} (shape : Text -> Text) (make : Text -> Matcher)
    {error : ParseError}
    (h : (if (shape (run check rest).1).isEmpty then Except.error error
      else .ok (make (shape (run check rest).1), (run check rest).2)) = .ok (test, left)) :
    exists raw, rest = raw ++ left ∧ (forall c, c ∈ raw -> check c = true) ∧ shape raw ≠ [] ∧
      test = make (shape raw) := by
  have hrun : (run check rest).1 ++ (run check rest).2 = rest := List.takeWhile_append_dropWhile
  cases hempty : (shape (run check rest).1).isEmpty with
  | true => simp [hempty] at h
  | false =>
      simp only [hempty, Bool.false_eq_true, if_false, Except.ok.injEq, Prod.mk.injEq] at h
      rcases h with ⟨rfl, rfl⟩
      exact ⟨(run check rest).1, hrun.symm, fun c hc => List.mem_takeWhile_imp hc,
        List.isEmpty_eq_false_iff.mp hempty, rfl⟩

theorem reads_of_idTest [Pattern.Engine] (h : idTest query rest = .ok (test, left)) :
    Reads inner query ('#' :: rest) test left := by
  rcases exists_of_run id .id h with ⟨name, rfl, hname, hne, rfl⟩
  exact Reads.id hne hname

theorem reads_of_classTest [Pattern.Engine] (h : classTest query rest = .ok (test, left)) :
    Reads inner query ('.' :: rest) test left := by
  rcases exists_of_run id (fun name => .className (Text.lower name)) h with
    ⟨name, rfl, hname, hne, rfl⟩
  exact Reads.className hne hname

theorem reads_of_tagTest [Pattern.Engine] (h : tagTest query rest = .ok (test, left)) :
    Reads inner query rest test left := by
  rcases exists_of_run
      (fun raw => Text.lower ((Text.trim raw).map (fun c => if c = '|' then ':' else c))) .tag h with
    ⟨raw, rfl, hraw, hne, rfl⟩
  exact Reads.tag hraw rfl hne

theorem reads_of_attribute [Pattern.Engine] {text : Text} (h :
    (do
      let (clause, left) := balanced '[' ']' ('[' :: text)
      let test ← Report.ofExcept (attributeTest query left clause)
      pure (Matcher.attribute test, left) : Report (Matcher × Text)).result = .ok (test, left)) :
    Reads inner query ('[' :: text) test left := by
  rcases hgroup : balanced '[' ']' ('[' :: text) with ⟨clause, after⟩
  rw [hgroup] at h
  rcases Report.result_bind_eq_ok.mp h with ⟨found, hfound, hread⟩
  cases hread
  exact Reads.bracketed hgroup hfound

theorem reads_of_indexTest [Pattern.Engine] {comparison : IndexComparison} {given text : Text}
    (hgiven : forall c, c ∈ given -> Plain c)
    (h : (indexTest query comparison text).result = .ok (test, left)) :
    Reads inner query (given ++ '(' :: text) test left := by
  rcases hpast : past ")" text with ⟨raw, after⟩
  simp only [indexTest, hpast] at h
  cases hvalue : Text.readInt32? (Text.trim raw) with
  | none => simp [hvalue] at h
  | some value =>
      simp only [hvalue] at h
      cases h
      exact Reads.index hgiven hpast hvalue

theorem compile?_of_compilePattern [Pattern.Engine] {source : Text} {pattern : Pattern}
    (h : compilePattern source = .ok pattern) : Pattern.compile? source = some pattern := by
  unfold compilePattern at h
  cases hpattern : Pattern.compile? source with
  | none => simp [hpattern] at h
  | some found =>
      simp only [hpattern, Except.ok.injEq] at h
      rw [h]

theorem reads_of_pseudoTest [Pattern.Engine] {pseudo : PseudoClass} {given text : Text}
    (hlength : given.length = pseudo.name.length) (hgiven : forall c, c ∈ given -> Plain c)
    (hstart : startsWith (pseudo.name ++ "(") (given ++ '(' :: text) = true)
    (h : (pseudoTest inner query pseudo (given ++ '(' :: text)).result = .ok (test, left)) :
    Reads inner query (given ++ '(' :: text) test left := by
  have hdrop : (given ++ '(' :: text).drop pseudo.name.length = '(' :: text := by
    rw [← hlength, List.drop_left]
  rcases hgroup : balanced '(' ')' ('(' :: text) with ⟨argument, after⟩
  simp only [pseudoTest, argumentOf_eq hstart, Report.pure_bind, hdrop] at h
  cases pseudo with
  | index comparison => exact reads_of_indexTest hgiven h
  | has =>
      simp only [hgroup] at h
      rcases Report.result_argument_eq_ok.mp h with ⟨_, found, hfound, hread⟩
      cases hread
      exact Reads.has hgiven hgroup hfound
  | not =>
      simp only [hgroup] at h
      rcases Report.result_argument_eq_ok.mp h with ⟨_, found, hfound, hread⟩
      cases hread
      exact Reads.not hgiven hgroup hfound
  | contains =>
      simp only [hgroup] at h
      split at h
      · cases h
      · rename_i hempty
        cases h
        exact Reads.containsText hgiven hgroup (by simpa using hempty)
  | matchesPattern =>
      simp only [hgroup] at h
      rcases Report.result_argument_eq_ok.mp h with ⟨hempty, pattern, hpattern, hread⟩
      cases hread
      exact Reads.matchesText hgiven hgroup (by simpa using hempty)
        (compile?_of_compilePattern hpattern)

theorem reads_of_simpleTest [Pattern.Engine]
    (h : (simpleTest inner query rest).result = .ok (test, left)) :
    Reads inner query rest test left := by
  cases rest with
  | nil => cases h
  | cons c after =>
      unfold simpleTest at h
      simp only at h
      split at h
      · rename_i hc
        subst hc
        exact reads_of_idTest h
      · split at h
        · rename_i hc
          subst hc
          exact reads_of_classTest h
        · split at h
          · exact reads_of_tagTest h
          · split at h
            · rename_i hc
              subst hc
              exact reads_of_attribute h
            · split at h
              · rename_i hc
                subst hc
                cases h
                exact Reads.universal
              · split at h
                · rename_i pseudo hfind
                  rcases PseudoClass.exists_of_find? hfind with ⟨given, text, hrest, hlength, hgiven⟩
                  have hstart := PseudoClass.startsWith_of_find? hfind
                  rw [hrest] at h hstart ⊢
                  exact reads_of_pseudoTest hlength hgiven hstart h
                · cases h

end Reading

/-! # Attributes read from different texts

The selector and the text behind the brackets show in errors only.
-/

theorem operatorTest_of_ok [Pattern.Engine] {query query' key after : Text} {test : AttributeTest}
    (h : operatorTest query key after = .ok test) : operatorTest query' key after = .ok test := by
  unfold operatorTest at h ⊢
  by_cases hmark : startsWith patternMark after
  · rw [if_pos hmark] at h ⊢
    exact h
  · rw [if_neg hmark] at h ⊢
    split at h
    · cases h
    · simp only at h ⊢
      split at h
      · cases h
      · rename_i hne
        rw [if_neg hne]
        exact h

theorem presenceTest_of_ok {query query' rest rest' key : Text} {test : AttributeTest}
    (h : presenceTest query rest key = .ok test) : presenceTest query' rest' key = .ok test := by
  unfold presenceTest at h ⊢
  split at h
  · cases h
  · exact h
  · exact h

theorem attributeTest_congr [Pattern.Engine]
    {query query' rest rest' clause clause' : Text} {test : AttributeTest}
    (hkey : Text.foldAscii (Text.trim (upToAny attributeMarks clause').1) =
      Text.foldAscii (Text.trim (upToAny attributeMarks clause).1))
    (hend : (skipWhitespace (upToAny attributeMarks clause').2).2.isEmpty =
      (skipWhitespace (upToAny attributeMarks clause).2).2.isEmpty)
    (hoperator : forall key,
      operatorTest query key (skipWhitespace (upToAny attributeMarks clause).2).2 = .ok test ->
      operatorTest query' key (skipWhitespace (upToAny attributeMarks clause').2).2 = .ok test)
    (h : attributeTest query rest clause = .ok test) :
    attributeTest query' rest' clause' = .ok test := by
  unfold attributeTest at h ⊢
  simp only at h ⊢
  rw [hkey, hend]
  split at h
  · cases h
  · rename_i hne
    rw [if_neg hne]
    split at h
    · rename_i hempty
      rw [if_pos hempty]
      exact presenceTest_of_ok h
    · rename_i hmore
      rw [if_neg hmore]
      exact hoperator _ h

theorem attributeTest_of_ok [Pattern.Engine]
    {query query' rest rest' clause : Text} {test : AttributeTest}
    (h : attributeTest query rest clause = .ok test) :
    attributeTest query' rest' clause = .ok test :=
  attributeTest_congr rfl rfl (fun _ => operatorTest_of_ok) h

/-! # What is left -/

section Left

variable {inner : Text -> Report Matcher} {query rest left : Text} {test : Matcher}

theorem past_parenthesis_cons {c : Char} (hc : c ≠ ')') (text : Text) :
    past ")" (c :: text) = (c :: (past ")" text).1, (past ")" text).2) := by
  have hfound : List.isPrefixOf [')'] (c :: text) = false := by
    simp [List.isPrefixOf, Ne.symm hc]
  have hupTo : upToMark ")" (c :: text) =
      (c :: (upToMark ")" text).1, (upToMark ")" text).2) := by
    show upTo (List.isPrefixOf [')']) (c :: text) = _
    rw [upTo, hfound]
    rfl
  unfold past
  rw [hupTo]

theorem past_parenthesis_cases {text raw : Text} (h : past ")" text = (raw, left)) :
    text = raw ++ ')' :: left ∨ text = raw ∧ left = [] := by
  induction text generalizing raw with
  | nil =>
      cases h
      exact Or.inr ⟨rfl, rfl⟩
  | cons c text ih =>
      by_cases hc : c = ')'
      · subst hc
        have hpast : past ")" ([] ++ ')' :: text) = ([], text) :=
          past_parenthesis fun d hd => absurd hd List.not_mem_nil
        rw [List.nil_append] at hpast
        rw [hpast] at h
        cases h
        exact Or.inl rfl
      · rw [past_parenthesis_cons hc] at h
        cases h
        rcases ih rfl with htext | ⟨htext, hleft⟩
        · exact Or.inl (congrArg (List.cons c) htext)
        · exact Or.inr ⟨congrArg (List.cons c) htext, hleft⟩

theorem Reads.suffix [Pattern.Engine]
    (reads : Reads inner query rest test left) : left <:+ rest := by
  have hgroup : forall {opening closing : Char} {text argument : Text},
      balanced opening closing (opening :: text) = (argument, left) ->
        left <:+ opening :: text := by
    intro opening closing text argument h
    have hsuffix : (balanced opening closing (opening :: text)).2 <:+ opening :: text :=
      balanced_suffix
    rwa [h] at hsuffix
  cases reads with
  | id => exact (List.suffix_append _ _).trans (List.suffix_cons _ _)
  | className => exact (List.suffix_append _ _).trans (List.suffix_cons _ _)
  | tag => exact List.suffix_append _ _
  | bracketed h => exact hgroup h
  | universal => exact List.suffix_cons _ _
  | index _ h =>
      rcases past_parenthesis_cases h with rfl | ⟨_, rfl⟩
      · exact ((List.suffix_cons _ _).trans (List.suffix_append _ _)).trans
          ((List.suffix_cons _ _).trans (List.suffix_append _ _))
      · exact List.nil_suffix
  | has _ h => exact (hgroup h).trans (List.suffix_append _ _)
  | not _ h => exact (hgroup h).trans (List.suffix_append _ _)
  | containsText _ h => exact (hgroup h).trans (List.suffix_append _ _)
  | matchesText _ h => exact (hgroup h).trans (List.suffix_append _ _)

theorem Reads.length_lt [Pattern.Engine]
    {left : Text} {test : Matcher} (reads : Reads inner query rest test left) :
    left.length < rest.length := by
  have hgroup : forall {opening closing : Char} {text argument : Text},
      balanced opening closing (opening :: text) = (argument, left) ->
        left.length < (opening :: text).length := by
    intro opening closing text argument h
    have hlength : (balanced opening closing (opening :: text)).2.length < _ := length_balanced_lt
    rwa [h] at hlength
  have hargument : forall {given text argument : Text},
      balanced '(' ')' ('(' :: text) = (argument, left) ->
        left.length < (given ++ '(' :: text).length := by
    intro given text argument h
    rw [List.length_append]
    exact Nat.lt_add_left _ (hgroup h)
  have hmarked : forall {mark : Char} {name : Text}, left.length < (mark :: (name ++ left)).length := by
    intro mark name
    simp only [List.length_cons, List.length_append]
    omega
  cases reads with
  | id => exact hmarked
  | className => exact hmarked
  | @tag raw name _ _ hname hne =>
      have hraw : raw ≠ [] := by
        intro hraw
        rw [hraw] at hname
        exact hne hname
      rw [List.length_append]
      exact Nat.lt_add_of_pos_left (List.length_pos_iff.mpr hraw)
  | bracketed h => exact hgroup h
  | universal => exact Nat.lt_succ_self _
  | index _ h =>
      rcases past_parenthesis_cases h with rfl | ⟨_, rfl⟩
      · simp only [List.length_cons, List.length_append]
        omega
      · simp only [List.length_cons, List.length_append, List.length_nil]
        omega
  | has _ h => exact hargument h
  | not _ h => exact hargument h
  | containsText _ h => exact hargument h
  | matchesText _ h => exact hargument h

theorem ordinary_of_readInt32? {raw : Text} {value : Int}
    (h : Text.readInt32? (Text.trim raw) = some value) :
    forall c, c ∈ raw -> IsOrdinary c ∧ isDelimiter c = false := by
  intro c hc
  rcases Text.exists_trim raw with ⟨before, after, hraw, hbefore, hafter⟩
  rw [hraw] at hc
  have hspace : Text.isWhitespace c = true -> IsOrdinary c ∧ isDelimiter c = false :=
    fun hspace => ordinary_of_not_mem (Text.not_mem_of_test (by decide) hspace)
  rcases List.mem_append.mp hc with hc | hc
  · exact hspace (hbefore c hc)
  · rcases List.mem_append.mp hc with hc | hc
    · rcases Text.mem_of_readInt32? h hc with rfl | rfl | hdigit
      · decide
      · decide
      · have hplain := plain_of_alphanumeric (Text.alphanumeric_of_isDigit hdigit)
        exact ⟨hplain.ordinary, hplain.delimiter⟩
    · exact hspace (hafter c hc)

theorem closed_of_readInt32? {raw : Text} {value : Int}
    (h : Text.readInt32? (Text.trim raw) = some value) : Closed raw :=
  closed_of_all (ordinary_of_readInt32? h)

theorem Reads.unbroken [Pattern.Engine]
    (reads : Reads inner query rest test left) (h : Unbroken rest) :
    Unbroken left := by
  have hmark : forall {mark : Char} {name : Text}, Plain mark ->
      (forall c, c ∈ name -> isNameChar c = true) ->
      forall c, c ∈ mark :: name -> Joins c := by
    intro mark name hmark hname c hc
    rcases List.mem_cons.mp hc with rfl | hc
    · exact hmark.joins
    · exact (plain_of_tagChar (tagChar_of_nameChar (hname c hc))).joins
  have hargument : forall {given text : Text}, (forall c, c ∈ given -> Plain c) ->
      Unbroken (given ++ '(' :: text) -> Unbroken (balanced '(' ')' ('(' :: text)).2 := by
    intro given text hgiven hunbroken
    have hgroup := hunbroken.of_append fun c hc => (hgiven c hc).joins
    exact (unbroken_group .parentheses).mp hgroup
  cases reads with
  | id _ hname => exact h.of_append (hmark (by decide) hname)
  | className _ hname => exact h.of_append (hmark (by decide) hname)
  | tag hraw => exact h.of_append fun c hc => (plain_of_tagChar (hraw c hc)).joins
  | bracketed hgroup =>
      have hleft := (unbroken_group .brackets).mp h
      rwa [hgroup] at hleft
  | universal =>
      have hstar : Plain '*' := by decide
      exact (unbroken_joins hstar.joins).mp h
  | index hgiven hpast hvalue =>
      rcases past_parenthesis_cases hpast with rfl | ⟨_, rfl⟩
      · have hleft := hargument hgiven h
        rwa [((closed_of_readInt32? hvalue).neutral .parentheses).balanced .parentheses] at hleft
      · exact unbroken_nil
  | has hgiven hgroup =>
      have hleft := hargument hgiven h
      rwa [hgroup] at hleft
  | not hgiven hgroup =>
      have hleft := hargument hgiven h
      rwa [hgroup] at hleft
  | containsText hgiven hgroup =>
      have hleft := hargument hgiven h
      rwa [hgroup] at hleft
  | matchesText hgiven hgroup =>
      have hleft := hargument hgiven h
      rwa [hgroup] at hleft

end Left

end Selector
end TreeQuery
