import TreeQuery.Pattern.Search
import TreeQuery.Proofs.Selector.Steps

/-!
# Where a reading fails

A text that is not a selector is refused with an error that shows a place in the selector, or in
one within it, at which no element of a selector starts or something is missing.  Which part of a
selector was being read when the error arose does not matter, so that every part is shown to fail
in this way only.
-/

namespace TreeQuery
namespace Selector

open Scan

/-! # Errors that show a place -/

structure EndsQuery (query remainder : Text) : Prop where
  trimmed : Text.trim query = query
  suffix : remainder <:+ query

/-- Neither a simple selector nor a separator starts the text. -/
structure Foreign (text : Text) : Prop where
  letter : forall c, text.head? = some c -> Text.isAlphanumeric c = false
  space : forall c, text.head? = some c -> Text.isWhitespace c = false
  mark : forall c, text.head? = some c -> c ∉ [',', '>', '+', '~', '#', '.', '[', '*']
  pseudo : forall pseudo, pseudo ∈ PseudoClass.list ->
    startsWith (pseudo.name ++ "(") text = false

/-- What has to be named in a selector, apart from the tag, which is read only where it starts. -/
def nameKinds : List Text :=
  ["id", "class name", "attribute name", "attribute name prefix"]

/-- The error shows the place where it arose. -/
def ParseError.Locates [Pattern.Engine] : ParseError -> Prop
  | .unexpectedToken query remainder =>
      EndsQuery query remainder ∧ (remainder = [] ↔ query = []) ∧ Foreign remainder
  | .expectedSequence _ _ => False
  | .invalidIndex query argument =>
      Text.trim query = query ∧ Text.trim argument = argument ∧ argument <:+: query
  | .emptyArgument pseudo query remainder =>
      EndsQuery query remainder ∧ startsWith (pseudo ++ "(") remainder = true
  | .nestingTooDeep limit query _ => limit = maxNesting ∧ Text.trim query = query
  | .emptyName kind query remainder => kind ∈ nameKinds ∧ EndsQuery query remainder
  | .emptyAttributeValue _ _ query => Text.trim query = query
  | .invalidRegex pattern => Pattern.compile? pattern = none

/-! # Parts that fail in this way only -/

namespace Report

variable [Pattern.Engine] {α β : Type}

def FailsInPlace (report : Report α) : Prop :=
  forall error, report.result = .error error -> error.Locates

theorem FailsInPlace.pure (value : α) : (Pure.pure value : Report α).FailsInPlace := by
  intro error h
  cases h

theorem FailsInPlace.fail {error : ParseError} (h : error.Locates) :
    (Report.fail error : Report α).FailsInPlace := by
  intro other hother
  cases hother
  exact h

theorem FailsInPlace.ofExcept {result : Except ParseError α}
    (h : forall error, result = .error error -> error.Locates) :
    (Report.ofExcept result).FailsInPlace :=
  h

theorem FailsInPlace.bind {report : Report α} {continuation : α -> Report β}
    (h : report.FailsInPlace)
    (hcontinuation : forall value, report.result = .ok value ->
      (continuation value).FailsInPlace) :
    (report >>= continuation).FailsInPlace := by
  intro error herror
  rw [result_bind] at herror
  cases hresult : report.result with
  | error found =>
      rw [hresult] at herror
      cases herror
      exact h error hresult
  | ok value =>
      rw [hresult] at herror
      exact hcontinuation value hresult error herror

end Report

/-! # Attribute tests -/

theorem found_of_upTo (found : Text -> Bool) (text : Text) :
    (upTo found text).2 = [] ∨ found (upTo found text).2 = true := by
  induction text with
  | nil => exact Or.inl rfl
  | cons c rest ih =>
      rw [upTo]
      cases hfound : found (c :: rest) with
      | true => exact Or.inr hfound
      | false => exact ih

theorem not_whitespace_of_startsWithAny {c : Char} {rest : Text}
    (h : startsWithAny attributeMarks (c :: rest) = true) : Text.isWhitespace c = false := by
  have hstarts : operatorStarts.all (fun c => !Text.isWhitespace c) = true := by decide
  have hc : c ∈ operatorStarts := by
    apply Classical.not_not.mp
    intro hnot
    rw [not_startsWithAny hnot] at h
    cases h
  simpa using List.all_eq_true.mp hstarts c hc

theorem operator_behind_name (clause : Text) :
    (skipWhitespace (upToAny attributeMarks clause).2).2 = [] ∨
      startsWithAny attributeMarks (skipWhitespace (upToAny attributeMarks clause).2).2 = true := by
  have hfound := found_of_upTo (startsWithAny attributeMarks) clause
  unfold upToAny
  generalize (upTo (startsWithAny attributeMarks) clause).2 = after at hfound
  cases after with
  | nil => exact Or.inl rfl
  | cons c rest =>
      rcases hfound with hnone | hmark
      · cases hnone
      · have hkept : (skipWhitespace (c :: rest)).2 = c :: rest :=
          List.dropWhile_cons_of_neg (by simp [not_whitespace_of_startsWithAny hmark])
        rw [hkept]
        exact Or.inr hmark

theorem compilePattern_locates [Pattern.Engine] {source : Text} {error : ParseError}
    (h : compilePattern source = .error error) : error.Locates := by
  unfold compilePattern at h
  split at h
  · cases h
  · rename_i hcompile
    cases h
    exact hcompile

/-- One of the operators is there, so that none is missing. -/
theorem operatorTest_locates [Pattern.Engine]
    {query key after : Text} (hquery : Text.trim query = query)
    (hmark : startsWithAny attributeMarks after = true) {error : ParseError}
    (h : operatorTest query key after = .error error) : error.Locates := by
  unfold operatorTest at h
  split at h
  · cases hpattern : compilePattern (after.drop patternMark.length) with
    | error found =>
        rw [hpattern] at h
        cases h
        exact compilePattern_locates hpattern
    | ok pattern =>
        rw [hpattern] at h
        cases h
  · rename_i hnot
    split at h
    · rename_i hnone
      rcases List.any_eq_true.mp hmark with ⟨mark, hmem, hstart⟩
      rcases List.mem_append.mp hmem with hmem | hmem
      · rcases List.mem_map.mp hmem with ⟨comparison, hcomparison, hsame⟩
        have hmissing := List.find?_eq_none.mp hnone comparison hcomparison
        rw [hsame] at hmissing
        exact absurd hstart hmissing
      · rw [List.mem_singleton.mp hmem] at hstart
        exact absurd hstart hnot
    · simp only at h
      split at h
      · cases h
        exact hquery
      · cases h

theorem presenceTest_locates [Pattern.Engine] {query rest key : Text} (hends : EndsQuery query rest)
    {error : ParseError} (h : presenceTest query rest key = .error error) : error.Locates := by
  unfold presenceTest at h
  split at h
  · cases h
    exact ⟨by decide, hends⟩
  · cases h
  · cases h

theorem attributeTest_locates [Pattern.Engine]
    {query rest clause : Text} (hends : EndsQuery query rest)
    {error : ParseError} (h : attributeTest query rest clause = .error error) : error.Locates := by
  have hoperator := operator_behind_name clause
  unfold attributeTest at h
  simp only at h
  split at h
  · cases h
    exact ⟨by decide, hends⟩
  · split at h
    · exact presenceTest_locates hends h
    · rename_i hmore
      rcases hoperator with hnone | hmark
      · rw [hnone] at hmore
        exact absurd rfl hmore
      · exact operatorTest_locates hends.trimmed hmark h

/-! # Simple selectors -/

theorem isInfix_trim (text : Text) : Text.trim text <:+: text := by
  rcases Text.exists_trim text with ⟨before, after, htext, _⟩
  exact ⟨before, after, by rw [List.append_assoc, ← htext]⟩

section Reading

variable [Pattern.Engine] {inner : Text -> Report Matcher} {query rest : Text}

omit [Pattern.Engine] in
theorem EndsQuery.of_suffix {left : Text} (h : EndsQuery query rest) (hleft : left <:+ rest) :
    EndsQuery query left :=
  ⟨h.trimmed, hleft.trans h.suffix⟩

theorem name_locates {mark : Char} {kind : Text} (hkind : kind ∈ nameKinds)
    (make : Text -> Matcher) (hends : EndsQuery query (mark :: rest)) {error : ParseError}
    (h : (if (run isNameChar rest).1.isEmpty then
        Except.error (.emptyName kind query (run isNameChar rest).2)
      else .ok (make (run isNameChar rest).1, (run isNameChar rest).2)) = .error error) :
    error.Locates := by
  split at h
  · cases h
    have hleft : (run isNameChar rest).2 <:+ rest := List.dropWhile_suffix _
    exact ⟨hkind, hends.of_suffix (hleft.trans (List.suffix_cons mark rest))⟩
  · cases h

omit [Pattern.Engine] in
theorem tagTest_ne_error {c : Char} (hc : Text.isAlphanumeric c = true) (error : ParseError) :
    tagTest query (c :: rest) ≠ .error error := by
  have htag : isTagChar c = true := by simp [isTagChar, hc]
  have hraw : (run isTagChar (c :: rest)).1 = c :: rest.takeWhile isTagChar :=
    List.takeWhile_cons_of_pos htag
  have hspace := not_whitespace_of_not_separator (plain_of_alphanumeric hc).separator
  have htrim : Text.trim (c :: rest.takeWhile isTagChar) ≠ [] :=
    Text.trim_ne_nil ⟨c, List.mem_cons_self, hspace⟩
  intro h
  unfold tagTest at h
  simp only [hraw] at h
  split at h
  · rename_i hempty
    refine Text.lower_ne_nil ?_ (List.isEmpty_iff.mp hempty)
    intro hnone
    exact htrim (List.map_eq_nil_iff.mp hnone)
  · cases h

theorem indexTest_fails {comparison : IndexComparison} (hquery : Text.trim query = query)
    (hrest : rest <:+: query) : (indexTest query comparison rest).FailsInPlace := by
  rcases hpast : past ")" rest with ⟨raw, left⟩
  have hraw : raw <:+: rest := by
    rcases past_parenthesis_cases hpast with rfl | ⟨rfl, _⟩
    · exact (List.prefix_append raw _).isInfix
    · exact List.infix_rfl
  intro error h
  simp only [indexTest, hpast] at h
  split at h
  · cases h
    exact ⟨hquery, Text.trim_trim raw, ((isInfix_trim raw).trans hraw).trans hrest⟩
  · cases h

theorem pseudoTest_fails (hinner : forall text, (inner text).FailsInPlace)
    {pseudo : PseudoClass} (hends : EndsQuery query rest)
    (hstart : startsWith (pseudo.name ++ "(") rest = true) :
    (pseudoTest inner query pseudo rest).FailsInPlace := by
  have hempty : (ParseError.emptyArgument pseudo.name query rest).Locates := ⟨hends, hstart⟩
  simp only [pseudoTest, argumentOf_eq hstart, Report.pure_bind]
  cases pseudo with
  | index comparison =>
      have hafter : (rest.drop (PseudoClass.index comparison).name.length).tail <:+ rest :=
        (List.tail_suffix _).trans (List.drop_suffix _ _)
      exact indexTest_fails hends.trimmed (hafter.trans hends.suffix).isInfix
  | has =>
      simp only
      split
      · exact .fail hempty
      · exact (hinner _).bind fun test _ => .pure _
  | not =>
      simp only
      split
      · exact .fail hempty
      · exact (hinner _).bind fun test _ => .pure _
  | contains =>
      simp only
      split
      · exact .fail hempty
      · exact .pure _
  | matchesPattern =>
      simp only
      split
      · exact .fail hempty
      · refine Report.FailsInPlace.bind (.ofExcept ?_) fun pattern _ => .pure _
        intro error
        exact compilePattern_locates

omit [Pattern.Engine] in
theorem foreign_nil : Foreign [] := by
  constructor
  case letter => exact fun c hc => nomatch hc
  case space => exact fun c hc => nomatch hc
  case mark => exact fun c hc => nomatch hc
  case pseudo => decide

omit [Pattern.Engine] in
theorem foreign_cons {c : Char} {after : Text} (hseparator : isSeparator c = false)
    (hletter : ¬Text.isAlphanumeric c = true) (hmark : c ∉ ['#', '.', '[', '*'])
    (hfind : PseudoClass.find? (c :: after) = none) : Foreign (c :: after) := by
  constructor
  case letter =>
    intro d hd
    cases hd
    exact Bool.eq_false_iff.mpr hletter
  case space =>
    intro d hd
    cases hd
    exact not_whitespace_of_not_separator hseparator
  case mark =>
    intro d hd hmem
    cases hd
    rcases List.mem_append.mp (show c ∈ Combinator.marks ++ ['#', '.', '[', '*'] from hmem)
      with hmem | hmem
    · rw [isSeparator, List.contains_iff_mem.mpr hmem] at hseparator
      cases hseparator
    · exact hmark hmem
  case pseudo =>
    intro pseudo hpseudo
    exact Bool.eq_false_iff.mpr (List.find?_eq_none.mp hfind pseudo hpseudo)

theorem simpleTest_fails (hinner : forall text, (inner text).FailsInPlace)
    (hends : EndsQuery query rest) (hempty : rest = [] -> query = [])
    (hseparator : forall c, rest.head? = some c -> isSeparator c = false) :
    (simpleTest inner query rest).FailsInPlace := by
  have hmissing : rest = [] ↔ query = [] := by
    constructor
    · exact hempty
    · intro hquery
      exact List.suffix_nil.mp (hquery ▸ hends.suffix)
  cases rest with
  | nil => exact .fail ⟨hends, hmissing, foreign_nil⟩
  | cons c after =>
      unfold simpleTest
      simp only
      split
      · rename_i hc
        exact .ofExcept fun error => name_locates (by decide) .id hends
      · rename_i hhash
        split
        · exact .ofExcept fun error =>
            name_locates (by decide) (fun name => .className (Text.lower name)) hends
        · rename_i hdot
          split
          · rename_i hletter
            exact .ofExcept fun error h => absurd h (tagTest_ne_error hletter error)
          · rename_i hletter
            split
            · refine Report.FailsInPlace.bind (.ofExcept ?_) fun test _ => .pure _
              intro error
              exact attributeTest_locates (hends.of_suffix balanced_suffix)
            · rename_i hbracket
              split
              · exact .pure _
              · rename_i hstar
                split
                · rename_i pseudo hfind
                  exact pseudoTest_fails hinner hends (PseudoClass.startsWith_of_find? hfind)
                · rename_i hfind
                  have hmark : c ∉ ['#', '.', '[', '*'] := by
                    simp [hhash, hdot, hbracket, hstar]
                  exact .fail ⟨hends, hmissing,
                    foreign_cons (hseparator c rfl) hletter hmark hfind⟩

/-! # Whole readings -/

theorem relate_fails (hinner : forall text, (inner text).FailsInPlace) {combinator : Combinator}
    {parts : List Matcher} : (relate inner combinator parts rest).FailsInPlace :=
  (hinner _).bind fun _ _ => .pure _

omit [Pattern.Engine] in
theorem skipWhitespace_of_trimmed (hquery : Text.trim query = query) :
    (skipWhitespace query).2 = query := by
  cases hcase : query with
  | nil => rfl
  | cons c after =>
      have htight : Text.Tight query := by
        rw [← hquery]
        apply Text.tight_trim
        rw [hquery, hcase]
        exact List.cons_ne_nil c after
      rcases htight.first with ⟨first, more, hfirst, hspace⟩
      rw [← hcase, hfirst]
      exact List.dropWhile_cons_of_neg (by simp [hspace])

theorem start_fails (hinner : forall text, (inner text).FailsInPlace)
    (hquery : Text.trim query = query) : (start inner query).FailsInPlace := by
  have hspace := head?_skipWhitespace query
  rw [skipWhitespace_of_trimmed hquery] at hspace
  rw [start_eq]
  simp only [skipWhitespace_of_trimmed hquery]
  split
  · exact relate_fails hinner
  · rename_i hmark
    refine (simpleTest_fails hinner ⟨hquery, List.suffix_rfl⟩ id
      (not_separator_of_ofMark? hmark hspace)).bind fun next _ => .pure _

theorem step_fails (hinner : forall text, (inner text).FailsInPlace) {progress : Progress}
    (hends : EndsQuery query progress.rest) (hne : progress.rest ≠ []) :
    (step inner query progress).FailsInPlace := by
  have hspace := head?_skipWhitespace progress.rest
  have hcases := skipWhitespace_cases progress.rest
  rw [step_eq]
  split
  · exact relate_fails hinner
  · rename_i hmark
    split
    · exact relate_fails hinner
    · rename_i hspaced
      rcases hcases with ⟨_, hskipped⟩ | hsame
      · exact absurd hskipped hspaced
      · rw [hsame] at hspace hmark ⊢
        refine (simpleTest_fails hinner hends (fun hnil => absurd hnil hne)
          (not_separator_of_ofMark? hmark hspace)).bind fun next _ => .pure _

/-- The text that is left gets shorter with every step, so that the steps are enough. -/
theorem follow_fails (hinner : forall text, (inner text).FailsInPlace) {fuel : Nat}
    {progress : Progress} (hends : EndsQuery query progress.rest)
    (hfuel : progress.rest.length ≤ fuel) : (follow inner query fuel progress).FailsInPlace := by
  induction fuel generalizing progress with
  | zero =>
      have hnil : progress.rest = [] := List.eq_nil_of_length_eq_zero (Nat.le_zero.mp hfuel)
      unfold follow
      rw [hnil]
      exact .pure _
  | succ fuel ih =>
      unfold follow
      split
      · exact .pure _
      · rename_i hempty
        have hne : progress.rest ≠ [] := fun hnil => hempty (List.isEmpty_iff.mpr hnil)
        refine (step_fails hinner hends hne).bind fun next hstep => ?_
        have hlength := length_step_lt hstep
        exact ih (hends.of_suffix (advances_of_step hstep).suffix) (by omega)

theorem parseWith_fails (hinner : forall text, (inner text).FailsInPlace)
    (hquery : Text.trim query = query) : (parseWith inner query).FailsInPlace := by
  refine (start_fails hinner hquery).bind fun first hstart => ?_
  have hleft := (advances_of_start hstart).suffix.trans (skipWhitespace_suffix query)
  exact follow_fails hinner ⟨hquery, hleft⟩ hleft.length_le

end Reading

theorem parseWithin_fails [Pattern.Engine]
    (levels : Nat) (text : Text) : (parseWithin levels text).FailsInPlace := by
  induction levels generalizing text with
  | zero => exact parseWith_fails (fun sub => .fail ⟨rfl, Text.trim_trim text⟩) (Text.trim_trim text)
  | succ levels ih => exact parseWith_fails ih (Text.trim_trim text)

/-- Every error shows the place where it arose. -/
theorem parse_error_locates [Pattern.Engine] {text : Text} {error : ParseError}
    (h : (parse text).result = .error error) : error.Locates :=
  parseWithin_fails maxNesting text error h

/-- The place is in the argument behind the comma, and not in the whole text. -/
theorem parse_error_locates_argument :
    (parse " p:not(a , ?b)>c ").result = .error (.unexpectedToken "?b" "?b") ∧
      (ParseError.unexpectedToken "?b" "?b").Locates := by
  have herror : (parse " p:not(a , ?b)>c ").result = .error (.unexpectedToken "?b" "?b") := by rfl
  exact ⟨herror, parse_error_locates herror⟩

end Selector
end TreeQuery
