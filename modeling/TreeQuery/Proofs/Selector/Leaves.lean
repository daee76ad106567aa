import TreeQuery.Proofs.Selector.Characters
import TreeQuery.Proofs.Text.Numeral

/-!
# Simple selectors are read back

A simple selector without a selector inside is read back from its text, and the text behind it is
left.  Its text closes every group that it opens and has no separator outside of groups.
-/

namespace TreeQuery
namespace Selector

open Scan Grammar

/-! # Texts that can stand in a compound -/

/-- Every group in the text is closed, no separator stands outside of groups, and no white space
at the ends. -/
structure Solid (text : Text) : Prop where
  closed : Closed text
  whole : Whole text
  tight : Text.Tight text

theorem Solid.append {first second : Text} (hfirst : Solid first) (hsecond : Solid second) :
    Solid (first ++ second) :=
  ⟨hfirst.closed.append hsecond.closed, hfirst.whole.append hsecond.whole,
    hfirst.tight.append hsecond.tight⟩

theorem solid_of_plain {text : Text} (hne : text ≠ []) (h : forall c, c ∈ text -> Plain c) :
    Solid text :=
  ⟨closed_of_plain h, whole_of_plain h, tight_of_plain hne h⟩

theorem Closed.solid {text : Text} (h : Closed text) {opening closing : Char}
    (pair : Pair opening closing) : Solid (opening :: text ++ [closing]) := by
  have hopening : Text.isWhitespace opening = false := by
    cases pair <;> decide
  have hclosing : Text.isWhitespace closing = false := by
    cases pair <;> decide
  constructor
  case closed => exact h.enclose pair
  case whole => exact h.whole pair
  case tight =>
    exact ⟨⟨opening, text ++ [closing], rfl, hopening⟩, ⟨opening :: text, closing, rfl, hclosing⟩⟩

/-! # Tests on attributes -/

theorem upToAny_append {text : Text} (rest : Text) (h : forall c, c ∈ text -> c ∉ operatorStarts) :
    upToAny attributeMarks (text ++ rest) =
      (text ++ (upToAny attributeMarks rest).1, (upToAny attributeMarks rest).2) :=
  upTo_append rest fun c hc more => not_startsWithAny (h c hc) more

theorem Grammar.Blank.not_operatorStart (blank : Blank) :
    forall c, c ∈ blank.text -> c ∉ operatorStarts :=
  fun c hc => Text.not_mem_of_test (by decide) (blank.spaces c hc)

theorem Grammar.Key.not_operatorStart (key : Key) :
    forall c, c ∈ key.text -> c ∉ operatorStarts :=
  fun c hc => Text.not_mem_of_test (by decide +kernel) (key.characters c hc)

theorem foldAscii_isEmpty {text : Text} (h : text ≠ []) : (Text.foldAscii text).isEmpty = false := by
  cases text with
  | nil => exact absurd rfl h
  | cons c rest => rfl

section Clauses

variable {query rest : Text}

theorem attributeTest_of_end [Pattern.Engine] {name key : Text}
    (hname : upToAny attributeMarks name = (name, [])) (hkey : Text.trim name = key)
    (hne : key ≠ []) :
    attributeTest query rest name = presenceTest query rest (Text.foldAscii key) := by
  unfold attributeTest
  simp only [hname, hkey, foldAscii_isEmpty hne]
  rfl

theorem attributeTest_of_operator [Pattern.Engine] {name key after : Text}
    (hname : upToAny attributeMarks (name ++ after) = (name, after)) (hkey : Text.trim name = key)
    (hne : key ≠ []) (hafter : after ≠ []) (hstops : Stops Text.isWhitespace after) :
    attributeTest query rest (name ++ after) = operatorTest query (Text.foldAscii key) after := by
  have hskip : (skipWhitespace after).2 = after := dropWhile_of_stops hstops
  have hempty : after.isEmpty = false := List.isEmpty_eq_false_iff.mpr hafter
  unfold attributeTest
  simp only [hname, hkey, hskip, hempty, foldAscii_isEmpty hne]
  rfl

theorem presenceTest_key (key : Key) :
    presenceTest query rest (Text.foldAscii key.text) =
      .ok (.present (Text.foldAscii key.text)) := by
  have hhead : forall more, Text.foldAscii key.text ≠ '^' :: more := by
    intro more heq
    have hmem : '^' ∈ Text.foldAscii key.text := by
      rw [heq]
      exact List.mem_cons_self
    rcases List.mem_map.mp hmem with ⟨c, hc, hlower⟩
    rw [Text.eq_of_toLower_eq_caret hlower] at hc
    exact key.not_operatorStart '^' hc (by decide)
  unfold presenceTest
  split
  · rename_i heq
    exact absurd heq (hhead [])
  · rename_i heq
    exact absurd heq (hhead _)
  · rfl

theorem presenceTest_start (start : Key) :
    presenceTest query rest (Text.foldAscii ('^' :: start.text)) =
      .ok (.nameStartsWith (Text.foldAscii start.text)) := by
  cases htext : start.text with
  | nil => exact absurd htext start.nonempty
  | cons c more => rfl

theorem upToAny_caret (start : Key) (after : Blank) :
    upToAny attributeMarks ('^' :: start.text ++ after.text) =
      ('^' :: start.text ++ after.text, []) := by
  have hquiet : forall c, c ∈ start.text ++ after.text -> c ∉ operatorStarts := by
    intro c hc
    rcases List.mem_append.mp hc with hc | hc
    · exact start.not_operatorStart c hc
    · exact after.not_operatorStart c hc
  have hrest : upToAny attributeMarks (start.text ++ after.text) =
      (start.text ++ after.text, []) := by
    have h := upToAny_append [] hquiet
    rw [List.append_nil] at h
    rw [h]
    simp [upToAny, upTo]
  have hcaret : startsWithAny attributeMarks ('^' :: (start.text ++ after.text)) = false := by
    cases htext : start.text with
    | nil => exact absurd htext start.nonempty
    | cons c more =>
        have hequals : Text.sameLetter c '=' = false := by
          apply Bool.eq_false_iff.mpr
          intro hletter
          apply start.not_operatorStart c
          · rw [htext]
            exact List.mem_cons_self
          · rw [Text.eq_of_sameLetter (by decide +kernel) hletter]
            decide
        show (Text.sameLetter c '=' && true || false) = false
        rw [hequals]
        rfl
  rw [List.cons_append]
  unfold upToAny at hrest ⊢
  rw [upTo, hcaret, hrest]
  rfl

theorem attributeValue_quoted (inner : Blank) {written value : Text} (h : Unescapes written value)
    (after : Blank) :
    attributeValue (inner.text ++ ('"' :: written ++ ['"'] ++ after.text)) =
      Text.lower (Text.trim value) := by
  have hblank : forall blank : Blank, Unescapes blank.text blank.text := by
    intro blank
    apply unescapes_of_all
    rintro c hc rfl
    have hspace := blank.spaces _ hc
    revert hspace
    decide
  have hquote : Unescapes ['"'] ['"'] := unescapes_char (by decide)
  have hquoted : Unescapes ('"' :: written ++ ['"']) ('"' :: value ++ ['"']) :=
    (hquote.append h).append hquote
  have htight : Text.Tight ('"' :: value ++ ['"']) :=
    ⟨⟨'"', value ++ ['"'], rfl, by decide⟩, ⟨'"' :: value, '"', rfl, by decide⟩⟩
  unfold attributeValue
  rw [((hblank inner).append (hquoted.append (hblank after))).unescape_eq,
    Text.trim_blanks htight inner.spaces after.spaces, dropQuotes_quoted]

theorem upToAny_operator {name after : Text} (hname : forall c, c ∈ name -> c ∉ operatorStarts)
    (hafter : upToAny attributeMarks after = ([], after)) :
    upToAny attributeMarks (name ++ after) = (name, after) := by
  rw [upToAny_append after hname, hafter, List.append_nil]

theorem Grammar.Key.not_operatorStart_around (key : Key) (before after : Blank) :
    forall c, c ∈ before.text ++ (key.text ++ after.text) -> c ∉ operatorStarts := by
  intro c hc
  rcases List.mem_append.mp hc with hc | hc
  · exact before.not_operatorStart c hc
  · rcases List.mem_append.mp hc with hc | hc
    · exact key.not_operatorStart c hc
    · exact after.not_operatorStart c hc

theorem Grammar.Key.tight (key : Key) : Text.Tight key.text :=
  tight_of_plain key.nonempty key.plain

theorem Grammar.Key.trim (key : Key) (before after : Blank) :
    Text.trim (before.text ++ (key.text ++ after.text)) = key.text :=
  Text.trim_blanks key.tight before.spaces after.spaces

/-- The operator is recognized whatever stands behind it, and only a missing value is refused. -/
theorem operatorTest_comparison [Pattern.Engine]
    (query key : Text) (comparison : ValueComparison) (raw : Text) :
    operatorTest query key (comparison.mark ++ raw) =
      if (attributeValue raw).isEmpty then .error (.emptyAttributeValue key comparison.mark query)
      else .ok (.compare comparison key (attributeValue raw)) := by
  have hpattern : startsWith patternMark (comparison.mark ++ raw) = false := by
    cases comparison <;> rfl
  have hfind : comparisons.find? (fun other => startsWith other.mark (comparison.mark ++ raw)) =
      some comparison := by
    cases comparison <;> rfl
  unfold operatorTest
  rw [hpattern, hfind]
  simp only [List.drop_left]
  rfl

theorem operatorTest_compare [Pattern.Engine]
    (query key : Text) (comparison : ValueComparison) {raw value : Text}
    (hvalue : attributeValue raw = value) (hne : value ≠ []) :
    operatorTest query key (comparison.mark ++ raw) = .ok (.compare comparison key value) := by
  have hempty : ¬ value.isEmpty = true := by simp [hne]
  rw [operatorTest_comparison, hvalue, if_neg hempty]

theorem attributeTest_compare [Pattern.Engine]
    {name key : Text} (comparison : ValueComparison) {raw value : Text}
    (hname : forall c, c ∈ name -> c ∉ operatorStarts) (hkey : Text.trim name = key)
    (hne : key ≠ []) (hvalue : attributeValue raw = value) (hvisible : value ≠ []) :
    attributeTest query rest (name ++ (comparison.mark ++ raw)) =
      .ok (.compare comparison (Text.foldAscii key) value) := by
  have hoperator : upToAny attributeMarks (comparison.mark ++ raw) =
      ([], comparison.mark ++ raw) := by
    cases comparison <;> rfl
  have hafter : comparison.mark ++ raw ≠ [] := by
    cases comparison <;> exact List.cons_ne_nil _ _
  have hstops : Stops Text.isWhitespace (comparison.mark ++ raw) := by
    cases comparison <;> (rintro c ⟨⟩; decide)
  rw [attributeTest_of_operator (upToAny_operator hname hoperator) hkey hne hafter hstops,
    operatorTest_compare query (Text.foldAscii key) comparison hvalue hvisible]

theorem operatorTest_source [Pattern.Engine] (query key source : Text) :
    operatorTest query key (patternMark ++ source) =
      match Pattern.compile? source with
      | some pattern => .ok (.matchesPattern key pattern)
      | none => .error (.invalidRegex source) := by
  have hpattern : startsWith patternMark (patternMark ++ source) = true := rfl
  unfold operatorTest compilePattern
  rw [if_pos hpattern, List.drop_left]
  cases Pattern.compile? source with
  | none => rfl
  | some pattern => rfl

theorem operatorTest_pattern [Pattern.Engine] {key : Text} (expression : Expression) :
    operatorTest query key (patternMark ++ expression.source) =
      .ok (.matchesPattern key expression.pattern) := by
  rw [operatorTest_source, expression.compiles]

theorem Grammar.Clause.attributeTest_eq [Pattern.Engine] (clause : Clause) :
    attributeTest query rest clause.write = .ok clause.meaning := by
  cases clause with
  | present before key after =>
      have hname : upToAny attributeMarks (before.text ++ (key.text ++ after.text)) =
          (before.text ++ (key.text ++ after.text), []) := by
        have h : upToAny attributeMarks [] = ([], []) := rfl
        have h := upToAny_operator (key.not_operatorStart_around before after) h
        rwa [List.append_nil] at h
      show attributeTest query rest (before.text ++ (key.text ++ after.text)) = _
      rw [attributeTest_of_end hname (key.trim before after) key.nonempty, presenceTest_key]
      rfl
  | nameStartsWith before start after =>
      have hname : upToAny attributeMarks (before.text ++ ('^' :: start.text ++ after.text)) =
          (before.text ++ ('^' :: start.text ++ after.text), []) := by
        rw [upToAny_append _ before.not_operatorStart, upToAny_caret]
      have hcaret : Text.Tight ['^'] := Text.tight_char (by decide)
      have htrim : Text.trim (before.text ++ ('^' :: start.text ++ after.text)) =
          '^' :: start.text :=
        Text.trim_blanks (hcaret.append start.tight) before.spaces after.spaces
      show attributeTest query rest (before.text ++ ('^' :: start.text ++ after.text)) = _
      rw [attributeTest_of_end hname htrim (by simp), presenceTest_start]
      rfl
  | compare before key between comparison inner value after =>
      have hshape : (Clause.compare before key between comparison inner value after).write =
          (before.text ++ (key.text ++ between.text)) ++ (comparison.mark ++
            (inner.text ++ ('"' :: escape value.text ++ ['"'] ++ after.text))) := by
        simp [Clause.write]
      have hvalue := attributeValue_quoted inner (unescapes_escape value.clean) after
      have hvisible := Text.lower_ne_nil (Text.trim_ne_nil value.visible)
      rw [hshape]
      exact attributeTest_compare comparison (key.not_operatorStart_around before between)
        (key.trim before between) key.nonempty hvalue hvisible
  | matchesPattern before key between expression =>
      have hshape : (Clause.matchesPattern before key between expression).write =
          (before.text ++ (key.text ++ between.text)) ++ (patternMark ++ expression.source) := by
        simp [Clause.write]
      have hoperator : upToAny attributeMarks (patternMark ++ expression.source) =
          ([], patternMark ++ expression.source) := rfl
      have hname := upToAny_operator (key.not_operatorStart_around before between) hoperator
      have hstops : Stops Text.isWhitespace (patternMark ++ expression.source) := by
        rintro c ⟨⟩
        decide
      rw [hshape, attributeTest_of_operator hname (key.trim before between) key.nonempty
        (List.cons_ne_nil _ _) hstops, operatorTest_pattern]
      rfl

end Clauses

theorem closed_operator {mark : Text} (h : mark ∈ attributeMarks) : Closed mark := by
  have hmarks : attributeMarks.all (fun mark =>
      mark.all (fun c => decide (IsOrdinary c ∧ isDelimiter c = false))) = true := by
    decide
  apply closed_of_all
  intro c hc
  exact of_decide_eq_true (List.all_eq_true.mp (List.all_eq_true.mp hmarks mark h) c hc)

theorem Grammar.Clause.closed [Pattern.Engine] (clause : Clause) : Closed clause.write := by
  cases clause with
  | present before key after =>
      exact before.closed.append ((closed_of_plain key.plain).append after.closed)
  | nameStartsWith before start after =>
      have hcaret : Closed ['^'] := closed_char (by decide) (by decide)
      exact before.closed.append ((hcaret.append (closed_of_plain start.plain)).append after.closed)
  | compare before key between comparison inner value after =>
      have hquote : Closed ['"'] := closed_char (by decide) (by decide)
      have hvalue : Closed ('"' :: escape value.text ++ ['"']) :=
        (hquote.append (closed_escape value.clean)).append hquote
      have hmark : Closed comparison.mark := by
        apply closed_operator
        cases comparison <;> decide
      exact before.closed.append ((closed_of_plain key.plain).append (between.closed.append
        (hmark.append (inner.closed.append (hvalue.append after.closed)))))
  | matchesPattern before key between expression =>
      have hmark : Closed patternMark := closed_operator (by decide)
      exact before.closed.append ((closed_of_plain key.plain).append (between.closed.append
        (hmark.append expression.closed)))

/-! # Pseudo-classes -/

theorem PseudoClass.plain_name (pseudo : PseudoClass) : forall c, c ∈ pseudo.name -> Plain c := by
  have hnames : list.all (fun pseudo => pseudo.name.all (fun c => decide (Plain c))) = true := by
    decide
  have hmem : pseudo ∈ list := by
    cases pseudo with
    | index comparison => cases comparison <;> decide
    | has => decide
    | not => decide
    | contains => decide
    | matchesPattern => decide
  intro c hc
  exact of_decide_eq_true (List.all_eq_true.mp (List.all_eq_true.mp hnames pseudo hmem) c hc)

theorem PseudoClass.solid (pseudo : PseudoClass) {argument : Text} (h : Closed argument) :
    Solid (pseudo.name ++ ('(' :: argument ++ [')'])) := by
  have hne : pseudo.name ≠ [] := by
    cases pseudo <;> exact List.cons_ne_nil _ _
  exact (solid_of_plain hne pseudo.plain_name).append (h.solid .parentheses)

/-- No name of a pseudo-class with its parenthesis starts another. -/
theorem PseudoClass.find?_name (pseudo : PseudoClass) (rest : Text) :
    find? (pseudo.name ++ '(' :: rest) = some pseudo := by
  cases pseudo with
  | index comparison => cases comparison <;> rfl
  | has => rfl
  | not => rfl
  | contains => rfl
  | matchesPattern => rfl

section Reading

variable {inner : Text -> Report Matcher} {query rest : Text}

theorem simpleTest_pseudo [Pattern.Engine] (pseudo : PseudoClass) (text : Text) :
    simpleTest inner query (pseudo.name ++ '(' :: text) =
      pseudoTest inner query pseudo (pseudo.name ++ '(' :: text) := by
  have hfind := PseudoClass.find?_name pseudo text
  have hname : exists more, pseudo.name = ':' :: more := by
    cases pseudo <;> exact ⟨_, rfl⟩
  rcases hname with ⟨more, hname⟩
  rw [hname, List.cons_append] at hfind ⊢
  have halphanumeric : Text.isAlphanumeric ':' = false := by decide +kernel
  unfold simpleTest
  simp only [halphanumeric, hfind]
  rfl

theorem argumentOf_name (pseudo : PseudoClass) (text : Text) :
    argumentOf pseudo (pseudo.name ++ '(' :: text) = pure (balanced '(' ')' ('(' :: text)) := by
  rw [argumentOf_eq (PseudoClass.startsWith_of_find? (PseudoClass.find?_name pseudo text)),
    List.drop_left]

theorem argumentOf_closed (pseudo : PseudoClass) {argument : Text} (h : Closed argument) :
    argumentOf pseudo (pseudo.name ++ '(' :: (argument ++ ')' :: rest)) = pure (argument, rest) := by
  rw [argumentOf_name, (h.neutral .parentheses).balanced .parentheses rest]

theorem Grammar.Index.plain (index : Index) : forall c, c ∈ Text.ofInt index.value -> Plain c := by
  intro c hc
  rcases Text.mem_ofInt hc with rfl | hdigit
  · decide
  · exact plain_of_alphanumeric (Text.alphanumeric_of_isDigit hdigit)

theorem closed_index (before : Blank) (argument : Index) (after : Blank) :
    Closed (before.text ++ (Text.ofInt argument.value ++ after.text)) :=
  before.closed.append ((closed_of_plain argument.plain).append after.closed)

theorem past_parenthesis {text : Text} (h : forall c, c ∈ text -> c ≠ ')') :
    past ")" (text ++ ')' :: rest) = (text, rest) := by
  have hfound : forall c, c ∈ text -> forall more, List.isPrefixOf [')'] (c :: more) = false := by
    intro c hc more
    have hc : (')' == c) = false := beq_eq_false_iff_ne.mpr (Ne.symm (h c hc))
    show (')' == c && List.isPrefixOf [] more) = false
    rw [hc]
    rfl
  have hupTo : upToMark ")" (text ++ ')' :: rest) = (text, ')' :: rest) := by
    show upTo (List.isPrefixOf [')']) (text ++ ')' :: rest) = (text, ')' :: rest)
    rw [upTo_append _ hfound]
    simp [upTo]
  unfold past
  rw [hupTo]
  rfl

theorem indexTest_eq (comparison : IndexComparison) (before : Blank) (argument : Index)
    (after : Blank) :
    (indexTest query comparison
      ((before.text ++ (Text.ofInt argument.value ++ after.text)) ++ ')' :: rest)).result =
      .ok (.index comparison argument.value, rest) := by
  have hne : forall c, c ∈ before.text ++ (Text.ofInt argument.value ++ after.text) -> c ≠ ')' := by
    rintro c hc rfl
    rcases List.mem_append.mp hc with hc | hc
    · exact absurd (before.spaces _ hc) (by decide)
    · rcases List.mem_append.mp hc with hc | hc
      · exact absurd (argument.plain _ hc).delimiter (by decide)
      · exact absurd (after.spaces _ hc) (by decide)
  have htrim : Text.trim (before.text ++ (Text.ofInt argument.value ++ after.text)) =
      Text.ofInt argument.value :=
    Text.trim_blanks (tight_of_plain (Text.ofInt_ne_nil _) argument.plain) before.spaces after.spaces
  unfold indexTest
  simp only [past_parenthesis hne, htrim, Text.readInt32?_ofInt argument.fits]

theorem simpleTest_bracketed [Pattern.Engine] {clause : Text} {test : AttributeTest}
    (hclause : Neutral '[' ']' clause) (htest : attributeTest query rest clause = .ok test) :
    (simpleTest inner query ('[' :: clause ++ [']'] ++ rest)).result =
      .ok (.attribute test, rest) := by
  have hgroup : balanced '[' ']' ('[' :: (clause ++ ']' :: rest)) = (clause, rest) :=
    hclause.balanced .brackets rest
  have halphanumeric : Text.isAlphanumeric '[' = false := by decide +kernel
  have hshape : '[' :: clause ++ [']'] ++ rest = '[' :: (clause ++ ']' :: rest) := by simp
  rw [hshape]
  unfold simpleTest
  simp only [halphanumeric, hgroup, htest]
  rfl

theorem Grammar.Leaf.simpleTest_eq [Pattern.Engine] (leaf : Leaf) (hrest : Stops isTagChar rest) :
    (simpleTest inner query (leaf.write ++ rest)).result = .ok (leaf.meaning, rest) := by
  cases leaf with
  | id name =>
      show (Report.ofExcept (idTest query (name.text ++ rest))).result = _
      unfold idTest
      rw [name.run_write hrest]
      simp only [name.not_empty]
      rfl
  | className name =>
      show (Report.ofExcept (classTest query (name.text ++ rest))).result = _
      unfold classTest
      rw [name.run_write hrest]
      simp only [name.not_empty]
      rfl
  | bracketed clause =>
      exact simpleTest_bracketed (clause.closed.neutral .brackets) clause.attributeTest_eq
  | universal =>
      have halphanumeric : Text.isAlphanumeric '*' = false := by decide +kernel
      show (simpleTest inner query ('*' :: rest)).result = _
      unfold simpleTest
      simp only [halphanumeric]
      rfl
  | index comparison before argument after =>
      have hshape : (Leaf.index comparison before argument after).write ++ rest =
          (PseudoClass.index comparison).name ++ '(' ::
            ((before.text ++ (Text.ofInt argument.value ++ after.text)) ++ ')' :: rest) := by
        simp [Leaf.write]
      rw [hshape, simpleTest_pseudo]
      unfold pseudoTest
      simp only [List.drop_left, List.tail_cons]
      exact indexTest_eq comparison before argument after
  | containsText needle =>
      have hshape : (Leaf.containsText needle).write ++ rest =
          PseudoClass.contains.name ++ '(' :: (escape needle.text ++ ')' :: rest) := by
        simp [Leaf.write]
      have hempty : needle.text.isEmpty = false := List.isEmpty_eq_false_iff.mpr needle.nonempty
      rw [hshape, simpleTest_pseudo]
      unfold pseudoTest
      simp only [argumentOf_closed .contains (closed_escape needle.clean), Report.pure_bind,
        (unescapes_escape needle.clean).unescape_eq, hempty]
      rfl
  | matchesText expression =>
      have hshape : (Leaf.matchesText expression).write ++ rest =
          PseudoClass.matchesPattern.name ++ '(' :: (expression.source ++ ')' :: rest) := by
        simp [Leaf.write]
      have hempty : expression.source.isEmpty = false :=
        List.isEmpty_eq_false_iff.mpr expression.nonempty
      rw [hshape, simpleTest_pseudo]
      unfold pseudoTest compilePattern
      simp only [argumentOf_closed .matchesPattern expression.closed, Report.pure_bind, hempty,
        expression.compiles]
      rfl

end Reading

theorem Grammar.Name.solid (name : Name) {mark : Char} (h : Plain mark) :
    Solid (mark :: name.text) := by
  apply solid_of_plain (List.cons_ne_nil _ _)
  intro c hc
  cases hc with
  | head => exact h
  | tail _ hc => exact name.plain c hc

theorem Grammar.Leaf.solid [Pattern.Engine] (leaf : Leaf) : Solid leaf.write := by
  cases leaf with
  | id name => exact name.solid (by decide)
  | className name => exact name.solid (by decide)
  | bracketed clause => exact clause.closed.solid .brackets
  | universal =>
      apply solid_of_plain (List.cons_ne_nil _ _)
      intro c hc
      rw [List.mem_singleton.mp hc]
      decide
  | index comparison before argument after =>
      exact PseudoClass.solid _ (closed_index before argument after)
  | containsText needle => exact PseudoClass.solid _ (closed_escape needle.clean)
  | matchesText expression => exact PseudoClass.solid _ expression.closed

end Selector
end TreeQuery
