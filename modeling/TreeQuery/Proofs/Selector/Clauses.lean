import TreeQuery.Pattern.Search
import TreeQuery.Proofs.Selector.Leaves

/-!
# The first equals sign of a clause

What stands between brackets is split at its first equals sign.  The operator is this sign alone
or together with the character before it, and whatever comes behind is the value, further
operators included.
-/

namespace TreeQuery
namespace Selector

open Scan

/-! # Operators -/

inductive Operator where
  | compare (comparison : ValueComparison)
  | pattern
deriving Repr, DecidableEq

namespace Operator

def mark : Operator -> Text
  | .compare comparison => comparison.mark
  | .pattern => patternMark

/-- The operator that a character makes with an equals sign behind it. -/
def ofChar? : Char -> Option Operator
  | '!' => some (.compare .differs)
  | '^' => some (.compare .startsWith)
  | '$' => some (.compare .endsWith)
  | '*' => some (.compare .contains)
  | '~' => some .pattern
  | _ => none

theorem mark_of_ofChar? {c : Char} {operator : Operator} (h : ofChar? c = some operator) :
    operator.mark = [c, '='] := by
  unfold ofChar? at h
  split at h <;> cases h <;> rfl

end Operator

/-- The name and the operator, from what stands before the first equals sign.  The last character
goes to the operator if it makes one with the sign. -/
def splitOperator (before : Text) : Text × Operator :=
  match before.getLast?.bind Operator.ofChar? with
  | some operator => (before.dropLast, operator)
  | none => (before, .compare .equals)

/-- The name, the operator and the value of a clause, if there is an equals sign in it. -/
def splitClause (clause : Text) : Option (Text × Operator × Text) :=
  match clause.dropWhile (· != '=') with
  | [] => none
  | _ :: value =>
      let (name, operator) := splitOperator (clause.takeWhile (· != '='))
      some (name, operator, value)

theorem splitClause_of_not_mem {clause : Text} (h : '=' ∉ clause) : splitClause clause = none := by
  have hdrop : clause.dropWhile (· != '=') = [] := by
    rw [List.dropWhile_eq_nil_iff]
    intro c hc
    exact bne_iff_ne.mpr (ne_of_mem_of_not_mem hc h)
  rw [splitClause, hdrop]

theorem splitClause_append {before : Text} (value : Text) (h : '=' ∉ before) :
    splitClause (before ++ '=' :: value) =
      some ((splitOperator before).1, (splitOperator before).2, value) := by
  have hbefore : forall c, c ∈ before -> (c != '=') = true :=
    fun c hc => bne_iff_ne.mpr (ne_of_mem_of_not_mem hc h)
  have hdrop : (before ++ '=' :: value).dropWhile (· != '=') = '=' :: value := by
    rw [List.dropWhile_append_of_pos hbefore]
    rfl
  have htake : (before ++ '=' :: value).takeWhile (· != '=') = before := by
    rw [List.takeWhile_append_of_pos hbefore]
    exact List.append_nil _
  rw [splitClause, hdrop, htake]

/-! # Where the operator is found -/

theorem sameLetter_settled {mark : Char} (h : Text.isSettled mark = true) (c : Char) :
    Text.sameLetter c mark = (c == mark) := by
  rw [Bool.eq_iff_iff]
  constructor
  · intro hsame
    rw [Text.eq_of_sameLetter h hsame]
    exact beq_self_eq_true mark
  · intro hsame
    rw [Text.sameLetter, hsame, Bool.true_or]

theorem startsWith_equals (rest : Text) : startsWith ['='] rest = (rest.head? == some '=') := by
  cases rest with
  | nil => rfl
  | cons c rest =>
      show (Text.sameLetter c '=' && true) = (some c == some '=')
      rw [sameLetter_settled (by decide +kernel), Bool.and_true]
      rfl

theorem startsWith_pair {mark : Char} (h : Text.isSettled mark = true) (c : Char) (rest : Text) :
    startsWith [mark, '='] (c :: rest) = (c == mark && rest.head? == some '=') := by
  rw [startsWith, sameLetter_settled h, startsWith_equals]

theorem startsWithAny_attributeMarks (c : Char) (rest : Text) :
    startsWithAny attributeMarks (c :: rest) =
      (c == '=' || (Operator.ofChar? c).isSome && rest.head? == some '=') := by
  have hmarks : startsWithAny attributeMarks (c :: rest) =
      (startsWith ['='] (c :: rest) || (startsWith ['!', '='] (c :: rest) ||
        (startsWith ['^', '='] (c :: rest) || (startsWith ['$', '='] (c :: rest) ||
          (startsWith ['*', '='] (c :: rest) || (startsWith ['~', '='] (c :: rest) || false)))))) :=
    rfl
  have hfirst : startsWith ['='] (c :: rest) = (c == '=') := startsWith_equals (c :: rest)
  rw [hmarks, hfirst, startsWith_pair (by decide +kernel), startsWith_pair (by decide +kernel),
    startsWith_pair (by decide +kernel), startsWith_pair (by decide +kernel),
    startsWith_pair (by decide +kernel)]
  generalize (rest.head? == some '=') = isFollowed
  unfold Operator.ofChar?
  split
  · cases isFollowed <;> rfl
  · cases isFollowed <;> rfl
  · cases isFollowed <;> rfl
  · cases isFollowed <;> rfl
  · cases isFollowed <;> rfl
  · rename_i hbang hcaret hdollar hstar htilde
    rw [beq_false_of_ne hbang, beq_false_of_ne hcaret, beq_false_of_ne hdollar,
      beq_false_of_ne hstar, beq_false_of_ne htilde]
    simp

theorem not_startsWithAny_attributeMarks {c : Char} {rest : Text} (hc : c ≠ '=')
    (h : Operator.ofChar? c = none ∨ rest.head? ≠ some '=') :
    startsWithAny attributeMarks (c :: rest) = false := by
  rw [startsWithAny_attributeMarks]
  rcases h with h | h
  · simp [hc, h]
  · simp [hc, h]

/-! # Where the name ends -/

theorem upToAny_of_not_mem {clause : Text} (h : '=' ∉ clause) :
    upToAny attributeMarks clause = (clause, []) := by
  induction clause with
  | nil => rfl
  | cons c rest ih =>
      rw [List.mem_cons, not_or] at h
      rcases h with ⟨hc, hrest⟩
      have hhead : rest.head? ≠ some '=' := fun hhead => hrest (List.mem_of_head? hhead)
      have ih := ih hrest
      unfold upToAny at ih ⊢
      rw [upTo, not_startsWithAny_attributeMarks (Ne.symm hc) (Or.inr hhead), ih]
      rfl

theorem splitOperator_cons_cons (c d : Char) (before : Text) :
    splitOperator (c :: d :: before) =
      (c :: (splitOperator (d :: before)).1, (splitOperator (d :: before)).2) := by
  rw [splitOperator, splitOperator, List.getLast?_cons_cons]
  cases (d :: before).getLast?.bind Operator.ofChar? with
  | none => rfl
  | some operator => rfl

/-- The name ends where the operator of the first equals sign starts. -/
theorem upToAny_append_equals {before : Text} (value : Text) (h : '=' ∉ before) :
    upToAny attributeMarks (before ++ '=' :: value) =
      ((splitOperator before).1, (splitOperator before).2.mark ++ value) := by
  induction before with
  | nil => rfl
  | cons c before ih =>
      rw [List.mem_cons, not_or] at h
      rcases h with ⟨hc, hbefore⟩
      cases before with
      | nil =>
          cases hoperator : Operator.ofChar? c with
          | none =>
              have hsplit : splitOperator [c] = ([c], .compare .equals) := by
                show (match Operator.ofChar? c with | some _ => _ | none => _) = _
                rw [hoperator]
              have hnot : startsWithAny attributeMarks (c :: '=' :: value) = false :=
                not_startsWithAny_attributeMarks (Ne.symm hc) (Or.inl hoperator)
              rw [hsplit]
              show upTo (startsWithAny attributeMarks) (c :: '=' :: value) = _
              rw [upTo, hnot]
              rfl
          | some operator =>
              have hsplit : splitOperator [c] = ([], operator) := by
                show (match Operator.ofChar? c with | some _ => _ | none => _) = _
                rw [hoperator]
                rfl
              have hfound : startsWithAny attributeMarks (c :: '=' :: value) = true := by
                rw [startsWithAny_attributeMarks, hoperator]
                simp
              rw [hsplit, Operator.mark_of_ofChar? hoperator]
              show upTo (startsWithAny attributeMarks) (c :: '=' :: value) = _
              rw [upTo, if_pos hfound]
              rfl
      | cons d before =>
          have hd : d ≠ '=' := Ne.symm (List.ne_of_not_mem_cons hbefore)
          have hnot : startsWithAny attributeMarks (c :: d :: (before ++ '=' :: value)) = false :=
            not_startsWithAny_attributeMarks (Ne.symm hc) (Or.inr (by simp [hd]))
          have ih := ih hbefore
          rw [splitOperator_cons_cons]
          unfold upToAny at ih ⊢
          rw [List.cons_append, List.cons_append, upTo, hnot, ← List.cons_append, ih]
          rfl

/-! # What a clause means -/

section Meaning

variable [Pattern.Engine] {query rest : Text}

theorem attributeTest_of_not_mem {clause : Text} (h : '=' ∉ clause) :
    attributeTest query rest clause =
      match Text.foldAscii (Text.trim clause) with
      | [] => .error (.emptyName "attribute name" query rest)
      | key => presenceTest query rest key := by
  unfold attributeTest
  simp only [upToAny_of_not_mem h]
  cases Text.foldAscii (Text.trim clause) with
  | nil => rfl
  | cons c key => rfl

omit [Pattern.Engine] in
theorem Operator.skipWhitespace_mark (operator : Operator) (value : Text) :
    (skipWhitespace (operator.mark ++ value)).2 = operator.mark ++ value := by
  cases operator with
  | compare comparison => cases comparison <;> rfl
  | pattern => rfl

omit [Pattern.Engine] in
theorem Operator.mark_isEmpty (operator : Operator) (value : Text) :
    (operator.mark ++ value).isEmpty = false := by
  cases operator with
  | compare comparison => cases comparison <;> rfl
  | pattern => rfl

theorem attributeTest_of_split {clause name value : Text} {operator : Operator}
    (h : upToAny attributeMarks clause = (name, operator.mark ++ value)) :
    attributeTest query rest clause =
      if (Text.foldAscii (Text.trim name)).isEmpty then
        .error (.emptyName "attribute name" query rest)
      else operatorTest query (Text.foldAscii (Text.trim name)) (operator.mark ++ value) := by
  unfold attributeTest
  simp only [h, operator.skipWhitespace_mark, operator.mark_isEmpty]
  rfl

theorem operatorTest_mark (query key : Text) (operator : Operator) (value : Text) :
    operatorTest query key (operator.mark ++ value) =
      match operator with
      | .compare comparison =>
          if (attributeValue value).isEmpty then
            .error (.emptyAttributeValue key comparison.mark query)
          else .ok (.compare comparison key (attributeValue value))
      | .pattern =>
          match Pattern.compile? value with
          | some pattern => .ok (.matchesPattern key pattern)
          | none => .error (.invalidRegex value) := by
  cases operator with
  | compare comparison => exact operatorTest_comparison query key comparison value
  | pattern => exact operatorTest_source query key value

theorem attributeTest_eq_split (query rest clause : Text) :
    attributeTest query rest clause =
      match splitClause clause with
      | none =>
          match Text.foldAscii (Text.trim clause) with
          | [] => .error (.emptyName "attribute name" query rest)
          | key => presenceTest query rest key
      | some (name, operator, value) =>
          match Text.foldAscii (Text.trim name) with
          | [] => .error (.emptyName "attribute name" query rest)
          | key => operatorTest query key (operator.mark ++ value) := by
  by_cases hequals : '=' ∈ clause
  · rcases List.eq_append_cons_of_mem hequals with ⟨before, value, rfl, hbefore⟩
    rw [splitClause_append value hbefore,
      attributeTest_of_split (upToAny_append_equals value hbefore)]
    simp only
    cases Text.foldAscii (Text.trim (splitOperator before).1) with
    | nil => rfl
    | cons c key => rfl
  · rw [splitClause_of_not_mem hequals, attributeTest_of_not_mem hequals]

/-- There is always one of the operators where the name ends. -/
theorem attributeTest_expected (query rest clause query' remainder : Text) :
    attributeTest query rest clause ≠ .error (.unexpectedToken query' remainder) := by
  intro h
  rw [attributeTest_eq_split] at h
  cases hsplit : splitClause clause with
  | none =>
      rw [hsplit] at h
      simp only at h
      split at h
      · cases h
      · unfold presenceTest at h
        split at h <;> cases h
  | some split =>
      rw [hsplit] at h
      simp only [operatorTest_mark] at h
      split at h
      · cases h
      · split at h
        · split at h <;> cases h
        · split at h <;> cases h

theorem simpleTest_bracket (inner : Text -> Report Matcher) (query text : Text) :
    (simpleTest inner query ('[' :: text)).result =
      (attributeTest query (balanced '[' ']' ('[' :: text)).2
        (balanced '[' ']' ('[' :: text)).1).map
        (fun test => (.attribute test, (balanced '[' ']' ('[' :: text)).2)) := by
  have halphanumeric : Text.isAlphanumeric '[' = false := by decide +kernel
  unfold simpleTest
  simp only [halphanumeric]
  cases balanced '[' ']' ('[' :: text) with
  | mk clause left =>
      show (Report.ofExcept (attributeTest query left clause) >>= _).result = _
      rw [Report.result_bind]
      cases attributeTest query left clause with
      | error error => rfl
      | ok test => rfl

end Meaning

/-- Without an equals sign a clause tests whether an attribute is there, or after a caret how the
name of one starts.  Otherwise it is split at its first equals sign, and nothing in the value
counts as an operator. -/
theorem attributeTest_splits [Pattern.Engine] (query : Text) :
    (forall rest clause, attributeTest query rest clause =
      match splitClause clause with
      | none =>
          match Text.foldAscii (Text.trim clause) with
          | [] => .error (.emptyName "attribute name" query rest)
          | ['^'] => .error (.emptyName "attribute name prefix" query rest)
          | '^' :: start => .ok (.nameStartsWith start)
          | key => .ok (.present key)
      | some (name, operator, value) =>
          match Text.foldAscii (Text.trim name), operator with
          | [], _ => .error (.emptyName "attribute name" query rest)
          | key, .compare comparison =>
              if (attributeValue value).isEmpty then
                .error (.emptyAttributeValue key comparison.mark query)
              else .ok (.compare comparison key (attributeValue value))
          | key, .pattern =>
              match Pattern.compile? value with
              | some pattern => .ok (.matchesPattern key pattern)
              | none => .error (.invalidRegex value)) ∧
    (forall rest clause query' remainder,
      attributeTest query rest clause ≠ .error (.unexpectedToken query' remainder)) ∧
    (forall inner text, (simpleTest inner query ('[' :: text)).result =
      (attributeTest query (balanced '[' ']' ('[' :: text)).2
        (balanced '[' ']' ('[' :: text)).1).map
        (fun test => (.attribute test, (balanced '[' ']' ('[' :: text)).2))) := by
  refine ⟨?_, ?_, fun inner text => simpleTest_bracket inner query text⟩
  · intro rest clause
    rw [attributeTest_eq_split]
    cases splitClause clause with
    | none =>
        simp only
        cases Text.foldAscii (Text.trim clause) with
        | nil => rfl
        | cons c key =>
            by_cases hcaret : c = '^'
            · rw [hcaret]
              cases key with
              | nil => rfl
              | cons d key => rfl
            · simp [presenceTest, hcaret]
    | some split =>
        rcases split with ⟨name, operator, value⟩
        simp only [operatorTest_mark]
        cases Text.foldAscii (Text.trim name) with
        | nil => rfl
        | cons c key =>
            cases operator with
            | compare comparison => rfl
            | pattern => rfl
  · intro rest clause query' remainder
    exact attributeTest_expected query rest clause query' remainder

example : attributeTest [] [] " A!=b*='c' " = .ok (.compare .differs "a" "b*='c'") := by rfl

end Selector
end TreeQuery
