import TreeQuery.Json.Reader
import TreeQuery.Json.Writer

/-!
# Strings

Whatever the characters of a text, the JSON string that is written for it is read as the text,
and what comes behind its closing quote is left.
-/

namespace TreeQuery
namespace Json

/-! # Single characters -/

theorem escapeChar_cases (c : Char) :
    (exists letter, escaped? letter = some c ∧ escapeChar c = ['\\', letter]) ∨
    (c.toNat < 32 ∧ escapeChar c =
      ['\\', 'u', '0', '0', Nat.digitChar (c.toNat / 16), Nat.digitChar (c.toNat % 16)]) ∨
    (c ≠ '"' ∧ c ≠ '\\' ∧ ¬ c.toNat < 32 ∧ escapeChar c = [c]) := by
  by_cases hshort : exists letter, escaped? letter = some c ∧ escapeChar c = ['\\', letter]
  · exact Or.inl hshort
  · have hquote : c ≠ '"' := by
      rintro rfl
      exact hshort ⟨'"', rfl, rfl⟩
    have hbackslash : c ≠ '\\' := by
      rintro rfl
      exact hshort ⟨'\\', rfl, rfl⟩
    have hbackspace : c ≠ '\x08' := by
      rintro rfl
      exact hshort ⟨'b', rfl, rfl⟩
    have hfeed : c ≠ '\x0c' := by
      rintro rfl
      exact hshort ⟨'f', rfl, rfl⟩
    have hline : c ≠ '\n' := by
      rintro rfl
      exact hshort ⟨'n', rfl, rfl⟩
    have hreturn : c ≠ '\r' := by
      rintro rfl
      exact hshort ⟨'r', rfl, rfl⟩
    have htab : c ≠ '\t' := by
      rintro rfl
      exact hshort ⟨'t', rfl, rfl⟩
    rw [escapeChar, if_neg hquote, if_neg hbackslash, if_neg hbackspace, if_neg hfeed,
      if_neg hline, if_neg hreturn, if_neg htab]
    by_cases hcontrol : c.toNat < 32
    · exact Or.inr (Or.inl ⟨hcontrol, if_pos hcontrol⟩)
    · exact Or.inr (Or.inr ⟨hquote, hbackslash, hcontrol, if_neg hcontrol⟩)

theorem fourDigits?_control {code : Nat} (h : code < 32) :
    fourDigits? '0' '0' (Nat.digitChar (code / 16)) (Nat.digitChar (code % 16)) = some code := by
  have hcodes : forall code, code < 32 ->
      fourDigits? '0' '0' (Nat.digitChar (code / 16)) (Nat.digitChar (code % 16)) = some code := by
    decide
  exact hcodes code h

theorem readString_letter {letter c : Char} (h : escaped? letter = some c) (rest : Text) :
    readString ('\\' :: letter :: rest) = prepend c (readString rest) := by
  have hletter : letter ≠ 'u' := by
    rintro rfl
    cases h
  rw [readString.eq_def]
  simp [hletter, h]

theorem readString_control {c : Char} (h : c.toNat < 32) (rest : Text) :
    readString ('\\' :: 'u' :: '0' :: '0' :: Nat.digitChar (c.toNat / 16) ::
      Nat.digitChar (c.toNat % 16) :: rest) = prepend c (readString rest) := by
  have htrail : isTrailSurrogate c.toNat = false := by
    rw [isTrailSurrogate, Bool.and_eq_false_iff]
    exact Or.inl (decide_eq_false (by omega))
  have hlead : isLeadSurrogate c.toNat = false := by
    rw [isLeadSurrogate, Bool.and_eq_false_iff]
    exact Or.inl (decide_eq_false (by omega))
  rw [readString]
  simp [fourDigits?_control h, htrail, hlead]

theorem readString_plain {c : Char} (hquote : c ≠ '"') (hbackslash : c ≠ '\\')
    (hcontrol : ¬ c.toNat < 32) (rest : Text) :
    readString (c :: rest) = prepend c (readString rest) := by
  rw [readString.eq_def]
  simp only [if_neg hquote, if_neg hbackslash, if_neg hcontrol]

theorem readString_escapeChar (c : Char) (rest : Text) :
    readString (escapeChar c ++ rest) = prepend c (readString rest) := by
  rcases escapeChar_cases c with
    ⟨letter, hletter, h⟩ | ⟨hcontrol, h⟩ | ⟨hquote, hbackslash, hcontrol, h⟩
  · rw [h]
    exact readString_letter hletter rest
  · rw [h]
    exact readString_control hcontrol rest
  · rw [h]
    exact readString_plain hquote hbackslash hcontrol rest

/-! # Whole strings -/

theorem readString_escaped (text rest : Text) :
    readString (text.flatMap escapeChar ++ '"' :: rest) = some (text, rest) := by
  induction text with
  | nil =>
      rw [List.flatMap_nil, List.nil_append, readString.eq_def]
      exact if_pos rfl
  | cons c text ih =>
      rw [List.flatMap_cons, List.append_assoc, readString_escapeChar, ih]
      rfl

theorem writeString_append (text rest : Text) :
    writeString text ++ rest = '"' :: (text.flatMap escapeChar ++ '"' :: rest) := by
  rw [writeString, List.cons_append, List.cons_append, List.append_assoc]
  rfl

end Json
end TreeQuery
