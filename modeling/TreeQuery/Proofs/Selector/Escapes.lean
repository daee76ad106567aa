import Mathlib.Data.List.Chain
import TreeQuery.Proofs.Selector.Delimiters

/-!
# Escapes are dropped

Escaping writes the escape mark before the mark itself and before other characters, and dropping
escapes takes the first mark of every row of marks away.  What was written for a mark in front of
another escaped character is therefore kept as two marks, and every other text is got back.
-/

namespace TreeQuery
namespace Selector

open Scan Grammar

def isEscaped (c : Char) : Bool :=
  c == escapeMark || isDelimiter c

/-- Double every escape mark in front of a character that satisfies the test. -/
def doubleBefore (test : Char -> Bool) : Text -> Text
  | [] => []
  | c :: rest =>
      if c = escapeMark && nextIs test rest then c :: c :: doubleBefore test rest
      else c :: doubleBefore test rest

def Separated (test : Char -> Bool) (text : Text) : Prop :=
  text.IsChain (fun c next => c = escapeMark -> test next = false)

instance (test : Char -> Bool) (text : Text) : Decidable (Separated test text) :=
  inferInstanceAs (Decidable (text.IsChain _))

section Escapes

variable {test : Char -> Bool}

/-! # What dropping the escapes leaves -/

theorem escapeWhere_cons (c : Char) (rest : Text) :
    escapeWhere test (c :: rest) =
      (if test c then [escapeMark, c] else [c]) ++ escapeWhere test rest :=
  rfl

theorem unescapeAfter_escapeWhere_cons (hmark : test escapeMark = true) (last c : Char)
    (rest : Text) :
    unescapeAfter last (escapeWhere test (c :: rest)) =
      (if last = escapeMark && test c then [escapeMark, c] else [c]) ++
        unescapeAfter c (escapeWhere test rest) := by
  rw [escapeWhere_cons]
  cases htest : test c with
  | true =>
      show unescapeAfter last (escapeMark :: c :: escapeWhere test rest) = _
      rw [unescapeAfter, unescapeAfter]
      by_cases hlast : last = escapeMark
      · simp [hlast]
      · simp [hlast]
  | false =>
      have hc : c ≠ escapeMark := by
        intro hsame
        rw [hsame, hmark] at htest
        cases htest
      show unescapeAfter last (c :: escapeWhere test rest) = _
      rw [unescapeAfter]
      simp [hc]

/-- The induction is on the text with the character before it, because what is kept of a mark
shows only when the character behind it is read. -/
theorem unescapeAfter_escapeWhere (hmark : test escapeMark = true) (last : Char) (text : Text) :
    unescapeAfter last (escapeWhere test text) =
      (if last = escapeMark && nextIs test text then [escapeMark] else []) ++
        doubleBefore test text := by
  induction text generalizing last with
  | nil => simp [escapeWhere, unescapeAfter, nextIs, doubleBefore]
  | cons c rest ih =>
      have hnext : nextIs test (c :: rest) = test c := rfl
      rw [unescapeAfter_escapeWhere_cons hmark, ih, hnext, doubleBefore]
      by_cases hc : c = escapeMark && nextIs test rest
      · rw [if_pos hc, if_pos hc]
        -- The character is the mark, and its second copy is what the next character keeps.
        have hsame : c = escapeMark := of_decide_eq_true (Bool.and_eq_true_iff.mp hc).1
        subst hsame
        split
        · rfl
        · rfl
      · rw [if_neg hc, if_neg hc]
        split
        · rfl
        · rfl

theorem unescape_escapeWhere (hmark : test escapeMark = true) (text : Text) :
    unescape (escapeWhere test text) = doubleBefore test text := by
  have hfirst : endMark ≠ escapeMark := by decide
  unfold unescape
  rw [unescapeAfter_escapeWhere hmark]
  simp [hfirst]

/-! # Which texts are got back -/

theorem separated_cons (c : Char) (rest : Text) :
    Separated test (c :: rest) ↔
      (c = escapeMark && nextIs test rest) = false ∧ Separated test rest := by
  cases rest with
  | nil => simp [Separated, nextIs]
  | cons next rest =>
      simp [Separated, nextIs]

theorem length_le_doubleBefore (test : Char -> Bool) (text : Text) :
    text.length ≤ (doubleBefore test text).length := by
  induction text with
  | nil => exact Nat.le_refl _
  | cons c rest ih =>
      rw [doubleBefore]
      split
      · simp only [List.length_cons]
        omega
      · simp only [List.length_cons]
        omega

theorem doubleBefore_eq_self_iff (text : Text) :
    doubleBefore test text = text ↔ Separated test text := by
  induction text with
  | nil => simp [doubleBefore, Separated]
  | cons c rest ih =>
      rw [separated_cons, doubleBefore]
      cases c = escapeMark && nextIs test rest with
      | true =>
          have hlength := length_le_doubleBefore test rest
          constructor
          · intro hsame
            have hlonger := congrArg List.length hsame
            simp only [if_true, List.length_cons] at hlonger
            omega
          · intro h
            cases h.1
      | false => simp [ih]

end Escapes

/-- Behind every escape mark that stands in front of a mark or a delimiter another one is left, so
that the texts without such marks are the ones that are got back. -/
theorem unescape_escaped (text : Text) :
    unescape (escapeWhere isEscaped text) = doubleBefore isEscaped text ∧
      (unescape (escapeWhere isEscaped text) = text ↔ Separated isEscaped text) := by
  have hleft : unescape (escapeWhere isEscaped text) = doubleBefore isEscaped text :=
    unescape_escapeWhere rfl text
  constructor
  · exact hleft
  · rw [hleft]
    exact doubleBefore_eq_self_iff text

example : Separated isEscaped "one ( ) \\" := by
  decide

/-- Two marks become three, and a mark before a parenthesis becomes two. -/
theorem unescape_escapeWhere_ne_self :
    unescape (escapeWhere isEscaped ['\\', '\\']) ≠ ['\\', '\\'] ∧
      unescape (escapeWhere isEscaped ['\\', '(']) ≠ ['\\', '('] := by
  constructor
  · decide
  · decide

end Selector
end TreeQuery
