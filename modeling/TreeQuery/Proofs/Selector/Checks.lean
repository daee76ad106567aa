import TreeQuery.Selector.Parser

/-!
# Checks made twice

Before the parser takes the name of a pseudo-class or the mark of a combinator it has seen that
they are there, and what takes them checks for them again, with an error of its own.  The second
check never fails.
-/

namespace TreeQuery
namespace Selector

open Scan

/-! # Names of pseudo-classes -/

theorem startsWith_of_append {mark more rest : Text} (h : startsWith (mark ++ more) rest = true) :
    startsWith mark rest = true := by
  induction mark generalizing rest with
  | nil => rfl
  | cons c mark ih =>
      cases rest with
      | nil => cases h
      | cons d rest =>
          rcases Bool.and_eq_true_iff.mp h with ⟨hletter, hmore⟩
          exact Bool.and_eq_true_iff.mpr ⟨hletter, ih hmore⟩

theorem PseudoClass.startsWith_of_find? {pseudo : PseudoClass} {rest : Text}
    (h : find? rest = some pseudo) : startsWith (pseudo.name ++ "(") rest = true := by
  have hfound := List.find?_some h
  exact hfound

theorem expect_of_startsWith {mark rest : Text} (h : startsWith mark rest = true) :
    expect mark rest = .ok (rest.drop mark.length) := by
  rw [expect, if_pos h]

theorem argumentOf_eq {pseudo : PseudoClass} {rest : Text}
    (h : startsWith (pseudo.name ++ "(") rest = true) :
    argumentOf pseudo rest = pure (balanced '(' ')' (rest.drop pseudo.name.length)) := by
  unfold argumentOf
  rw [expect_of_startsWith (startsWith_of_append h)]
  rfl

/-! # Marks of combinators -/

def Combinator.ofMark? (c : Char) : Option Combinator :=
  if Combinator.marks.contains c then Combinator.ofChar? c else none

theorem Combinator.isSome_ofChar? {c : Char} (h : Combinator.marks.contains c = true) :
    (Combinator.ofChar? c).isSome = true := by
  have hall : Combinator.marks.all (fun c => (Combinator.ofChar? c).isSome) = true := by decide
  exact List.all_eq_true.mp hall c (List.contains_iff_mem.mp h)

theorem Combinator.isSome_ofMark? (c : Char) :
    (Combinator.ofMark? c).isSome = Combinator.marks.contains c := by
  unfold Combinator.ofMark?
  cases hmark : Combinator.marks.contains c with
  | true => exact Combinator.isSome_ofChar? hmark
  | false => rfl

theorem Combinator.mem_marks_of_ofMark? {c : Char} {combinator : Combinator}
    (h : Combinator.ofMark? c = some combinator) : c ∈ Combinator.marks := by
  apply List.contains_iff_mem.mp
  rw [← Combinator.isSome_ofMark?, h]
  rfl

theorem separator_of_ofMark? {c : Char} {combinator : Combinator}
    (h : Combinator.ofMark? c = some combinator) : isSeparator c = true := by
  rw [isSeparator, ← Combinator.isSome_ofMark?, h]
  rfl

theorem not_whitespace_of_ofMark? {c : Char} {combinator : Combinator}
    (h : Combinator.ofMark? c = some combinator) : Text.isWhitespace c = false := by
  have hall : Combinator.marks.all (fun c => !Text.isWhitespace c) = true := by decide
  simpa using List.all_eq_true.mp hall c (Combinator.mem_marks_of_ofMark? h)

theorem atMark_eq (rest : Text) : atMark rest = (Combinator.ofMark? (peek rest)).isSome := by
  rw [Combinator.isSome_ofMark?]
  cases rest with
  | nil => rfl
  | cons c rest => rfl

section Reading

variable {inner : Text -> Report Matcher} {query : Text} {mark : Char} {combinator : Combinator}

theorem combine_of_ofMark? (h : Combinator.ofMark? mark = some combinator) (parts : List Matcher)
    (rest : Text) : combine inner query mark parts rest = relate inner combinator parts rest := by
  have hmark : Combinator.marks.contains mark = true :=
    List.contains_iff_mem.mpr (Combinator.mem_marks_of_ofMark? h)
  rw [Combinator.ofMark?, if_pos hmark] at h
  unfold combine
  rw [h]

theorem start_eq [Pattern.Engine] :
    start inner query =
      (match Combinator.ofMark? (peek (skipWhitespace query).2) with
      | some combinator => relate inner combinator [.root] (skipWhitespace query).2.tail
      | none => do
          let (test, left) ← simpleTest inner query (skipWhitespace query).2
          pure ⟨[test], left⟩) := by
  simp only [start, atMark_eq, next]
  cases hmark : Combinator.ofMark? (peek (skipWhitespace query).2) with
  | none => rfl
  | some combinator => exact combine_of_ofMark? hmark _ _

theorem step_eq [Pattern.Engine] (progress : Progress) :
    step inner query progress =
      (match Combinator.ofMark? (peek (skipWhitespace progress.rest).2) with
      | some combinator =>
          relate inner combinator progress.parts (skipWhitespace progress.rest).2.tail
      | none =>
          if (skipWhitespace progress.rest).1 then
            relate inner .descendant progress.parts (skipWhitespace progress.rest).2
          else do
            let (test, left) ← simpleTest inner query (skipWhitespace progress.rest).2
            pure ⟨test :: progress.parts, left⟩) := by
  simp only [step, atMark_eq, next]
  cases hmark : Combinator.ofMark? (peek (skipWhitespace progress.rest).2) with
  | none => rfl
  | some combinator => exact combine_of_ofMark? hmark _ _

end Reading

end Selector
end TreeQuery
