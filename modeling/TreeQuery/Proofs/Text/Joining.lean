import TreeQuery.Proofs.Text.Sigma

/-!
# Joined texts

Some of the pieces of a joined text, if they stand next to each other, are joined in one part of
it.  What separates this part from the rest is a blank, at which every word ends, so that the part
keeps its lower-case form in the whole.
-/

namespace TreeQuery
namespace Text

/-! # Parts of a joined text -/

theorem join_cons (separator piece : Text) {rest : List Text} (h : rest ≠ []) :
    join separator (piece :: rest) = piece ++ (separator ++ join separator rest) := by
  cases rest with
  | nil => exact absurd rfl h
  | cons next rest => rw [join, List.append_assoc]

theorem join_append (separator : Text) {first second : List Text} (hfirst : first ≠ [])
    (hsecond : second ≠ []) :
    join separator (first ++ second) =
      join separator first ++ (separator ++ join separator second) := by
  induction first with
  | nil => exact absurd rfl hfirst
  | cons piece rest ih =>
      cases rest with
      | nil =>
          rw [List.cons_append, List.nil_append, join_cons separator piece hsecond, join]
      | cons next rest =>
          rw [List.cons_append, join_cons separator piece (by simp), ih (by simp),
            join_cons separator piece (by simp)]
          simp

theorem exists_join_surrounded (separator : Text) (before : List Text) {part : List Text}
    (after : List Text) (h : part ≠ []) :
    exists start ending,
      join separator (before ++ (part ++ after)) = start ++ (join separator part ++ ending) ∧
      (start = [] ∨ exists earlier, start = earlier ++ separator) ∧
      (ending = [] ∨ exists later, ending = separator ++ later) := by
  have hbehind : exists ending, join separator (part ++ after) = join separator part ++ ending ∧
      (ending = [] ∨ exists later, ending = separator ++ later) := by
    by_cases hafter : after = []
    · refine ⟨[], ?_, Or.inl rfl⟩
      rw [hafter, List.append_nil, List.append_nil]
    · exact ⟨_, join_append separator h hafter, Or.inr ⟨_, rfl⟩⟩
  rcases hbehind with ⟨ending, hjoin, hending⟩
  by_cases hbefore : before = []
  · refine ⟨[], ending, ?_, Or.inl rfl, hending⟩
    rw [hbefore, List.nil_append, List.nil_append, hjoin]
  · have hrest : part ++ after ≠ [] := List.append_ne_nil_of_left_ne_nil h after
    refine ⟨join separator before ++ separator, ending, ?_, Or.inr ⟨_, rfl⟩, hending⟩
    rw [join_append separator hbefore hrest, hjoin, List.append_assoc]

theorem join_infix (separator : Text) {part whole : List Text} (h : part <:+: whole) :
    join separator part <:+: join separator whole := by
  rcases h with ⟨before, after, hwhole⟩
  by_cases hpart : part = []
  · rw [hpart]
    exact List.nil_infix
  · rcases exists_join_surrounded separator before after hpart with ⟨start, ending, hjoin, _, _⟩
    rw [← hwhole, List.append_assoc, hjoin, ← List.append_assoc]
    exact List.infix_append _ _ _

/-! # Words end at breaks -/

/-- The character has no case and is not passed over in the search for a letter that has case. -/
def isBreak (c : Char) : Bool :=
  !Span.covers caseIgnorableSpans c.toNat && !Span.covers casedSpans c.toNat

section Breaks

variable {before part after : Text}

theorem meetsCased_append (text : Text) (h : after.head?.all isBreak = true) :
    meetsCased (text ++ after) = meetsCased text := by
  cases after with
  | nil => rw [List.append_nil]
  | cons c rest =>
      have hc : Span.covers caseIgnorableSpans c.toNat = false ∧
          Span.covers casedSpans c.toNat = false := by
        simpa [isBreak] using h
      unfold meetsCased
      induction text with
      | nil => simp [hc.1, hc.2]
      | cons d text ih =>
          cases hd : Span.covers caseIgnorableSpans d.toNat with
          | true => simpa [hd] using ih
          | false => simp [hd]

theorem keepsSigmas_of_breaks (hbefore : before.getLast?.all isBreak = true)
    (hafter : after.head?.all isBreak = true) : KeepsSigmas before part after := by
  intro start rest _
  rw [← List.head?_reverse] at hbefore
  rw [endsWord, meetsCased_append _ hbefore, meetsCased_append _ hafter, endsWord]

end Breaks

theorem lower_join_infix {part whole : List Text} (h : part <:+: whole) :
    lower (join " " part) <:+: lower (join " " whole) := by
  rcases h with ⟨before, after, hwhole⟩
  by_cases hpart : part = []
  · rw [hpart]
    exact List.nil_infix
  · have hblank : isBreak ' ' = true := by decide +kernel
    rcases exists_join_surrounded " " before after hpart with
      ⟨start, ending, hjoin, hstart, hending⟩
    have hbefore : start.getLast?.all isBreak = true := by
      rcases hstart with rfl | ⟨earlier, rfl⟩
      · rfl
      · simpa using hblank
    have hafter : ending.head?.all isBreak = true := by
      rcases hending with rfl | ⟨later, rfl⟩
      · rfl
      · simpa using hblank
    rw [← hwhole, List.append_assoc, hjoin]
    exact (keepsSigmas_of_breaks hbefore hafter).isInfix

end Text
end TreeQuery
