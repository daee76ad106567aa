import TreeQuery.Proofs.Selector.Delimiters

/-!
# Groups that stay open

A text behind an opening delimiter closes the group at the first closing delimiter that closes
nothing in the text itself.  If there is none the group stays open, and whatever follows is read
as part of it until it is closed.
-/

namespace TreeQuery
namespace Selector

open Scan

/-- The number of open groups behind the text, given how many are open before it and the last
character, if every closing delimiter closes one of them.  A delimiter right after the escape mark
does not count. -/
def stillOpen (opening closing : Char) : Nat -> Char -> Text -> Option Nat
  | depth, _, [] => some depth
  | depth, last, c :: rest =>
      if last = escapeMark then stillOpen opening closing depth c rest
      else if c = opening then stillOpen opening closing (depth + 1) c rest
      else if c = closing then
        if depth = 0 then none else stillOpen opening closing (depth - 1) c rest
      else stillOpen opening closing depth c rest

section Openings

variable {opening closing : Char}

theorem stillOpen_cons (depth : Nat) (last c : Char) (rest : Text) :
    stillOpen opening closing depth last (c :: rest) =
      match depthAfter opening closing (depth + 1) last c with
      | 0 => none
      | after + 1 => stillOpen opening closing after c rest := by
  rw [stillOpen, depthAfter]
  split
  · rfl
  · split
    · rfl
    · split
      · cases depth <;> rfl
      · rfl

theorem balancedFrom_of_stillOpen {text : Text} {depth left : Nat} {last : Char}
    (h : stillOpen opening closing depth last text = some left)
    (hmarked : forall c, c ∈ last :: text -> c ≠ endMark) (rest : Text) :
    balancedFrom opening closing (depth + 1) last (text ++ rest) =
      (text ++ (balancedFrom opening closing (left + 1) (text.getLastD last) rest).1,
        (balancedFrom opening closing (left + 1) (text.getLastD last) rest).2) := by
  induction text generalizing depth last with
  | nil =>
      rw [stillOpen, Option.some.injEq] at h
      rw [h]
      rfl
  | cons c text ih =>
      rw [stillOpen_cons] at h
      cases hafter : depthAfter opening closing (depth + 1) last c with
      | zero =>
          rw [hafter] at h
          cases h
      | succ after =>
          rw [hafter] at h
          have hrest := ih h fun d hd => hmarked d (List.mem_cons_of_mem _ hd)
          rw [List.cons_append, balancedFrom_cons (hmarked last List.mem_cons_self) (by omega),
            hafter, hrest, List.getLastD_cons]
          rfl

theorem exists_of_stillOpen_none {text : Text} {depth : Nat} {last : Char}
    (h : stillOpen opening closing depth last text = none)
    (hmarked : forall c, c ∈ last :: text -> c ≠ endMark) :
    exists inside left, text = inside ++ closing :: left ∧ forall other,
      balancedFrom opening closing (depth + 1) last (inside ++ closing :: other) =
        (inside, other) := by
  induction text generalizing depth last with
  | nil => cases h
  | cons c text ih =>
      have hlast := hmarked last List.mem_cons_self
      rw [stillOpen_cons] at h
      cases hafter : depthAfter opening closing (depth + 1) last c with
      | zero =>
          have hc : c = closing := by
            unfold depthAfter at hafter
            grind
          subst hc
          refine ⟨[], text, rfl, fun other => ?_⟩
          rw [List.nil_append, balancedFrom]
          simp only [hafter, if_true]
      | succ after =>
          rw [hafter] at h
          rcases ih h (fun d hd => hmarked d (List.mem_cons_of_mem _ hd)) with
            ⟨inside, left, rfl, hinside⟩
          refine ⟨c :: inside, left, rfl, fun other => ?_⟩
          rw [List.cons_append, balancedFrom_cons hlast (by omega), hafter, hinside]

/-! # Groups at their opening delimiter -/

theorem balanced_opening (text : Text) :
    balanced opening closing (opening :: text) = balancedFrom opening closing 1 opening text := by
  have hopen : depthAfter opening closing 0 endMark opening = 1 := by
    simp [depthAfter, show endMark ≠ escapeMark by decide]
  unfold balanced
  rw [balancedFrom]
  simp only [hopen, Nat.one_ne_zero, if_false, if_true]

theorem marked_cons (pair : Pair opening closing) {text : Text} (h : endMark ∉ text) :
    forall c, c ∈ opening :: text -> c ≠ endMark := by
  intro c hc
  cases hc with
  | head => exact pair.ordinary.1.2
  | tail _ hc => exact fun same => h (same ▸ hc)

theorem balanced_of_stillOpen (pair : Pair opening closing) {text : Text} {left : Nat}
    (h : stillOpen opening closing 0 opening text = some left) (hmarked : endMark ∉ text)
    (rest : Text) :
    balanced opening closing (opening :: (text ++ rest)) =
      (text ++ (balancedFrom opening closing (left + 1) (text.getLastD opening) rest).1,
        (balancedFrom opening closing (left + 1) (text.getLastD opening) rest).2) := by
  rw [balanced_opening, ← balancedFrom_of_stillOpen h (marked_cons pair hmarked) rest]

theorem balanced_of_open (pair : Pair opening closing) {text : Text} {left : Nat}
    (h : stillOpen opening closing 0 opening text = some left) (hmarked : endMark ∉ text) :
    balanced opening closing (opening :: text) = (text, []) ∧
      forall c, (balanced opening closing (opening :: (text ++ [c]))).2 = [] := by
  constructor
  · have hend := balanced_of_stillOpen pair h hmarked []
    simpa [balancedFrom] using hend
  · intro c
    rw [balanced_of_stillOpen pair h hmarked, balancedFrom]
    split <;> rfl

theorem exists_of_closed (pair : Pair opening closing) {text : Text}
    (h : stillOpen opening closing 0 opening text = none) (hmarked : endMark ∉ text) :
    exists inside left, text = inside ++ closing :: left ∧ forall other,
      balanced opening closing (opening :: (inside ++ closing :: other)) = (inside, other) := by
  rcases exists_of_stillOpen_none h (marked_cons pair hmarked) with
    ⟨inside, left, htext, hinside⟩
  refine ⟨inside, left, htext, fun other => ?_⟩
  rw [balanced_opening, hinside]

theorem balanced_of_closed (pair : Pair opening closing) {text : Text}
    (h : stillOpen opening closing 0 opening text = some 0) (hmarked : endMark ∉ text)
    (hlast : text.getLastD opening ≠ escapeMark) (rest : Text) :
    balanced opening closing (opening :: (text ++ closing :: rest)) = (text, rest) := by
  rw [balanced_of_stillOpen pair h hmarked]
  generalize text.getLastD opening = last at hlast
  have hcloses : depthAfter opening closing (0 + 1) last closing = 0 := by
    simp [depthAfter, hlast, pair.ne]
  rw [balancedFrom]
  simp only [hcloses, if_true, List.append_nil]

/-- Behind a text that leaves a group open, or ends in the escape mark, the closing delimiter
belongs to the group as well. -/
theorem balanced_of_unclosed (pair : Pair opening closing) {text : Text} {left : Nat}
    (h : stillOpen opening closing 0 opening text = some left) (hmarked : endMark ∉ text)
    (hopen : 0 < left ∨ text.getLastD opening = escapeMark) :
    balanced opening closing (opening :: (text ++ [closing])) = (text ++ [closing], []) := by
  have hlast : text.getLastD opening ≠ endMark := marked_cons pair hmarked _ List.getLastD_mem_cons
  rw [balanced_of_stillOpen pair h hmarked]
  generalize text.getLastD opening = last at hopen hlast
  have hstays : depthAfter opening closing (left + 1) last closing ≠ 0 := by
    rcases hopen with hopen | rfl
    · have hpositive : left ≠ 0 := Nat.ne_of_gt hopen
      rw [depthAfter, if_neg pair.ne, if_pos rfl]
      split
      · exact Nat.succ_ne_zero left
      · exact hpositive
    · rw [depthAfter, if_pos rfl]
      exact Nat.succ_ne_zero left
  rw [balancedFrom_cons hlast hstays]
  rfl

end Openings

end Selector
end TreeQuery
