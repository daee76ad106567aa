import TreeQuery.Proofs.Selector.Cuts
import TreeQuery.Proofs.Selector.Openings

/-!
# Live delimiters

A delimiter is live if no escape mark stands right before it.  A group ends where as many live
closing delimiters as live opening ones have been passed for the first time, and the number of
open groups that the scan keeps is the difference of the two.
-/

namespace TreeQuery
namespace Selector

open Scan

/-- The character stands at the place, and no escape mark right before it. -/
def IsLive (text : Text) (mark : Char) (place : Nat) : Prop :=
  text[place]? = some mark ∧ (place = 0 ∨ text[place - 1]? ≠ some escapeMark)

instance (text : Text) (mark : Char) (place : Nat) : Decidable (IsLive text mark place) :=
  inferInstanceAs (Decidable (_ ∧ (_ ∨ _)))

def liveCount (text : Text) (mark : Char) (places : Nat) : Nat :=
  (List.range places).countP (fun place => decide (IsLive text mark place))

/-- As many live closing delimiters as opening ones stand up to the place. -/
def IsLevel (opening closing : Char) (text : Text) (place : Nat) : Prop :=
  liveCount text closing (place + 1) = liveCount text opening (place + 1)

instance (opening closing : Char) (text : Text) (place : Nat) :
    Decidable (IsLevel opening closing text place) :=
  inferInstanceAs (Decidable (_ = _))

/-- The place is the first one up to which as many groups are closed as are opened. -/
structure ClosesAt (opening closing : Char) (text : Text) (place : Nat) : Prop where
  within : place < text.length
  level : IsLevel opening closing text place
  first : forall earlier, earlier < place -> ¬ IsLevel opening closing text earlier

theorem ClosesAt.unique {opening closing : Char} {text : Text} {place other : Nat}
    (hplace : ClosesAt opening closing text place) (hother : ClosesAt opening closing text other) :
    place = other := by
  rcases Nat.lt_trichotomy place other with hlt | hsame | hlt
  · exact absurd hplace.level (hother.first place hlt)
  · exact hsame
  · exact absurd hother.level (hplace.first other hlt)

/-! # Counting along a text -/

theorem liveCount_succ (text : Text) (mark : Char) (places : Nat) :
    liveCount text mark (places + 1) =
      liveCount text mark places + if IsLive text mark places then 1 else 0 := by
  unfold liveCount
  rw [List.range_succ, List.countP_append, List.countP_singleton]
  simp only [decide_eq_true_eq]

section Counting

variable {opening closing last c : Char} {text before rest : Text} {depth : Nat}

theorem isLive_next (htext : text = before ++ c :: rest) (hlast : before.getLast? = some last)
    (mark : Char) : IsLive text mark before.length ↔ c = mark ∧ last ≠ escapeMark := by
  have hpositive : 0 < before.length := by
    apply List.length_pos_iff.mpr
    rintro rfl
    cases hlast
  have hprevious : text[before.length - 1]? = some last := by
    rw [htext, List.getElem?_append_left (by omega), ← List.getLast?_eq_getElem?, hlast]
  have hnext : text[before.length]? = some c := by
    rw [htext, List.getElem?_append_right (Nat.le_refl _), Nat.sub_self, List.getElem?_cons_zero]
  unfold IsLive
  rw [hprevious, hnext, Option.some.injEq, Ne, Option.some.injEq]
  constructor
  · intro h
    exact ⟨h.1, h.2.resolve_left (Nat.ne_of_gt hpositive)⟩
  · intro h
    exact ⟨h.1, Or.inr h.2⟩

/-- The number of open groups is that of the live opening delimiters that are not closed. -/
theorem liveCount_depthAfter (hne : opening ≠ closing) (htext : text = before ++ c :: rest)
    (hlast : before.getLast? = some last) (hdepth : 0 < depth)
    (hcount : liveCount text closing before.length + depth =
      liveCount text opening before.length) :
    liveCount text closing (before.length + 1) + depthAfter opening closing depth last c =
      liveCount text opening (before.length + 1) := by
  rw [liveCount_succ, liveCount_succ]
  simp only [isLive_next htext hlast]
  unfold depthAfter
  by_cases hescaped : last = escapeMark
  · simpa [hescaped] using hcount
  · by_cases hopening : c = opening
    · simp only [hescaped, hopening, hne, if_true, if_false, ne_eq, not_false_eq_true, and_true]
      omega
    · by_cases hclosing : c = closing
      · simp only [hescaped, hclosing, hne.symm, if_true, if_false, ne_eq, not_false_eq_true,
          and_true]
        omega
      · simpa [hescaped, hopening, hclosing] using hcount

theorem isLevel_iff (hne : opening ≠ closing) (htext : text = before ++ c :: rest)
    (hlast : before.getLast? = some last) (hdepth : 0 < depth)
    (hcount : liveCount text closing before.length + depth =
      liveCount text opening before.length) :
    IsLevel opening closing text before.length ↔
      depthAfter opening closing depth last c = 0 := by
  have hafter := liveCount_depthAfter hne htext hlast hdepth hcount
  unfold IsLevel
  omega

/-- With groups open behind the first part, the scan of the rest ends at the first level place,
whatever stands behind it, or takes everything if there is none. -/
theorem balancedFrom_cases (hne : opening ≠ closing) (htext : text = before ++ rest)
    (hlast : before.getLast? = some last) (hmarked : endMark ∉ last :: rest) (hdepth : 0 < depth)
    (hcount : liveCount text closing before.length + depth =
      liveCount text opening before.length) :
    (exists inside left, rest = inside ++ closing :: left ∧
      IsLevel opening closing text (before.length + inside.length) ∧
      (forall place, before.length ≤ place -> place < before.length + inside.length ->
        ¬ IsLevel opening closing text place) ∧
      forall other, balancedFrom opening closing depth last (inside ++ closing :: other) =
        (inside, other)) ∨
    ((forall place, before.length ≤ place -> place < text.length ->
        ¬ IsLevel opening closing text place) ∧
      balancedFrom opening closing depth last rest = (rest, [])) := by
  induction rest generalizing before depth last with
  | nil =>
      refine Or.inr ⟨fun place hfrom hto => ?_, rfl⟩
      rw [htext, List.append_nil] at hto
      exact absurd hto (Nat.not_lt_of_le hfrom)
  | cons c rest ih =>
      have hlevel := isLevel_iff hne htext hlast hdepth hcount
      have hlastMark : last ≠ endMark := fun hsame => hmarked (hsame ▸ List.mem_cons_self)
      by_cases hend : depthAfter opening closing depth last c = 0
      · have hc := eq_closing_of_depthAfter hdepth hend
        subst hc
        refine Or.inl ⟨[], rest, rfl, hlevel.mpr hend, fun place hfrom hto => ?_, fun other => ?_⟩
        · exact absurd hto (Nat.not_lt_of_le hfrom)
        · rw [List.nil_append, balancedFrom]
          simp only [hend, if_true]
      · have hafter := liveCount_depthAfter hne htext hlast hdepth hcount
        have hlength : (before ++ [c]).length = before.length + 1 := List.length_append
        have hshape : before ++ c :: rest = (before ++ [c]) ++ rest := List.append_cons before c rest
        rw [← hlength] at hafter
        -- The place of the character is not level, so the first level place lies behind it.
        have hbehind : forall place, before.length ≤ place ->
            IsLevel opening closing text place -> (before ++ [c]).length ≤ place := by
          intro place hfrom hplace
          rcases Nat.eq_or_lt_of_le hfrom with rfl | hlt
          · exact absurd (hlevel.mp hplace) hend
          · rwa [hlength]
        have hrest := ih (htext.trans hshape) List.getLast?_concat
          (fun hmem => hmarked (List.mem_cons_of_mem last hmem)) (Nat.pos_of_ne_zero hend) hafter
        rcases hrest with ⟨inside, left, rfl, hinside, hfirst, hscan⟩ | ⟨hnone, hscan⟩
        · have hplace : (before ++ [c]).length + inside.length =
              before.length + (c :: inside).length := by
            rw [hlength, List.length_cons]
            omega
          rw [hplace] at hinside hfirst
          refine Or.inl ⟨c :: inside, left, rfl, hinside, fun place hfrom hto hlevel => ?_,
            fun other => ?_⟩
          · exact hfirst place (hbehind place hfrom hlevel) hto hlevel
          · rw [List.cons_append, balancedFrom_cons hlastMark hend, hscan]
        · refine Or.inr ⟨fun place hfrom hto hlevel => ?_, ?_⟩
          · exact hnone place (hbehind place hfrom hlevel) hto hlevel
          · rw [balancedFrom_cons hlastMark hend, hscan]

/-! # Groups at their opening delimiter -/

theorem balanced_cases (hne : opening ≠ closing) (hmarked : endMark ∉ opening :: text) :
    (exists inside left, text = inside ++ closing :: left ∧
      ClosesAt opening closing (opening :: text) (inside.length + 1) ∧
      forall other, balanced opening closing (opening :: inside ++ closing :: other) =
        (inside, other)) ∨
    ((forall place, ¬ ClosesAt opening closing (opening :: text) place) ∧
      balanced opening closing (opening :: text) = (text, [])) := by
  have hopen : forall mark, liveCount (opening :: text) mark 1 = if opening = mark then 1 else 0 := by
    intro mark
    rw [liveCount_succ]
    simp [liveCount, IsLive]
  have hcount : liveCount (opening :: text) closing 1 + 1 = liveCount (opening :: text) opening 1 := by
    rw [hopen, hopen, if_neg hne, if_pos rfl]
  have hstart : forall place, IsLevel opening closing (opening :: text) place -> 1 ≤ place := by
    intro place hplace
    cases place with
    | zero =>
        unfold IsLevel at hplace
        rw [Nat.zero_add] at hplace
        omega
    | succ place => exact Nat.le_add_left 1 place
  have hlast : [opening].getLast? = some opening := rfl
  rcases balancedFrom_cases hne rfl hlast hmarked Nat.one_pos hcount with
    ⟨inside, left, rfl, hlevel, hfirst, hscan⟩ | ⟨hnone, hscan⟩
  · refine Or.inl ⟨inside, left, rfl, ⟨?_, ?_, ?_⟩, fun other => ?_⟩
    · simp
    · rwa [Nat.add_comm]
    · intro earlier hearlier hplace
      exact hfirst earlier (hstart earlier hplace) (by rwa [Nat.add_comm] at hearlier) hplace
    · rw [List.cons_append, balanced_opening, hscan]
  · refine Or.inr ⟨fun place hplace => ?_, ?_⟩
    · exact hnone place (hstart place hplace.level) hplace.within hplace.level
    · rw [balanced_opening, hscan]

/-- A group is taken off exactly at the first place up to which as many live delimiters close as
open groups, whatever follows, and reaches to the end of the text if there is no such place. -/
theorem balanced_cut (hne : opening ≠ closing) (hmarked : endMark ∉ opening :: text) :
    (forall place, ClosesAt opening closing (opening :: text) place ->
      balanced opening closing (opening :: text) =
          (((opening :: text).take place).tail, (opening :: text).drop (place + 1)) ∧
        forall other,
          balanced opening closing ((opening :: text).take (place + 1) ++ other) =
            (((opening :: text).take place).tail, other)) ∧
    ((forall place, ¬ ClosesAt opening closing (opening :: text) place) ->
      balanced opening closing (opening :: text) = (text, [])) := by
  rcases balanced_cases hne hmarked with ⟨inside, left, rfl, hcloses, hscan⟩ | ⟨hnone, hscan⟩
  · constructor
    · intro place hplace
      cases hplace.unique hcloses
      have hinside : ((opening :: (inside ++ closing :: left)).take (inside.length + 1)).tail =
          inside := by
        simp
      have hafter : (opening :: (inside ++ closing :: left)).drop (inside.length + 1 + 1) = left := by
        simp
      have hupto : (opening :: (inside ++ closing :: left)).take (inside.length + 1 + 1) =
          opening :: inside ++ [closing] := by
        simp [List.take_append, List.take_of_length_le]
      rw [hinside, hafter, hupto]
      constructor
      · exact hscan left
      · intro other
        rw [List.append_assoc]
        exact hscan other
    · intro hnone
      exact absurd hcloses (hnone _)
  · constructor
    · intro place hplace
      exact absurd hplace (hnone place)
    · intro _
      exact hscan

end Counting

theorem balanced_cut_nested :
    '(' ≠ ')' ∧ endMark ∉ '(' :: ("a\\)(b)) c" : Text) ∧
      ClosesAt '(' ')' ('(' :: "a\\)(b)) c") 7 ∧
      balanced '(' ')' ('(' :: "a\\)(b)) c") = (("a\\)(b)" : Text), (" c" : Text)) := by
  have hne : '(' ≠ ')' := by decide
  have hmarked : endMark ∉ '(' :: ("a\\)(b)) c" : Text) := by decide
  have hcloses : ClosesAt '(' ')' ('(' :: "a\\)(b)) c") 7 := ⟨by decide, by decide, by decide⟩
  exact ⟨hne, hmarked, hcloses, ((balanced_cut hne hmarked).1 7 hcloses).1⟩

end Selector
end TreeQuery
