import Mathlib.Data.List.Forall2
import Mathlib.Data.List.TakeWhile
import TreeQuery.Selector.Scan

/-!
# Cuts

What scanning takes and what it leaves are the two parts of the text.  The place of the cut is the
end of the longest run of a class, the first place where a mark stands, or the end of a group.
-/

namespace TreeQuery
namespace Selector

open Scan

/-! # Marks -/

/-- A copy of the mark is taken off the start of the text. -/
def TakesOff (same : Char -> Char -> Bool) (mark text left : Text) : Prop :=
  exists copy, text = copy ++ left ∧ List.Forall₂ (fun c d => same c d = true) copy mark

def StartsWith (same : Char -> Char -> Bool) (mark text : Text) : Prop :=
  exists left, TakesOff same mark text left

section Marks

variable {same : Char -> Char -> Bool} {mark text left : Text}

theorem TakesOff.eq_drop (h : TakesOff same mark text left) : left = text.drop mark.length := by
  rcases h with ⟨copy, rfl, hcopy⟩
  rw [← hcopy.length_eq, List.drop_left]

theorem StartsWith.takesOff (h : StartsWith same mark text) :
    TakesOff same mark text (text.drop mark.length) := by
  rcases h with ⟨left, h⟩
  rwa [← h.eq_drop]

theorem startsWith_nil (text : Text) : StartsWith same [] text :=
  ⟨text, [], rfl, .nil⟩

theorem not_startsWith_nil {c : Char} : ¬ StartsWith same (c :: mark) [] := by
  rintro ⟨left, copy, htext, hcopy⟩
  cases hcopy with
  | cons _ _ => cases htext

theorem startsWith_cons {c d : Char} :
    StartsWith same (c :: mark) (d :: text) ↔ same d c = true ∧ StartsWith same mark text := by
  constructor
  · rintro ⟨left, copy, htext, hcopy⟩
    cases hcopy with
    | cons hfirst hrest =>
        cases htext
        exact ⟨hfirst, left, _, rfl, hrest⟩
  · rintro ⟨hfirst, left, copy, rfl, hrest⟩
    exact ⟨left, d :: copy, rfl, .cons hfirst hrest⟩

theorem startsWith_iff (mark text : Text) :
    startsWith mark text = true ↔ StartsWith Text.sameLetter mark text := by
  induction mark generalizing text with
  | nil => exact ⟨fun _ => startsWith_nil text, fun _ => rfl⟩
  | cons c mark ih =>
      cases text with
      | nil => exact ⟨fun h => (Bool.false_ne_true h).elim, fun h => (not_startsWith_nil h).elim⟩
      | cons d text => rw [startsWith, Bool.and_eq_true, ih, startsWith_cons]

theorem isPrefixOf_iff (mark text : Text) :
    mark.isPrefixOf text = true ↔ StartsWith (· == ·) mark text := by
  induction mark generalizing text with
  | nil => exact ⟨fun _ => startsWith_nil text, fun _ => rfl⟩
  | cons c mark ih =>
      cases text with
      | nil => exact ⟨fun h => (Bool.false_ne_true h).elim, fun h => (not_startsWith_nil h).elim⟩
      | cons d text =>
          rw [List.isPrefixOf, Bool.and_eq_true, ih, startsWith_cons, beq_iff_eq, beq_iff_eq,
            eq_comm]

theorem startsWithAny_iff (marks : List Text) (text : Text) :
    startsWithAny marks text = true ↔
      exists mark, mark ∈ marks ∧ StartsWith Text.sameLetter mark text := by
  unfold startsWithAny
  rw [List.any_eq_true]
  simp only [startsWith_iff]

theorem StartsWith.ignoringCase (h : StartsWith (· == ·) mark text) :
    StartsWith Text.sameLetter mark text := by
  rcases h with ⟨left, copy, htext, hcopy⟩
  refine ⟨left, copy, htext, hcopy.imp ?_⟩
  intro c d hsame
  simp [Text.sameLetter, beq_iff_eq.mp hsame]

theorem skip_of_startsWith (h : StartsWith Text.sameLetter mark text) :
    skip mark text = (true, text.drop mark.length) := by
  rw [skip, if_pos ((startsWith_iff mark text).mpr h)]

theorem skip_of_not_startsWith (h : ¬ StartsWith Text.sameLetter mark text) :
    skip mark text = (false, text) := by
  rw [skip, if_neg (fun hstarts => h ((startsWith_iff mark text).mp hstarts))]

end Marks

/-! # Runs -/

/-- What is taken is the longest start of the text with characters of the class only. -/
structure LongestRun (test : Char -> Bool) (text taken left : Text) : Prop where
  whole : text = taken ++ left
  inside : forall c, c ∈ taken -> test c = true
  longest : forall start, start <+: text -> (forall c, c ∈ start -> test c = true) ->
    start.length ≤ taken.length

theorem longestRun (test : Char -> Bool) (text : Text) :
    LongestRun test text (text.takeWhile test) (text.dropWhile test) where
  whole := List.takeWhile_append_dropWhile.symm
  inside := fun _ hc => List.mem_takeWhile_imp hc
  longest := by
    rintro start ⟨rest, rfl⟩ hstart
    rw [List.takeWhile_append_of_pos hstart, List.length_append]
    exact Nat.le_add_right _ _

/-! # Places that are searched for -/

/-- The text is cut at the first place that is searched for, or at its end if there is none. -/
structure CutAt (found : Text -> Prop) (text taken left : Text) : Prop where
  whole : text = taken ++ left
  found_or_end : found left ∨ left = []
  first : forall before after, text = before ++ after -> before.length < taken.length ->
    ¬ found after

theorem cutAt_upTo (found : Text -> Bool) (text : Text) :
    CutAt (fun rest => found rest = true) text (upTo found text).1 (upTo found text).2 := by
  induction text with
  | nil =>
      refine ⟨rfl, Or.inr rfl, fun before after _ hlt => ?_⟩
      exact absurd hlt (Nat.not_lt_zero _)
  | cons c rest ih =>
      rw [upTo]
      split
      · rename_i hfound
        refine ⟨rfl, Or.inl hfound, fun before after _ hlt => ?_⟩
        exact absurd hlt (Nat.not_lt_zero _)
      · rename_i hfound
        refine ⟨congrArg (c :: ·) ih.whole, ih.found_or_end, fun before after htext hlt => ?_⟩
        cases before with
        | nil =>
            cases htext
            exact hfound
        | cons d before =>
            exact ih.first before after (List.cons.inj htext).2 (Nat.lt_of_succ_lt_succ hlt)

theorem CutAt.congr {found other : Text -> Prop} {text taken left : Text}
    (h : CutAt found text taken left) (hsame : forall rest, found rest ↔ other rest) :
    CutAt other text taken left where
  whole := h.whole
  found_or_end := h.found_or_end.imp_left (hsame left).mp
  first := fun before after htext hlt hother =>
    h.first before after htext hlt ((hsame after).mpr hother)

theorem cutAt_upToMark (mark text : Text) :
    CutAt (StartsWith (· == ·) mark) text (upToMark mark text).1 (upToMark mark text).2 :=
  (cutAt_upTo _ text).congr (isPrefixOf_iff mark)

theorem cutAt_upToMarkIgnoringCase (mark text : Text) :
    CutAt (StartsWith Text.sameLetter mark) text (upToMarkIgnoringCase mark text).1
      (upToMarkIgnoringCase mark text).2 :=
  (cutAt_upTo _ text).congr (startsWith_iff mark)

theorem cutAt_upToAny (marks : List Text) (text : Text) :
    CutAt (fun rest => exists mark, mark ∈ marks ∧ StartsWith Text.sameLetter mark rest) text
      (upToAny marks text).1 (upToAny marks text).2 :=
  (cutAt_upTo _ text).congr (startsWithAny_iff marks)

def Drops (same : Char -> Char -> Bool) (mark text left : Text) : Prop :=
  TakesOff same mark text left ∨ ¬ StartsWith same mark text ∧ left = text

/-- The text is cut where the mark stands first, and the copy of it that stands there is dropped. -/
def CutPast (same : Char -> Char -> Bool) (mark text taken left : Text) : Prop :=
  exists middle, CutAt (StartsWith same mark) text taken middle ∧ Drops same mark middle left

theorem CutAt.past {same : Char -> Char -> Bool} {mark text taken middle : Text}
    (h : CutAt (StartsWith same mark) text taken middle)
    (himp : StartsWith same mark middle -> StartsWith Text.sameLetter mark middle) :
    CutPast same mark text taken (skip mark middle).2 := by
  refine ⟨middle, h, ?_⟩
  by_cases hstarts : StartsWith same mark middle
  · rw [skip_of_startsWith (himp hstarts)]
    exact Or.inl hstarts.takesOff
  · refine Or.inr ⟨hstarts, ?_⟩
    have hend := h.found_or_end.resolve_left hstarts
    subst hend
    rw [skip]
    split
    · exact List.drop_nil
    · rfl

theorem cutPast_past (mark text : Text) :
    CutPast (· == ·) mark text (past mark text).1 (past mark text).2 :=
  (cutAt_upToMark mark text).past StartsWith.ignoringCase

theorem cutPast_pastIgnoringCase (mark text : Text) :
    CutPast Text.sameLetter mark text (pastIgnoringCase mark text).1
      (pastIgnoringCase mark text).2 :=
  (cutAt_upToMarkIgnoringCase mark text).past id

/-! # Groups -/

/-- A start of the text is consumed, and what is kept of it are characters of it in their order.
Without an end mark they are all but the first one and a closing delimiter at the end. -/
structure GroupCut (closing : Char) (text inside left consumed : Text) : Prop where
  whole : text = consumed ++ left
  kept : inside.Sublist consumed
  progress : text ≠ [] -> consumed ≠ []
  exact : endMark ∉ consumed -> text ≠ [] -> exists c ending, consumed = c :: inside ++ ending ∧
    (ending = [] ∨ ending = [closing])

section Groups

variable {opening closing : Char} {depth : Nat}

theorem eq_closing_of_depthAfter {last c : Char} (hdepth : 0 < depth)
    (h : depthAfter opening closing depth last c = 0) : c = closing := by
  unfold depthAfter at h
  grind

theorem exists_consumed (hdepth : 0 < depth) (last : Char) (text : Text) :
    exists consumed, text = consumed ++ (balancedFrom opening closing depth last text).2 ∧
      (balancedFrom opening closing depth last text).1.Sublist consumed ∧
      (last ≠ endMark -> endMark ∉ consumed -> exists ending,
        consumed = (balancedFrom opening closing depth last text).1 ++ ending ∧
          (ending = [] ∨ ending = [closing])) := by
  induction text generalizing depth last with
  | nil => exact ⟨[], rfl, List.Sublist.refl [], fun _ _ => ⟨[], rfl, Or.inl rfl⟩⟩
  | cons c rest ih =>
      rw [balancedFrom]
      dsimp only
      split
      · rename_i hend
        have hc := eq_closing_of_depthAfter hdepth hend
        exact ⟨[c], rfl, List.nil_sublist _, fun _ _ => ⟨[c], rfl, Or.inr (congrArg ([·]) hc)⟩⟩
      · rename_i hopen
        rcases ih (Nat.pos_of_ne_zero hopen) c with ⟨consumed, hwhole, hkept, hexact⟩
        refine ⟨c :: consumed, congrArg (c :: ·) hwhole, ?_, fun hlast hmarked => ?_⟩
        · split
          · exact hkept.cons c
          · exact hkept.cons_cons c
        · rw [List.mem_cons, not_or] at hmarked
          rcases hexact (Ne.symm hmarked.1) hmarked.2 with ⟨ending, hending, hclosing⟩
          rw [if_neg hlast]
          exact ⟨ending, congrArg (c :: ·) hending, hclosing⟩

theorem groupCut_balanced (opening closing : Char) (text : Text) :
    exists consumed, GroupCut closing text (balanced opening closing text).1
      (balanced opening closing text).2 consumed := by
  cases text with
  | nil =>
      exact ⟨[], rfl, List.Sublist.refl [], fun h => absurd rfl h, fun _ h => absurd rfl h⟩
  | cons c rest =>
      unfold balanced
      rw [balancedFrom]
      dsimp only
      split
      · exact ⟨[c], rfl, List.nil_sublist _, fun _ => List.cons_ne_nil c [],
          fun _ _ => ⟨c, [], rfl, Or.inl rfl⟩⟩
      · rename_i hopen
        rcases exists_consumed (Nat.pos_of_ne_zero hopen) c rest with
          ⟨consumed, hwhole, hkept, hexact⟩
        refine ⟨c :: consumed, congrArg (c :: ·) hwhole, hkept.cons c,
          fun _ => List.cons_ne_nil c consumed, fun hmarked _ => ?_⟩
        rw [List.mem_cons, not_or] at hmarked
        rcases hexact (Ne.symm hmarked.1) hmarked.2 with ⟨ending, hending, hclosing⟩
        exact ⟨c, ending, congrArg (c :: ·) hending, hclosing⟩

end Groups

end Selector
end TreeQuery
