import TreeQuery.Proofs.Selector.Characters
import TreeQuery.Proofs.Selector.Openings

/-!
# Texts without breaks

What is cut out for the right side of a combinator has no separator outside of its groups, even
where a group was not closed and the closing delimiter that is added closes another one.
-/

namespace TreeQuery
namespace Selector

open Scan

/-! # Cutting step by step -/

theorem subSelector_group {opening closing : Char} (pair : Pair opening closing) (rest : Text) :
    subSelector (opening :: rest) =
      (opening :: (balanced opening closing (opening :: rest)).1 ++
          closing :: (subSelector (balanced opening closing (opening :: rest)).2).1,
        (subSelector (balanced opening closing (opening :: rest)).2).2) := by
  have hlength : (balanced opening closing (opening :: rest)).2.length ≤ rest.length :=
    Nat.le_of_lt_succ length_balanced_lt
  show subSelectorWithin (rest.length + 1) (opening :: rest) = _
  rw [subSelectorWithin_group pair]
  simp only [subSelectorWithin_eq hlength]

structure Joins (c : Char) : Prop where
  parenthesis : c ≠ '('
  bracket : c ≠ '['
  separator : isSeparator c = false

theorem subSelector_joins {c : Char} (h : Joins c) (rest : Text) :
    subSelector (c :: rest) = (c :: (subSelector rest).1, (subSelector rest).2) := by
  show subSelectorWithin (rest.length + 1) (c :: rest) = _
  rw [subSelectorWithin]
  simp only [h.parenthesis, h.bracket, h.separator, if_false]
  rfl

theorem Plain.joins {c : Char} (h : Plain c) : Joins c :=
  ⟨(Pair.parentheses.ne_of_not_delimiter h.delimiter).1,
    (Pair.brackets.ne_of_not_delimiter h.delimiter).1, h.separator⟩

/-- A text is cut at its end or a separator, behind a group, or behind a character. -/
theorem cut_induction {motive : Text -> Prop} (ends : forall text, Ends text -> motive text)
    (group : forall opening closing rest, Pair opening closing ->
      motive (balanced opening closing (opening :: rest)).2 -> motive (opening :: rest))
    (joins : forall c rest, Joins c -> motive rest -> motive (c :: rest)) (text : Text) :
    motive text := by
  generalize hlength : text.length = length
  induction length using Nat.strongRecOn generalizing text with
  | _ length ih =>
      cases text with
      | nil => exact ends [] (fun c hc => by cases hc)
      | cons c rest =>
          by_cases hparenthesis : c = '('
          · subst hparenthesis
            exact group _ _ rest .parentheses (ih _ (hlength ▸ length_balanced_lt) _ rfl)
          · by_cases hbracket : c = '['
            · subst hbracket
              exact group _ _ rest .brackets (ih _ (hlength ▸ length_balanced_lt) _ rfl)
            · cases hseparator : isSeparator c with
              | true =>
                  apply ends
                  rintro d ⟨⟩
                  exact hseparator
              | false =>
                  have hrest := ih rest.length (hlength ▸ Nat.lt_succ_self _) rest rfl
                  exact joins c rest ⟨hparenthesis, hbracket, hseparator⟩ hrest

theorem ends_subSelector (text : Text) : Ends (subSelector text).2 := by
  induction text using cut_induction with
  | ends text h => rwa [subSelector_of_ends h]
  | group opening closing rest pair ih => rwa [subSelector_group pair]
  | joins c rest h ih => rwa [subSelector_joins h]

/-! # What is taken and left belongs to the text -/

theorem balancedFrom_suffix {opening closing : Char} {depth : Nat} {last : Char} {text : Text} :
    (balancedFrom opening closing depth last text).2 <:+ text := by
  induction text generalizing depth last with
  | nil => exact List.suffix_rfl
  | cons c rest ih =>
      rw [balancedFrom]
      split
      · exact List.suffix_cons c rest
      · exact ih.trans (List.suffix_cons c rest)

theorem balanced_suffix {opening closing : Char} {text : Text} :
    (balanced opening closing text).2 <:+ text :=
  balancedFrom_suffix

theorem mem_of_mem_balancedFrom {opening closing : Char} {depth : Nat} {last c : Char}
    {text : Text} (h : c ∈ (balancedFrom opening closing depth last text).1) : c ∈ text := by
  induction text generalizing depth last with
  | nil => exact h
  | cons d rest ih =>
      rw [balancedFrom] at h
      split at h
      · cases h
      · simp only at h
        split at h
        · exact List.mem_cons_of_mem _ (ih h)
        · rcases List.mem_cons.mp h with rfl | h
          · exact List.mem_cons_self
          · exact List.mem_cons_of_mem _ (ih h)

theorem mem_of_mem_balanced {opening closing c : Char} {text : Text}
    (h : c ∈ (balanced opening closing text).1) : c ∈ text :=
  mem_of_mem_balancedFrom h

theorem subSelector_suffix (text : Text) : (subSelector text).2 <:+ text := by
  induction text using cut_induction with
  | ends text h => simp only [subSelector_of_ends h, List.suffix_rfl]
  | group opening closing rest pair ih =>
      rw [subSelector_group pair]
      exact ih.trans balanced_suffix
  | joins c rest h ih =>
      rw [subSelector_joins h]
      exact ih.trans (List.suffix_cons c rest)

theorem marked_subSelector {text : Text} (h : endMark ∉ text) : endMark ∉ (subSelector text).1 := by
  induction text using cut_induction with
  | ends text hends =>
      rw [subSelector_of_ends hends]
      exact List.not_mem_nil
  | group opening closing rest pair ih =>
      have hleft := ih fun hmem => h (balanced_suffix.subset hmem)
      have hinside : endMark ∉ (balanced opening closing (opening :: rest)).1 :=
        fun hmem => h (mem_of_mem_balanced hmem)
      rw [subSelector_group pair]
      simp [hinside, hleft, pair.ordinary.1.2.symm, pair.ordinary.2.2.symm]
  | joins c rest hc ih =>
      rw [List.mem_cons, not_or] at h
      rw [subSelector_joins hc]
      simp [h.1, ih h.2]

/-! # Texts that are cut out as a whole -/

/-- No separator stands outside of groups. -/
def Unbroken (text : Text) : Prop :=
  (subSelector text).2 = []

theorem unbroken_nil : Unbroken [] :=
  rfl

theorem unbroken_joins {c : Char} (h : Joins c) {rest : Text} :
    Unbroken (c :: rest) ↔ Unbroken rest := by
  rw [Unbroken, subSelector_joins h, Unbroken]

theorem unbroken_group {opening closing : Char} (pair : Pair opening closing) {rest : Text} :
    Unbroken (opening :: rest) ↔ Unbroken (balanced opening closing (opening :: rest)).2 := by
  rw [Unbroken, subSelector_group pair, Unbroken]

theorem Unbroken.of_append {text rest : Text} (htext : forall c, c ∈ text -> Joins c)
    (h : Unbroken (text ++ rest)) : Unbroken rest := by
  induction text with
  | nil => exact h
  | cons c text ih =>
      apply ih fun d hd => htext d (List.mem_cons_of_mem _ hd)
      exact (unbroken_joins (htext c List.mem_cons_self)).mp h

theorem Unbroken.not_separator {c : Char} {rest : Text} (h : Unbroken (c :: rest)) :
    isSeparator c = false := by
  apply Bool.eq_false_iff.mpr
  intro hseparator
  have hends : Ends (c :: rest) := by
    rintro d ⟨⟩
    exact hseparator
  rw [Unbroken, subSelector_of_ends hends] at h
  cases h

theorem Unbroken.head {text : Text} (h : Unbroken text) :
    forall c, text.head? = some c -> isSeparator c = false := by
  intro c hc
  cases text with
  | nil => cases hc
  | cons d rest =>
      cases hc
      exact h.not_separator

theorem unbroken_subSelector {text : Text} (hmarked : endMark ∉ text) :
    Unbroken (subSelector text).1 := by
  induction text using cut_induction with
  | ends text h =>
      rw [subSelector_of_ends h]
      exact unbroken_nil
  | group opening closing rest pair ih =>
      have hrest : endMark ∉ rest := fun hmem => hmarked (List.mem_cons_of_mem _ hmem)
      rw [subSelector_group pair, List.cons_append, unbroken_group pair]
      cases hopen : stillOpen opening closing 0 opening rest with
      | none =>
          rcases exists_of_closed pair hopen hrest with ⟨inside, left, rfl, hinside⟩
          rw [hinside] at ih ⊢
          rw [hinside]
          exact ih fun hmem => hrest (by simp [hmem])
      | some depth =>
          -- The delimiter that is added ends the text, whether it closes the group or not.
          rcases balanced_of_open pair hopen hrest with ⟨hinside, hadded⟩
          have hnothing : subSelector [] = ([], []) := rfl
          rw [hinside, hnothing, hadded]
          exact unbroken_nil
  | joins c rest h ih =>
      rw [List.mem_cons, not_or] at hmarked
      rw [subSelector_joins h, unbroken_joins h]
      exact ih hmarked.2

theorem Unbroken.left {text after : Text} (hmarked : endMark ∉ text)
    (h : Unbroken (text ++ after)) : Unbroken text := by
  induction text using cut_induction with
  | ends text hends =>
      cases text with
      | nil => exact unbroken_nil
      | cons c rest =>
          have hc := hends c rfl
          rw [h.not_separator] at hc
          cases hc
  | group opening closing rest pair ih =>
      have hrest : endMark ∉ rest := fun hmem => hmarked (List.mem_cons_of_mem _ hmem)
      rw [unbroken_group pair]
      cases hopen : stillOpen opening closing 0 opening rest with
      | none =>
          rcases exists_of_closed pair hopen hrest with ⟨inside, left, rfl, hinside⟩
          rw [List.cons_append, unbroken_group pair, List.append_assoc, List.cons_append,
            hinside] at h
          rw [hinside] at ih ⊢
          exact ih (fun hmem => hrest (by simp [hmem])) h
      | some depth =>
          rw [(balanced_of_open pair hopen hrest).1]
          exact unbroken_nil
  | joins c rest hc ih =>
      rw [List.mem_cons, not_or] at hmarked
      rw [List.cons_append, unbroken_joins hc] at h
      exact (unbroken_joins hc).mpr (ih hmarked.2 h)

theorem Unbroken.exists_trim {text : Text} (h : Unbroken text) :
    exists after, text = Text.trim text ++ after ∧
      forall c, c ∈ after -> Text.isWhitespace c = true := by
  rcases Text.exists_trim text with ⟨before, after, htext, hbefore, hafter⟩
  cases before with
  | nil => exact ⟨after, htext, hafter⟩
  | cons c before =>
      rw [htext] at h
      have hseparator := h.not_separator
      rw [isSeparator, hbefore c List.mem_cons_self, Bool.or_true] at hseparator
      cases hseparator

theorem Unbroken.trim {text : Text} (hmarked : endMark ∉ text) (h : Unbroken text) :
    Unbroken (Text.trim text) := by
  rcases h.exists_trim with ⟨after, htext, _⟩
  rw [htext] at h
  exact h.left fun hmem => hmarked (Text.mem_of_mem_trim hmem)

end Selector
end TreeQuery
