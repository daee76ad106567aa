import Mathlib.Data.List.Infix
import TreeQuery.Text.Lowercase

/-!
# Lower case of a part of a text

A part of a text has the lower-case form that it has by itself, but for the capital sigma, which
may end a word in the one place and not in the other.  When every sigma of the part has the same
form in both, the part is found again after both texts are lower-cased.
-/

namespace TreeQuery
namespace Text

/-! # Characters in their place -/

/-- Whether a capital sigma ends a word between these texts, of which the first is given from its
end. -/
def endsWord (before rest : Text) : Bool :=
  meetsCased before && !meetsCased rest

def lowerAt (before : Text) (c : Char) (rest : Text) : Text :=
  if c = 'Σ' then [if endsWord before rest then 'ς' else 'σ'] else lowerChar c

theorem length_lowerAt (before other : Text) (c : Char) (rest otherRest : Text) :
    (lowerAt before c rest).length = (lowerAt other c otherRest).length := by
  unfold lowerAt
  by_cases hsigma : c = 'Σ'
  · rw [if_pos hsigma, if_pos hsigma]
    rfl
  · rw [if_neg hsigma, if_neg hsigma]

theorem lowerAt_eq_iff {before other rest otherRest : Text} {c : Char} :
    lowerAt before c rest = lowerAt other c otherRest ↔
      (c = 'Σ' -> endsWord before rest = endsWord other otherRest) := by
  unfold lowerAt
  by_cases hsigma : c = 'Σ'
  · rw [if_pos hsigma, if_pos hsigma]
    cases endsWord before rest <;> cases endsWord other otherRest <;> simp [hsigma]
  · simp [hsigma]

/-! # Parts of a text -/

/-- Lower-case a text that stands between two others, of which the first is given from its end. -/
def lowerBetween (before : Text) : Text -> Text -> Text
  | [], _ => []
  | c :: rest, after =>
      lowerAt before c (rest ++ after) ++ lowerBetween (c :: before) rest after

theorem lowerAfter_append (before text after : Text) :
    lowerAfter before (text ++ after) =
      lowerBetween before text after ++ lowerAfter (text.reverse ++ before) after := by
  induction text generalizing before with
  | nil => rfl
  | cons c rest ih =>
      change lowerAt before c (rest ++ after) ++ lowerAfter (c :: before) (rest ++ after) = _
      rw [ih, lowerBetween, List.reverse_cons, List.append_assoc, List.append_assoc]
      rfl

theorem lower_eq (text : Text) : lower text = lowerBetween [] text [] := by
  have hall := lowerAfter_append [] text []
  rw [List.append_nil, lowerAfter, List.append_nil] at hall
  exact hall

theorem length_lowerBetween (before other text after otherAfter : Text) :
    (lowerBetween before text after).length = (lowerBetween other text otherAfter).length := by
  induction text generalizing before other with
  | nil => rfl
  | cons c rest ih =>
      rw [lowerBetween, lowerBetween, List.length_append, List.length_append,
        length_lowerAt before other, ih (c :: before) (c :: other)]

/-- The lower-case form of a text depends on its neighbours through its sigmas only. -/
theorem lowerBetween_eq_iff {before other text after otherAfter : Text} :
    lowerBetween before text after = lowerBetween other text otherAfter ↔
      forall start rest, text = start ++ 'Σ' :: rest ->
        endsWord (start.reverse ++ before) (rest ++ after) =
          endsWord (start.reverse ++ other) (rest ++ otherAfter) := by
  induction text generalizing before other with
  | nil =>
      constructor
      · intro _ start rest htext
        exact absurd htext.symm (List.append_ne_nil_of_right_ne_nil _ (List.cons_ne_nil _ _))
      · intro _
        rfl
  | cons c text ih =>
      have hlength := length_lowerAt before other c (text ++ after) (text ++ otherAfter)
      have hsplit : lowerBetween before (c :: text) after =
            lowerBetween other (c :: text) otherAfter ↔
          lowerAt before c (text ++ after) = lowerAt other c (text ++ otherAfter) ∧
            lowerBetween (c :: before) text after = lowerBetween (c :: other) text otherAfter := by
        constructor
        · intro hsame
          exact List.append_inj hsame hlength
        · rintro ⟨hfirst, hothers⟩
          rw [lowerBetween, lowerBetween, hfirst, hothers]
      rw [hsplit, lowerAt_eq_iff, ih]
      constructor
      · rintro ⟨hfirst, hothers⟩ start rest htext
        cases start with
        | nil =>
            cases htext
            exact hfirst rfl
        | cons d start =>
            cases htext
            simpa using hothers start rest rfl
      · intro hsigmas
        constructor
        · rintro rfl
          exact hsigmas [] text rfl
        · rintro start rest rfl
          simpa using hsigmas (c :: start) rest rfl

/-! # Sigmas that keep their form -/

/-- Every sigma of the part ends a word between these texts if it does in the part by itself. -/
def KeepsSigmas (before part after : Text) : Prop :=
  forall start rest, part = start ++ 'Σ' :: rest ->
    endsWord (start.reverse ++ before.reverse) (rest ++ after) = endsWord start.reverse rest

section Parts

variable {before part after : Text}

theorem lowerBetween_eq_lower_iff :
    lowerBetween before.reverse part after = lower part ↔ KeepsSigmas before part after := by
  rw [lower_eq, lowerBetween_eq_iff]
  simp only [List.append_nil]
  rfl

instance : Decidable (KeepsSigmas before part after) :=
  decidable_of_iff _ lowerBetween_eq_lower_iff

theorem keepsSigmas_of_not_mem (h : 'Σ' ∉ part) : KeepsSigmas before part after := by
  rintro start rest rfl
  exact absurd (List.mem_append_right start List.mem_cons_self) h

theorem lower_surrounded (before part after : Text) :
    lower (before ++ (part ++ after)) =
      lowerBetween [] before (part ++ after) ++
        (lowerBetween before.reverse part after ++
          lowerAfter (part.reverse ++ before.reverse) after) := by
  rw [lower, lowerAfter_append, List.append_nil, lowerAfter_append]

/-! # Finding the part again -/

theorem occursIn_iff {needle text : Text} : occursIn needle text = true ↔ needle <:+: text := by
  induction text with
  | nil =>
      rw [occursIn, List.isEmpty_iff, List.infix_nil]
  | cons c rest ih =>
      rw [occursIn, Bool.or_eq_true, List.isPrefixOf_iff_prefix, ih, List.infix_cons_iff]

theorem KeepsSigmas.isInfix (h : KeepsSigmas before part after) :
    lower part <:+: lower (before ++ (part ++ after)) := by
  rw [lower_surrounded, lowerBetween_eq_lower_iff.mpr h, ← List.append_assoc]
  exact List.infix_append _ _ _

theorem isPrefixOf_lower_iff :
    (lower part).isPrefixOf (lower (part ++ after)) = true ↔ KeepsSigmas [] part after := by
  have hlower : lower (part ++ after) =
      lowerBetween [] part after ++ lowerAfter (part.reverse ++ []) after :=
    lower_surrounded [] part after
  have hlength : (lower part).length = (lowerBetween [] part after).length := by
    rw [lower_eq]
    exact length_lowerBetween [] [] part [] after
  rw [← lowerBetween_eq_lower_iff, List.isPrefixOf_iff_prefix]
  constructor
  · rintro ⟨rest, hrest⟩
    exact (List.append_inj_left (hrest.trans hlower) hlength).symm
  · intro hsame
    exact ⟨_, (congrArg (· ++ _) hsame.symm).trans hlower.symm⟩

theorem isSuffixOf_lower_iff :
    (lower part).isSuffixOf (lower (before ++ part)) = true ↔ KeepsSigmas before part [] := by
  have hlower : lower (before ++ part) =
      lowerBetween [] before part ++ lowerBetween before.reverse part [] := by
    have hall := lower_surrounded before part []
    rw [lowerAfter, List.append_nil, List.append_nil] at hall
    exact hall
  have hlength : (lower part).length = (lowerBetween before.reverse part []).length := by
    rw [lower_eq]
    exact length_lowerBetween [] before.reverse part [] []
  rw [← lowerBetween_eq_lower_iff, List.isSuffixOf_iff_suffix]
  constructor
  · rintro ⟨rest, hrest⟩
    exact (List.append_inj_right' (hrest.trans hlower) hlength).symm
  · intro hsame
    exact ⟨_, (congrArg (_ ++ ·) hsame.symm).trans hlower.symm⟩

end Parts
end Text
end TreeQuery
