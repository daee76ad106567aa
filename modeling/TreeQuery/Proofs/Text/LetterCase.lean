import Mathlib.Data.List.Forall2
import Mathlib.Data.List.Nodup
import TreeQuery.Proofs.Text.Character
import TreeQuery.Proofs.Text.Numeral

/-!
# Letters in either case

Texts that differ only in the case of the letters `A` to `Z` are trimmed alike, have the same
lower-case form and are read as the same numbers.  No class of characters and no mark tells a
capital of these letters from the small one.
-/

namespace TreeQuery
namespace Text

/-! # Characters -/

def capitals : Text :=
  "ABCDEFGHIJKLMNOPQRSTUVWXYZ"

theorem mem_capitals_or (c : Char) : c ∈ capitals ∨ c.toLower = c := by
  by_cases h : c.val ≥ 'A'.val ∧ c.val ≤ 'Z'.val
  · have hfirst : 65 ≤ c.toNat := UInt32.le_iff_toNat_le.mp h.1
    have hlast : c.toNat ≤ 90 := UInt32.le_iff_toNat_le.mp h.2
    have hcapitals : (List.range' 65 26).all (fun code => capitals.contains (Char.ofNat code)) := by
      decide
    have hcode : c.toNat ∈ List.range' 65 26 := List.mem_range'_1.mpr (by omega)
    have hc := List.all_eq_true.mp hcapitals c.toNat hcode
    rw [Char.ofNat_toNat] at hc
    exact Or.inl (List.contains_iff_mem.mp hc)
  · exact Or.inr (dif_neg h)

/-- The function does not tell a capital from its small letter. -/
def IsBlind {α : Type} (f : Char -> α) : Prop :=
  forall c, f c.toLower = f c

theorem isBlind_of_capitals {α : Type} [DecidableEq α] {f : Char -> α}
    (h : capitals.all (fun c => decide (f c.toLower = f c)) = true) : IsBlind f := by
  intro c
  rcases mem_capitals_or c with hmem | hsame
  · exact of_decide_eq_true (List.all_eq_true.mp h c hmem)
  · rw [hsame]

theorem isBlind_isWhitespace : IsBlind isWhitespace :=
  isBlind_of_capitals (by decide +kernel)

theorem isBlind_isAlphanumeric : IsBlind isAlphanumeric :=
  isBlind_of_capitals (by decide +kernel)

theorem isBlind_lowerChar : IsBlind lowerChar :=
  isBlind_of_capitals (by decide +kernel)

theorem isBlind_caseIgnorable : IsBlind (fun c => Span.covers caseIgnorableSpans c.toNat) :=
  isBlind_of_capitals (by decide +kernel)

theorem isBlind_cased : IsBlind (fun c => Span.covers casedSpans c.toNat) :=
  isBlind_of_capitals (by decide +kernel)

theorem isBlind_isDigit : IsBlind Char.isDigit :=
  isBlind_of_capitals (by decide +kernel)

def IsMark (mark : Char) : Prop :=
  mark ∉ capitals ∧ mark ∉ foldAscii capitals

instance (mark : Char) : Decidable (IsMark mark) :=
  inferInstanceAs (Decidable (_ ∧ _))

theorem IsMark.toLower_eq_iff {mark c : Char} (h : IsMark mark) : c.toLower = mark ↔ c = mark := by
  rcases mem_capitals_or c with hmem | hsame
  · constructor
    · rintro rfl
      exact absurd (List.mem_map_of_mem hmem) h.2
    · rintro rfl
      exact absurd hmem h.1
  · rw [hsame]

theorem sameLetter_toLower (c d : Char) : sameLetter c.toLower d = sameLetter c d := by
  have hsame : forall c d, sameLetter c d = (lowerChar c == lowerChar d) := by
    intro c d
    unfold sameLetter
    by_cases h : c = d
    · simp [h]
    · simp [h]
  rw [hsame, hsame, isBlind_lowerChar]

/-! # Texts -/

theorem takeWhile_foldAscii {test : Char -> Bool} (h : IsBlind test) (text : Text) :
    (foldAscii text).takeWhile test = foldAscii (text.takeWhile test) := by
  have htest : test ∘ Char.toLower = test := funext h
  rw [foldAscii, List.takeWhile_map, htest, foldAscii]

theorem dropWhile_foldAscii {test : Char -> Bool} (h : IsBlind test) (text : Text) :
    (foldAscii text).dropWhile test = foldAscii (text.dropWhile test) := by
  have htest : test ∘ Char.toLower = test := funext h
  rw [foldAscii, List.dropWhile_map, htest, foldAscii]

theorem trim_foldAscii (text : Text) : trim (foldAscii text) = foldAscii (trim text) := by
  have hreverse : forall text, (foldAscii text).reverse = foldAscii text.reverse :=
    fun text => List.map_reverse.symm
  unfold trim trimEnd trimStart
  rw [dropWhile_foldAscii isBlind_isWhitespace, hreverse, dropWhile_foldAscii isBlind_isWhitespace,
    hreverse]

theorem meetsCased_foldAscii (text : Text) : meetsCased (foldAscii text) = meetsCased text := by
  unfold meetsCased
  rw [dropWhile_foldAscii isBlind_caseIgnorable]
  cases text.dropWhile (fun c => Span.covers caseIgnorableSpans c.toNat) with
  | nil => rfl
  | cons c rest => exact isBlind_cased c

/-- Whether a capital sigma is final does not depend on the case of the letters around it. -/
theorem lower_foldAscii (text : Text) : lower (foldAscii text) = lower text := by
  have hafter : forall before text,
      lowerAfter (foldAscii before) (foldAscii text) = lowerAfter before text := by
    intro before text
    induction text generalizing before with
    | nil => rfl
    | cons c rest ih =>
        have hrest := ih (c :: before)
        have hsigma : c.toLower = 'Σ' ↔ c = 'Σ' := IsMark.toLower_eq_iff (by decide)
        show lowerAfter (foldAscii before) (c.toLower :: foldAscii rest) = _
        rw [lowerAfter, lowerAfter]
        simp only [hsigma, meetsCased_foldAscii, isBlind_lowerChar c]
        rw [← hrest]
        rfl
  exact hafter [] text

theorem readNat?_foldAscii (text : Text) : readNat? (foldAscii text) = readNat? text := by
  have hempty : (foldAscii text).isEmpty = text.isEmpty := by
    cases text <;> rfl
  have hdigits : (foldAscii text).all Char.isDigit = text.all Char.isDigit := by
    have hblind : Char.isDigit ∘ Char.toLower = Char.isDigit := funext isBlind_isDigit
    rw [foldAscii, List.all_map, hblind]
  unfold readNat?
  rw [hempty, hdigits]
  cases hall : text.all Char.isDigit with
  | false => simp
  | true =>
      have hsame : foldAscii text = text := by
        have hdigit : forall c, c ∈ text -> c.toLower = c := by
          intro c hc
          rcases mem_capitals_or c with hmem | hsame
          · have hcapital := List.all_eq_true.mp hall c hc
            have hcapitals : capitals.all (fun c => !c.isDigit) = true := by decide
            have hnot := List.all_eq_true.mp hcapitals c hmem
            rw [hcapital] at hnot
            cases hnot
          · exact hsame
        exact (List.map_congr_left hdigit).trans (List.map_id _)
      rw [hsame]

theorem readInt32?_foldAscii (text : Text) : readInt32? (foldAscii text) = readInt32? text := by
  have hplus : forall {c : Char}, c.toLower = '+' ↔ c = '+' := IsMark.toLower_eq_iff (by decide)
  have hminus : forall {c : Char}, c.toLower = '-' ↔ c = '-' := IsMark.toLower_eq_iff (by decide)
  cases text with
  | nil => rfl
  | cons c rest =>
      have hrest := readNat?_foldAscii rest
      have hall := readNat?_foldAscii (c :: rest)
      show readInt32? (c.toLower :: foldAscii rest) = _
      by_cases hc : c = '+'
      · subst hc
        simp only [readInt32?, hplus.mpr rfl, hrest]
      · by_cases hd : c = '-'
        · subst hd
          simp only [readInt32?, hminus.mpr rfl, hrest]
        · have hunsigned : forall {c : Char} (rest : Text), c ≠ '+' -> c ≠ '-' ->
              readInt32? (c :: rest) = ((readNat? (c :: rest)).map Int.ofNat).filter fitsInt32 := by
            intro c rest hplus hminus
            unfold readInt32?
            split
            · rename_i heq
              exact absurd (List.cons.inj heq).1 hplus
            · rename_i heq
              exact absurd (List.cons.inj heq).1 hminus
            · rfl
          have hfolded : readNat? (c.toLower :: foldAscii rest) = readNat? (c :: rest) := hall
          rw [hunsigned _ (fun h => hc (hplus.mp h)) (fun h => hd (hminus.mp h)),
            hunsigned _ hc hd, hfolded]

/-! # Texts that are alike -/

/-- The texts differ at most in the case of the letters `A` to `Z`. -/
def Alike (first second : Text) : Prop :=
  foldAscii first = foldAscii second

instance (first second : Text) : Decidable (Alike first second) :=
  inferInstanceAs (Decidable (_ = _))

namespace Alike

variable {first second : Text}

theorem congr {α : Type} {f : Text -> α} (hfold : forall text, f (foldAscii text) = f text)
    (h : Alike first second) : f first = f second := by
  rw [← hfold first, h, hfold second]

theorem map {f : Text -> Text} (hfold : forall text, f (foldAscii text) = foldAscii (f text))
    (h : Alike first second) : Alike (f first) (f second) := by
  unfold Alike
  rw [← hfold first, h, hfold second]

theorem length_eq (h : Alike first second) : first.length = second.length :=
  h.congr fun _ => List.length_map _

theorem isEmpty_eq (h : Alike first second) : first.isEmpty = second.isEmpty :=
  h.congr fun text => by cases text <;> rfl

theorem drop (h : Alike first second) (count : Nat) : Alike (first.drop count) (second.drop count) :=
  h.map fun _ => List.map_drop.symm

end Alike

/-! # Spellings of one name -/

def smallLetters : Text :=
  "abcdefghijklmnopqrstuvwxyz"

def SameUpToCase (c d : Char) : Prop :=
  c = d ∨ (c, d) ∈ capitals.zip smallLetters ∨ (d, c) ∈ capitals.zip smallLetters

instance (c d : Char) : Decidable (SameUpToCase c d) :=
  inferInstanceAs (Decidable (_ ∨ _ ∨ _))

theorem toLower_of_mem_zip {c d : Char} (h : (c, d) ∈ capitals.zip smallLetters) :
    c.toLower = d ∧ d.toLower = d := by
  have hall : (capitals.zip smallLetters).all
      (fun pair => decide (pair.1.toLower = pair.2 ∧ pair.2.toLower = pair.2)) = true := by decide
  exact of_decide_eq_true (List.all_eq_true.mp hall (c, d) h)

theorem mem_zip_of_mem_capitals {c : Char} (h : c ∈ capitals) :
    (c, c.toLower) ∈ capitals.zip smallLetters := by
  have hall : capitals.all
      (fun c => (capitals.zip smallLetters).contains (c, c.toLower)) = true := by decide
  exact List.contains_iff_mem.mp (List.all_eq_true.mp hall c h)

theorem capital_eq_of_mem_zip {c d small : Char} (hc : (c, small) ∈ capitals.zip smallLetters)
    (hd : (d, small) ∈ capitals.zip smallLetters) : c = d := by
  have hsmall : ((capitals.zip smallLetters).map Prod.snd).Nodup := by decide
  exact congrArg Prod.fst (List.inj_on_of_nodup_map hsmall hc hd rfl)

theorem toLower_eq_toLower_iff (c d : Char) : c.toLower = d.toLower ↔ SameUpToCase c d := by
  constructor
  · intro h
    rcases mem_capitals_or c with hc | hc
    · have hsmall := mem_zip_of_mem_capitals hc
      rcases mem_capitals_or d with hd | hd
      · rw [h] at hsmall
        exact Or.inl (capital_eq_of_mem_zip hsmall (mem_zip_of_mem_capitals hd))
      · rw [h, hd] at hsmall
        exact Or.inr (Or.inl hsmall)
    · rcases mem_capitals_or d with hd | hd
      · have hsmall := mem_zip_of_mem_capitals hd
        rw [← h, hc] at hsmall
        exact Or.inr (Or.inr hsmall)
      · rw [hc, hd] at h
        exact Or.inl h
  · intro h
    rcases h with rfl | h | h
    · rfl
    · rcases toLower_of_mem_zip h with ⟨hlower, hfixed⟩
      rw [hlower, hfixed]
    · rcases toLower_of_mem_zip h with ⟨hlower, hfixed⟩
      rw [hlower, hfixed]

/-- The texts have the same characters up to the case of the letters `A` to `Z`. -/
def SameName (first second : Text) : Prop :=
  List.Forall₂ SameUpToCase first second

instance (first second : Text) : Decidable (SameName first second) :=
  inferInstanceAs (Decidable (List.Forall₂ _ _ _))

theorem alike_iff_sameName (first second : Text) :
    Alike first second ↔ SameName first second := by
  have hmap : Alike first second ↔
      List.Forall₂ (fun c d => c.toLower = d.toLower) first second := by
    rw [Alike, foldAscii, foldAscii, ← List.forall₂_eq_eq_eq, List.forall₂_map_left_iff,
      List.forall₂_map_right_iff]
  have hsame : (fun c d => Char.toLower c = Char.toLower d) = SameUpToCase := by
    funext c d
    exact propext (toLower_eq_toLower_iff c d)
  rw [hmap, hsame, SameName]

end Text
end TreeQuery
