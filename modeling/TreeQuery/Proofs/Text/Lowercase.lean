import TreeQuery.Proofs.Text.Character

/-!
# Texts in lower case

Lower-casing makes characters that it leaves alone, so that a text in lower case stays as it is
when it is lower-cased again.  A mark that is in a text in lower case was there before.
-/

namespace TreeQuery

/-! # Tables of shifts -/

namespace Shift

/-- What the first shift makes is left alone by the second, because it lies outside of its span or
between its steps. -/
def clears (shift other : Shift) : Bool :=
  Nat.blt (shift.target shift.last) other.first || Nat.blt other.last (shift.target shift.first) ||
    (Nat.beq shift.step 2 || Nat.beq shift.first shift.last) && Nat.beq other.step 2 &&
      Nat.blt 0 (shift.target shift.first) &&
        Nat.beq ((shift.target shift.first + other.first) % 2) 1

def staysValid (shift : Shift) : Bool :=
  Nat.blt (shift.target shift.last) 0xD800 ||
    Nat.blt 0xDFFF (shift.target shift.first) && Nat.blt (shift.target shift.last) 0x110000

variable {shift other : Shift} {code : Nat}

theorem span_of_moves (h : shift.moves code = true) :
    shift.first ≤ code ∧ code ≤ shift.last ∧ (code - shift.first) % shift.step = 0 := by
  unfold moves at h
  simp only [Bool.and_eq_true, decide_eq_true_eq, beq_iff_eq] at h
  exact ⟨h.1.1, h.1.2, h.2⟩

theorem target_between (h : shift.moves code = true) :
    shift.target shift.first ≤ shift.target code ∧
      shift.target code ≤ shift.target shift.last := by
  have hspan := span_of_moves h
  unfold target
  omega

theorem not_moves_of_clears (hclears : shift.clears other = true)
    (h : shift.moves code = true) : other.moves (shift.target code) = false := by
  have hbetween := target_between h
  have hspan := span_of_moves h
  apply Bool.eq_false_iff.mpr
  intro hmoved
  have hother := span_of_moves hmoved
  unfold clears at hclears
  simp only [Bool.or_eq_true, Bool.and_eq_true, Nat.blt_eq, Nat.beq_eq] at hclears
  rcases hclears with (habove | hbelow) | ⟨⟨⟨hstep, hsteps⟩, hpositive⟩, hodd⟩
  · omega
  · omega
  · -- The first shift goes in steps of two as well, from a start of the other parity.
    have heven : (code - shift.first) % 2 = 0 := by
      rcases hstep with hstep | hsingle
      · rw [← hstep]
        exact hspan.2.2
      · omega
    rw [hsteps] at hother
    unfold target at hother hodd hpositive
    omega

theorem isValidChar_of_staysValid (hvalid : shift.staysValid = true)
    (h : shift.moves code = true) : (shift.target code).isValidChar := by
  have hbetween := target_between h
  unfold staysValid at hvalid
  simp only [Bool.or_eq_true, Bool.and_eq_true, Nat.blt_eq] at hvalid
  unfold Nat.isValidChar
  omega

theorem apply_eq_self {shifts : List Shift}
    (h : forall shift, shift ∈ shifts -> shift.moves code = false) : apply shifts code = code := by
  rcases apply_eq_or shifts code with hsame | ⟨shift, hmem, hmoves, _⟩
  · exact hsame
  · rw [h shift hmem] at hmoves
    contradiction

end Shift

namespace Text

/-! # Characters in lower case -/

/-- Lower-casing leaves the character alone wherever it stands. -/
structure IsLow (c : Char) : Prop where
  lowerChar : lowerChar c = [c]
  ne_sigma : c ≠ 'Σ'

instance (c : Char) : Decidable (IsLow c) :=
  decidable_of_iff (Text.lowerChar c = [c] ∧ c ≠ 'Σ') ⟨fun h => ⟨h.1, h.2⟩, fun h => ⟨h.1, h.2⟩⟩

theorem lowercaseShifts_clear {shift other : Shift} (h : shift ∈ lowercaseShifts)
    (hother : other ∈ lowercaseShifts) : shift.clears other = true := by
  have htable : lowercaseShifts.all (fun shift => lowercaseShifts.all shift.clears) = true := by
    decide +kernel
  exact List.all_eq_true.mp (List.all_eq_true.mp htable shift h) other hother

theorem lowercaseShifts_staysValid {shift : Shift} (h : shift ∈ lowercaseShifts) :
    shift.staysValid = true := by
  have htable : lowercaseShifts.all Shift.staysValid = true := by
    decide +kernel
  exact List.all_eq_true.mp htable shift h

theorem isLow_of_moved {shift : Shift} {code : Nat} (hmem : shift ∈ lowercaseShifts)
    (hmoves : shift.moves code = true) : IsLow (Char.ofNat (shift.target code)) := by
  have hstays : forall other, other ∈ lowercaseShifts ->
      other.moves (shift.target code) = false :=
    fun other hother => Shift.not_moves_of_clears (lowercaseShifts_clear hmem hother) hmoves
  have hvalid := Shift.isValidChar_of_staysValid (lowercaseShifts_staysValid hmem) hmoves
  have hcode : (Char.ofNat (shift.target code)).toNat = shift.target code := by
    have hchar : Char.ofNat (shift.target code) = Char.ofNatAux (shift.target code) hvalid :=
      dif_pos hvalid
    rw [hchar]
    rfl
  have hdotted : Char.ofNat (shift.target code) ≠ '\u0130' := by
    intro hsame
    rw [hsame] at hcode
    have havoids : Shift.avoids lowercaseShifts 0x130 = true := by decide +kernel
    have haway := of_decide_eq_true (List.all_eq_true.mp havoids shift hmem)
    have hspan := Shift.span_of_moves hmoves
    have htarget : shift.target code = 0x130 := hcode.symm
    unfold Shift.target at htarget
    omega
  constructor
  case lowerChar => rw [Text.lowerChar, if_neg hdotted, hcode, Shift.apply_eq_self hstays]
  case ne_sigma =>
    intro hsame
    rw [hsame] at hcode
    have hsigma : lowercaseShifts.any (fun shift => shift.moves 'Σ'.toNat) = true := by
      decide +kernel
    rcases List.any_eq_true.mp hsigma with ⟨other, hother, hmoved⟩
    rw [hcode, hstays other hother] at hmoved
    contradiction

theorem isLow_of_mem_lowerChar {c d : Char} (hc : c ≠ 'Σ') (h : d ∈ lowerChar c) : IsLow d := by
  unfold lowerChar at h
  split at h
  · rcases List.mem_cons.mp h with rfl | h
    · decide +kernel
    · rw [List.mem_singleton.mp h]
      decide +kernel
  · rename_i hdotted
    rw [List.mem_singleton] at h
    rcases Shift.apply_eq_or lowercaseShifts c.toNat with hsame | ⟨shift, hmem, hmoves, htarget⟩
    · have hd : d = c := by rw [h, hsame, Char.ofNat_toNat]
      rw [hd]
      refine ⟨?_, hc⟩
      rw [lowerChar, if_neg hdotted, hsame, Char.ofNat_toNat]
    · rw [h, htarget]
      exact isLow_of_moved hmem hmoves

/-! # Texts -/

theorem isLow_of_mem_lowerAfter {before text : Text} {d : Char}
    (h : d ∈ lowerAfter before text) : IsLow d := by
  induction text generalizing before with
  | nil => cases h
  | cons c rest ih =>
      rw [lowerAfter] at h
      rcases List.mem_append.mp h with h | h
      · split at h
        · rw [List.mem_singleton] at h
          rw [h]
          split <;> decide +kernel
        · rename_i hc
          exact isLow_of_mem_lowerChar hc h
      · exact ih h

theorem lowerAfter_of_low {before text : Text} (h : forall d, d ∈ text -> IsLow d) :
    lowerAfter before text = text := by
  induction text generalizing before with
  | nil => rfl
  | cons c rest ih =>
      have hc := h c List.mem_cons_self
      have hrest : lowerAfter (c :: before) rest = rest :=
        ih fun d hd => h d (List.mem_cons_of_mem _ hd)
      rw [lowerAfter]
      simp only [hc.ne_sigma, if_false, hc.lowerChar, hrest]
      rfl

theorem lower_lower (text : Text) : lower (lower text) = lower text :=
  lowerAfter_of_low fun _ h => isLow_of_mem_lowerAfter h

/-! # Marks -/

/-- The characters that are in a text in lower case without being the lower-case form of a single
character. -/
def irregularForms : Text :=
  ['ς', 'σ', 'i', '\u0307']

theorem mem_of_mem_lower {mark : Char} {text : Text} (hsettled : isSettled mark = true)
    (hregular : mark ∉ irregularForms) (h : mark ∈ lower text) : mark ∈ text := by
  unfold lower at h
  generalize ([] : Text) = before at h
  induction text generalizing before with
  | nil => cases h
  | cons c rest ih =>
      rw [lowerAfter] at h
      rcases List.mem_append.mp h with h | h
      · split at h
        · rw [List.mem_singleton] at h
          refine absurd ?_ hregular
          rw [h]
          split <;> decide
        · unfold lowerChar at h
          split at h
          · exact absurd (List.mem_append_right ['ς', 'σ'] h) hregular
          · rename_i hdotted
            have hletter : sameLetter c mark = true := by
              have hmark : lowerChar mark = [mark] := by
                unfold isSettled at hsettled
                simp only [Bool.and_eq_true, beq_iff_eq] at hsettled
                exact hsettled.1.2
              rw [List.mem_singleton] at h
              rw [sameLetter, hmark, lowerChar, if_neg hdotted, ← h]
              simp
            rw [eq_of_sameLetter hsettled hletter]
            exact List.mem_cons_self
      · exact List.mem_cons_of_mem _ (ih _ h)

end Text
end TreeQuery
