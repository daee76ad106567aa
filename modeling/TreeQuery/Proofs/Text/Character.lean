import Mathlib.Data.List.TakeWhile
import TreeQuery.Text.Letter
import TreeQuery.Text.Lowercase

/-!
# Characters and their tables

White space is neither a letter nor a digit, no letter turns into a punctuation mark in lower
case, and trimming and lower-casing keep what they should.
-/

namespace TreeQuery

/-! # Lookups -/

theorem Span.exists_of_covers {spans : List Span} {code : Nat} (h : covers spans code = true) :
    exists span, span ∈ spans ∧ span.first ≤ code ∧ code ≤ span.last := by
  induction spans with
  | nil => cases h
  | cons span rest ih =>
      unfold covers at h
      split at h
      · cases h
      · rename_i hfirst
        split at h
        · rename_i hlast
          exact ⟨span, List.mem_cons_self, Nat.le_of_not_lt hfirst, hlast⟩
        · rcases ih h with ⟨later, hmem, hspan⟩
          exact ⟨later, List.mem_cons_of_mem _ hmem, hspan⟩

theorem Span.mem_codes_of_covers {spans : List Span} {code : Nat} (h : covers spans code = true) :
    code ∈ spans.flatMap codes := by
  rcases exists_of_covers h with ⟨span, hmem, hfirst, hlast⟩
  apply List.mem_flatMap.mpr
  refine ⟨span, hmem, ?_⟩
  apply List.mem_range'_1.mpr
  omega

theorem Shift.apply_eq_or (shifts : List Shift) (code : Nat) :
    apply shifts code = code ∨
      exists shift, shift ∈ shifts ∧ shift.moves code = true ∧
        apply shifts code = shift.target code := by
  induction shifts with
  | nil => exact Or.inl rfl
  | cons shift rest ih =>
      unfold apply
      split
      · exact Or.inl rfl
      · split
        · rename_i hmoves
          exact Or.inr ⟨shift, List.mem_cons_self, hmoves, rfl⟩
        · rcases ih with hsame | ⟨later, hmem, hmoves, htarget⟩
          · exact Or.inl hsame
          · exact Or.inr ⟨later, List.mem_cons_of_mem _ hmem, hmoves, htarget⟩

def Shift.avoids (shifts : List Shift) (code : Nat) : Bool :=
  shifts.all (fun shift =>
    decide ((code : Int) < shift.first + shift.offset ∨ shift.last + shift.offset < (code : Int)))

theorem Shift.eq_of_apply_eq {shifts : List Shift} {code result : Nat} (hpositive : 0 < result)
    (havoids : avoids shifts result = true) (h : apply shifts code = result) : code = result := by
  rcases apply_eq_or shifts code with hsame | ⟨shift, hmem, hmoves, htarget⟩
  · rw [← hsame, h]
  · have haway := of_decide_eq_true (List.all_eq_true.mp havoids shift hmem)
    unfold moves at hmoves
    simp only [Bool.and_eq_true, decide_eq_true_eq] at hmoves
    have hresult : shift.target code = result := by rw [← htarget, h]
    unfold target at hresult
    omega

namespace Text

/-! # White space -/

theorem not_mem_of_test {test : Char -> Bool} {marks : Text} {c : Char}
    (hmarks : marks.all (fun mark => !test mark) = true) (h : test c = true) : c ∉ marks := by
  intro hmem
  have hc := List.all_eq_true.mp hmarks c hmem
  rw [h] at hc
  contradiction

theorem not_alphanumeric_of_whitespace {c : Char} (h : isWhitespace c = true) :
    isAlphanumeric c = false := by
  have hcodes : (whitespaceSpans.flatMap Span.codes).all (fun code =>
      !(Span.covers alphabeticSpans code || Span.covers decimalSpans code ||
        Span.covers numeralSpans code)) = true := by
    decide +kernel
  have hc := List.all_eq_true.mp hcodes c.toNat (Span.mem_codes_of_covers h)
  simpa [isAlphanumeric, isAlphabetic, isDecimal] using hc

theorem alphanumeric_of_isDigit {c : Char} (h : c.isDigit = true) : isAlphanumeric c = true := by
  unfold Char.isDigit at h
  simp only [Bool.and_eq_true, decide_eq_true_eq] at h
  have hfirst : ¬ c.toNat < 0x30 := Nat.not_lt.mpr (UInt32.le_iff_toNat_le.mp h.1)
  have hlast : c.toNat ≤ 0x39 := UInt32.le_iff_toNat_le.mp h.2
  have hdecimal : isDecimal c = true := by
    unfold isDecimal decimalSpans Span.covers
    rw [if_neg hfirst, if_pos hlast]
  simp [isAlphanumeric, hdecimal]

theorem dropWhile_blank {blank rest : Text} (h : forall c, c ∈ blank -> isWhitespace c = true) :
    (blank ++ rest).dropWhile isWhitespace = rest.dropWhile isWhitespace :=
  List.dropWhile_append_of_pos h

/-! # Lower case -/

/-- No other character has the same lower-case form as this one. -/
def isSettled (mark : Char) : Bool :=
  decide (0 < mark.toNat) && lowerChar mark == [mark] && Shift.avoids lowercaseShifts mark.toNat

theorem eq_of_ofNat_eq {code : Nat} {c : Char} (hpositive : 0 < c.toNat)
    (h : Char.ofNat code = c) : code = c.toNat := by
  by_cases hvalid : code.isValidChar
  · have hcode : Char.ofNat code = Char.ofNatAux code hvalid := dif_pos hvalid
    rw [← h, hcode]
    rfl
  · have hzero : Char.ofNat code = '\x00' := dif_neg hvalid
    rw [← h, hzero] at hpositive
    cases hpositive

theorem eq_of_sameLetter {mark c : Char} (hsettled : isSettled mark = true)
    (h : sameLetter c mark = true) : c = mark := by
  unfold isSettled at hsettled
  simp only [Bool.and_eq_true, decide_eq_true_eq, beq_iff_eq] at hsettled
  rcases hsettled with ⟨⟨hpositive, hlower⟩, havoids⟩
  unfold sameLetter at h
  rcases Bool.or_eq_true_iff.mp h with hsame | hsame
  · exact eq_of_beq hsame
  · have hc : lowerChar c = [mark] := by rw [eq_of_beq hsame, hlower]
    unfold lowerChar at hc
    split at hc
    · cases hc
    · have hcode := eq_of_ofNat_eq hpositive (List.cons.inj hc).1
      have hsource := Shift.eq_of_apply_eq hpositive havoids hcode
      exact Char.toNat_inj.mp hsource

theorem lowerChar_ne_nil (c : Char) : lowerChar c ≠ [] := by
  unfold lowerChar
  split <;> simp

theorem lower_ne_nil {text : Text} (h : text ≠ []) : lower text ≠ [] := by
  cases text with
  | nil => exact absurd rfl h
  | cons c rest =>
      intro hlower
      have hmapped := (List.append_eq_nil_iff.mp hlower).1
      split at hmapped
      · cases hmapped
      · exact lowerChar_ne_nil c hmapped

theorem eq_of_toLower_eq_caret {c : Char} (h : c.toLower = '^') : c = '^' := by
  unfold Char.toLower at h
  split at h
  · rename_i hrange
    have hval : (c.val + ('a'.val - 'A'.val)).toNat = 94 := congrArg (fun d => d.val.toNat) h
    have hshift : ('a'.val - 'A'.val).toNat = 32 := rfl
    have hfirst : 65 ≤ c.val.toNat := UInt32.le_iff_toNat_le.mp hrange.1
    have hlast : c.val.toNat ≤ 90 := UInt32.le_iff_toNat_le.mp hrange.2
    rw [UInt32.toNat_add, hshift] at hval
    omega
  · exact h

/-! # Trimming -/

structure Tight (text : Text) : Prop where
  first : exists c rest, text = c :: rest ∧ isWhitespace c = false
  last : exists rest c, text = rest ++ [c] ∧ isWhitespace c = false

theorem Tight.of_all {text : Text} (hne : text ≠ [])
    (h : forall c, c ∈ text -> isWhitespace c = false) : Tight text := by
  constructor
  case first =>
    cases text with
    | nil => exact absurd rfl hne
    | cons c rest => exact ⟨c, rest, rfl, h c List.mem_cons_self⟩
  case last =>
    refine ⟨text.dropLast, text.getLast hne, ?_, h _ (List.getLast_mem hne)⟩
    rw [List.dropLast_concat_getLast]

theorem tight_char {c : Char} (h : isWhitespace c = false) : Tight [c] :=
  ⟨⟨c, [], rfl, h⟩, ⟨[], c, rfl, h⟩⟩

theorem Tight.surround {left right : Text} (hleft : Tight left) (middle : Text)
    (hright : Tight right) : Tight (left ++ (middle ++ right)) := by
  constructor
  case first =>
    rcases hleft.first with ⟨c, rest, rfl, hc⟩
    exact ⟨c, _, rfl, hc⟩
  case last =>
    rcases hright.last with ⟨rest, c, rfl, hc⟩
    exact ⟨left ++ (middle ++ rest), c, by simp, hc⟩

theorem Tight.append {left right : Text} (hleft : Tight left) (hright : Tight right) :
    Tight (left ++ right) :=
  hleft.surround [] hright

theorem trim_blanks {before text after : Text} (htight : Tight text)
    (hbefore : forall c, c ∈ before -> isWhitespace c = true)
    (hafter : forall c, c ∈ after -> isWhitespace c = true) :
    trim (before ++ (text ++ after)) = text := by
  have hstart : trimStart (before ++ (text ++ after)) = text ++ after := by
    rcases htight.first with ⟨c, rest, rfl, hc⟩
    unfold trimStart
    rw [dropWhile_blank hbefore]
    exact List.dropWhile_cons_of_neg (by simp [hc])
  rcases htight.last with ⟨rest, c, hlast, hc⟩
  have hreverse : forall d, d ∈ after.reverse -> isWhitespace d = true := by
    intro d hd
    exact hafter d (List.mem_reverse.mp hd)
  unfold trim
  rw [hstart, trimEnd, List.reverse_append, dropWhile_blank hreverse, hlast,
    List.reverse_append]
  show (List.dropWhile isWhitespace (c :: rest.reverse)).reverse = rest ++ [c]
  rw [List.dropWhile_cons_of_neg (by simp [hc])]
  simp

theorem trim_of_tight {text : Text} (htight : Tight text) : trim text = text := by
  have h : trim ([] ++ (text ++ [])) = text := trim_blanks htight (by simp) (by simp)
  simpa using h

theorem trim_append (text : Text) :
    trim text ++ ((trimStart text).reverse.takeWhile isWhitespace).reverse = trimStart text := by
  rw [trim, trimEnd, ← List.reverse_append, List.takeWhile_append_dropWhile, List.reverse_reverse]

theorem exists_trim (text : Text) :
    exists before after, text = before ++ (trim text ++ after) ∧
      (forall c, c ∈ before -> isWhitespace c = true) ∧
      (forall c, c ∈ after -> isWhitespace c = true) := by
  have hstart : text.takeWhile isWhitespace ++ trimStart text = text :=
    List.takeWhile_append_dropWhile
  refine ⟨text.takeWhile isWhitespace, ((trimStart text).reverse.takeWhile isWhitespace).reverse,
    by rw [trim_append, hstart], ?_, ?_⟩
  · intro c hc
    exact List.mem_takeWhile_imp hc
  · intro c hc
    exact List.mem_takeWhile_imp (List.mem_reverse.mp hc)

theorem mem_of_mem_trim {text : Text} {c : Char} (h : c ∈ trim text) : c ∈ text := by
  rcases exists_trim text with ⟨before, after, htext, _, _⟩
  rw [htext]
  simp [h]

theorem not_of_dropWhile {test : Char -> Bool} {text rest : Text} {c : Char}
    (h : text.dropWhile test = c :: rest) : test c = false := by
  have hhead := List.head?_dropWhile_not test text
  rw [h] at hhead
  exact hhead

theorem tight_trim {text : Text} (h : trim text ≠ []) : Tight (trim text) := by
  constructor
  case first =>
    cases htrim : trim text with
    | nil => exact absurd htrim h
    | cons c rest =>
        have hstart := trim_append text
        rw [htrim] at hstart
        exact ⟨c, rest, rfl, not_of_dropWhile hstart.symm⟩
  case last =>
    cases hend : (trimStart text).reverse.dropWhile isWhitespace with
    | nil => exact absurd (List.reverse_eq_nil_iff.mpr hend) h
    | cons c rest =>
        refine ⟨rest.reverse, c, ?_, not_of_dropWhile hend⟩
        rw [trim, trimEnd, hend, List.reverse_cons]

@[simp] theorem trim_trim (text : Text) : trim (trim text) = trim text := by
  by_cases h : trim text = []
  · rw [h]
    rfl
  · exact trim_of_tight (tight_trim h)

theorem exists_of_dropWhile {test : Char -> Bool} {text : Text}
    (h : exists c, c ∈ text ∧ test c = false) :
    exists c, c ∈ text.dropWhile test ∧ test c = false := by
  induction text with
  | nil =>
      rcases h with ⟨c, hmem, _⟩
      cases hmem
  | cons first rest ih =>
      cases hfirst : test first with
      | false =>
          rw [List.dropWhile_cons_of_neg (by simp [hfirst])]
          exact ⟨first, List.mem_cons_self, hfirst⟩
      | true =>
          rw [List.dropWhile_cons_of_pos hfirst]
          apply ih
          rcases h with ⟨c, hmem, hc⟩
          cases hmem with
          | head =>
              rw [hc] at hfirst
              cases hfirst
          | tail _ hmem => exact ⟨c, hmem, hc⟩

theorem trim_ne_nil {text : Text} (h : exists c, c ∈ text ∧ isWhitespace c = false) :
    trim text ≠ [] := by
  have hstart : exists c, c ∈ (trimStart text).reverse ∧ isWhitespace c = false := by
    rcases exists_of_dropWhile h with ⟨c, hmem, hc⟩
    exact ⟨c, List.mem_reverse.mpr hmem, hc⟩
  rcases exists_of_dropWhile hstart with ⟨c, hmem, _⟩
  intro htrim
  rw [List.reverse_eq_nil_iff.mp htrim] at hmem
  cases hmem

end Text
end TreeQuery
