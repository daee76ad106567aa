import TreeQuery.Text.Numeral

/-!
# Numerals

The numeral of an integer that fits 32 bits is read back as this integer.  It consists of digits
and perhaps a minus sign.
-/

namespace TreeQuery
namespace Text

theorem isDigit_of_mem_ofNat {n : Nat} {c : Char} (h : c ∈ ofNat n) : c.isDigit = true :=
  Nat.isDigit_of_mem_toDigits (by decide) (by decide) h

theorem readNat?_ofNat (n : Nat) : readNat? (ofNat n) = some n := by
  have hne : ofNat n ≠ [] := Nat.toDigits_ne_nil
  have hdigits : (ofNat n).all Char.isDigit = true :=
    List.all_eq_true.mpr fun c hc => isDigit_of_mem_ofNat hc
  have hvalue : (ofNat n).foldl (fun value c => 10 * value + digitValue c) 0 = n :=
    Nat.ofDigitChars_ten_toDigits
  unfold readNat?
  rw [hvalue, hdigits]
  cases htext : ofNat n with
  | nil => exact absurd htext hne
  | cons c rest => rfl

theorem fitsInt32_iff {n : Int} : fitsInt32 n = true ↔ -2147483648 ≤ n ∧ n ≤ 2147483647 := by
  simp [fitsInt32]

theorem readInt32?_ofNat {n : Nat} (h : fitsInt32 (Int.ofNat n) = true) :
    readInt32? (ofNat n) = some (Int.ofNat n) := by
  have hread := readNat?_ofNat n
  cases htext : ofNat n with
  | nil =>
      rw [htext] at hread
      cases hread
  | cons c rest =>
      have hdigit : c.isDigit = true := by
        apply isDigit_of_mem_ofNat (n := n)
        rw [htext]
        exact List.mem_cons_self
      rw [htext] at hread
      unfold readInt32?
      split
      · rename_i heq
        rw [(List.cons.inj heq).1] at hdigit
        cases hdigit
      · rename_i heq
        rw [(List.cons.inj heq).1] at hdigit
        cases hdigit
      · rw [hread]
        show (some (Int.ofNat n)).filter fitsInt32 = some (Int.ofNat n)
        rw [Option.filter_some, if_pos h]

theorem readInt32?_ofInt {n : Int} (h : fitsInt32 n = true) :
    readInt32? (ofInt n) = some n := by
  cases n with
  | ofNat n => exact readInt32?_ofNat h
  | negSucc n =>
      show ((readNat? (ofNat (n + 1))).map (fun n => -Int.ofNat n)).filter fitsInt32 =
        some (Int.negSucc n)
      rw [readNat?_ofNat]
      show (some (Int.negSucc n)).filter fitsInt32 = some (Int.negSucc n)
      rw [Option.filter_some, if_pos h]

theorem mem_ofInt {n : Int} {c : Char} (h : c ∈ ofInt n) : c = '-' ∨ c.isDigit = true := by
  cases n with
  | ofNat n => exact Or.inr (isDigit_of_mem_ofNat h)
  | negSucc n =>
      cases h with
      | head => exact Or.inl rfl
      | tail _ h => exact Or.inr (isDigit_of_mem_ofNat h)

theorem ofInt_ne_nil (n : Int) : ofInt n ≠ [] := by
  cases n with
  | ofNat n => exact Nat.toDigits_ne_nil
  | negSucc n => exact List.cons_ne_nil _ _

theorem isDigit_of_readNat? {text : Text} {n : Nat} (h : readNat? text = some n) :
    forall c, c ∈ text -> c.isDigit = true := by
  unfold readNat? at h
  split at h
  · cases h
  · rename_i hdigits
    simp only [Bool.or_eq_true, not_or, Bool.not_eq_true'] at hdigits
    exact List.all_eq_true.mp (by simpa using hdigits.2)

theorem mem_of_readInt32? {text : Text} {n : Int} (h : readInt32? text = some n) {c : Char}
    (hc : c ∈ text) : c = '+' ∨ c = '-' ∨ c.isDigit = true := by
  have hdigits : forall {digits : Text} {f : Nat -> Int},
      ((readNat? digits).map f).filter fitsInt32 = some n -> c ∈ digits -> c.isDigit = true := by
    intro digits f hread hmem
    rcases Option.map_eq_some_iff.mp (Option.filter_eq_some_iff.mp hread).1 with ⟨value, hvalue, _⟩
    exact isDigit_of_readNat? hvalue c hmem
  unfold readInt32? at h
  split at h
  · rcases List.mem_cons.mp hc with hc | hc
    · exact Or.inl hc
    · exact Or.inr (Or.inr (hdigits h hc))
  · rcases List.mem_cons.mp hc with hc | hc
    · exact Or.inr (Or.inl hc)
    · exact Or.inr (Or.inr (hdigits h hc))
  · exact Or.inr (Or.inr (hdigits h hc))

end Text
end TreeQuery
