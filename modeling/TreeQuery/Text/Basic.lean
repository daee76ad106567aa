/-!
# Text

A text is a list of characters, so that reading, folding and comparing it are recursions on a
list.  String literals are read as texts.
-/

namespace TreeQuery

abbrev Text := List Char

instance : Coe String Text := ⟨String.toList⟩

namespace Text

/-! # Joining and splitting -/

/-- The pieces between the characters that satisfy the test, empty pieces included. -/
def splitBy (isSeparator : Char -> Bool) : Text -> List Text
  | [] => [[]]
  | c :: rest =>
      match splitBy isSeparator rest with
      | [] => if isSeparator c then [[], []] else [[c]]
      | piece :: pieces =>
          if isSeparator c then [] :: piece :: pieces else (c :: piece) :: pieces

def join (separator : Text) : List Text -> Text
  | [] => []
  | [piece] => piece
  | piece :: next :: rest => piece ++ separator ++ join separator (next :: rest)

/-! # Searching -/

def occursIn (needle : Text) : Text -> Bool
  | [] => needle.isEmpty
  | c :: rest => needle.isPrefixOf (c :: rest) || occursIn needle rest

def dropStart? (start text : Text) : Option Text :=
  if start.isPrefixOf text then some (text.drop start.length) else none

def dropEnd? (ending text : Text) : Option Text :=
  if ending.isSuffixOf text then some (text.take (text.length - ending.length)) else none

/-! # Letter case of the basic Latin alphabet -/

/-- Fold the letters `A` to `Z` to lower case and leave every other character alone. -/
def foldAscii (text : Text) : Text :=
  text.map Char.toLower

theorem toLower_toLower (c : Char) : c.toLower.toLower = c.toLower := by
  by_cases h : c.val ≥ 'A'.val ∧ c.val ≤ 'Z'.val
  · have hvalue : c.toLower.val = c.val + ('a'.val - 'A'.val) :=
      congrArg Char.val (dif_pos h)
    have hbeyond : ¬ (c.toLower.val ≥ 'A'.val ∧ c.toLower.val ≤ 'Z'.val) := by
      rintro ⟨_, hlast⟩
      have hfirst : 65 ≤ c.val.toNat := UInt32.le_iff_toNat_le.mp h.1
      have hend : c.val.toNat ≤ 90 := UInt32.le_iff_toNat_le.mp h.2
      have hlast : c.toLower.val.toNat ≤ 90 := UInt32.le_iff_toNat_le.mp hlast
      have hshift : ('a'.val - 'A'.val).toNat = 32 := rfl
      rw [hvalue, UInt32.toNat_add, hshift] at hlast
      omega
    exact dif_neg hbeyond
  · have hsame : c.toLower = c := dif_neg h
    rw [hsame, hsame]

theorem foldAscii_foldAscii (text : Text) : foldAscii (foldAscii text) = foldAscii text := by
  unfold foldAscii
  rw [List.map_map]
  exact List.map_congr_left fun c _ => toLower_toLower c

end Text
end TreeQuery
