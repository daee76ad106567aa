import TreeQuery.Text.Lowercase

/-!
# Letters that differ only in case

Simple case folding: the letters that count as one when a search ignores case.  Folding a
character leads to the lower-case letter that stands for all of them.
-/

namespace TreeQuery
namespace Text

/-- Variant forms that fold to another lower-case letter, such as the long s and the final sigma. -/
def variantShifts : List Shift :=
  [⟨0xB5, 0xB5, 1, 775⟩, ⟨0x17F, 0x17F, 1, -268⟩, ⟨0x345, 0x345, 1, 116⟩, ⟨0x3C2, 0x3C2, 1, 1⟩,
   ⟨0x3D0, 0x3D0, 1, -30⟩, ⟨0x3D1, 0x3D1, 1, -25⟩, ⟨0x3D5, 0x3D5, 1, -15⟩, ⟨0x3D6, 0x3D6, 1, -22⟩,
   ⟨0x3F0, 0x3F0, 1, -54⟩, ⟨0x3F1, 0x3F1, 1, -48⟩, ⟨0x3F5, 0x3F5, 1, -64⟩,
   ⟨0x1C80, 0x1C80, 1, -6222⟩, ⟨0x1C81, 0x1C81, 1, -6221⟩, ⟨0x1C82, 0x1C82, 1, -6212⟩,
   ⟨0x1C83, 0x1C84, 1, -6210⟩, ⟨0x1C85, 0x1C85, 1, -6211⟩, ⟨0x1C86, 0x1C86, 1, -6204⟩,
   ⟨0x1C87, 0x1C87, 1, -6180⟩, ⟨0x1C88, 0x1C88, 1, 35267⟩, ⟨0x1E9B, 0x1E9B, 1, -58⟩,
   ⟨0x1FBE, 0x1FBE, 1, -7173⟩, ⟨0x1FD3, 0x1FD3, 1, -7235⟩, ⟨0x1FE3, 0x1FE3, 1, -7219⟩,
   ⟨0xFB06, 0xFB06, 1, -1⟩]

def foldCode (code : Nat) : Nat :=
  let lowered := Shift.apply lowercaseShifts code
  if lowered = code then Shift.apply variantShifts code else lowered

def caseForms (c : Char) : List Char :=
  let folded := foldCode c.toNat
  let forms := folded :: (Shift.sources lowercaseShifts folded ++ Shift.sources variantShifts folded)
  c :: forms.map Char.ofNat

end Text
end TreeQuery
