import TreeQuery.Proofs.Selector.Pieces

/-!
# Texts of trees

The text of a compound can be cut out of the text around it, and the text of a group closes every
group that it opens.  Apart from white space at its ends, a group starts and ends with something
that means something.
-/

namespace TreeQuery
namespace Selector

open Scan

namespace Grammar

/-! # Separators -/

theorem closed_of_ofMark? {c : Char} {combinator : Combinator}
    (h : Combinator.ofMark? c = some combinator) : Closed [c] := by
  have hall : Combinator.marks.all (fun c => decide (IsOrdinary c) && !isDelimiter c) = true := by
    decide
  have hc := List.all_eq_true.mp hall c (Combinator.mem_marks_of_ofMark? h)
  rw [Bool.and_eq_true, decide_eq_true_eq, Bool.not_eq_true'] at hc
  exact closed_char hc.1 hc.2

theorem Separator.closed (separator : Separator) : Closed separator.write := by
  cases separator with
  | space gap => exact gap.closed
  | marked before character combinator stands after =>
      exact before.closed.append ((closed_of_ofMark? stands).append after.closed)

theorem separator_of_whitespace {c : Char} (h : Text.isWhitespace c = true) :
    isSeparator c = true := by
  simp [isSeparator, h]

theorem Separator.ends (separator : Separator) (rest : Text) : Ends (separator.write ++ rest) := by
  have hblank : forall (blank : Blank) (more : Text), blank.text ≠ [] ->
      Ends (blank.text ++ more) := by
    intro blank more hne c hc
    cases htext : blank.text with
    | nil => exact absurd htext hne
    | cons first text =>
        rw [htext] at hc
        cases hc
        apply separator_of_whitespace
        apply blank.spaces
        rw [htext]
        exact List.mem_cons_self
  cases separator with
  | space gap => exact hblank gap.toBlank rest gap.nonempty
  | marked before character combinator stands after =>
      have hshape : (marked before character combinator stands after).write ++ rest =
          before.text ++ (character :: after.text ++ rest) := by
        simp [Separator.write]
      rw [hshape]
      cases htext : before.text with
      | nil =>
          intro c hc
          cases hc
          exact separator_of_ofMark? stands
      | cons first text =>
          rw [← htext]
          apply hblank
          rw [htext]
          exact List.cons_ne_nil _ _

variable [Pattern.Engine]

theorem Piece.ends (pieces : List Piece) : Ends (writeAll pieces) := by
  cases pieces with
  | nil =>
      intro c hc
      cases hc
  | cons piece rest => exact piece.separator.ends _

/-! # Compounds and groups -/

omit [Pattern.Engine] in
theorem TagName.solid (tag : TagName) : Solid tag.write :=
  solid_of_plain (List.cons_ne_nil _ _) tag.plain

mutual
theorem Item.solid : forall item : Item, Solid item.write
  | .leaf leaf => leaf.solid
  | .has argument => PseudoClass.solid .has argument.closed
  | .not argument => PseudoClass.solid .not argument.closed

theorem Item.solid_append {text : Text} (h : Solid text) :
    forall items : List Item, Solid (text ++ Item.writeAll items)
  | [] => by
      rw [Item.writeAll, List.append_nil]
      exact h
  | item :: rest => by
      rw [Item.writeAll, ← List.append_assoc]
      exact Item.solid_append (h.append item.solid) rest

theorem Compound.solid : forall compound : Compound, Solid compound.write
  | .tagged tag items => Item.solid_append tag.solid items
  | .untagged first rest => Item.solid_append first.solid rest

theorem Compound.closed_links : forall links, Closed (Compound.writeLinks links)
  | [] => closed_nil
  | (joint, right) :: rest => by
      have hjoint : Closed joint.write := by
        rw [← joint.write_separator]
        exact joint.separator.closed
      exact hjoint.append (right.solid.closed.append (Compound.closed_links rest))

theorem Sequence.closed : forall sequence : Sequence, Closed sequence.write
  | .mk first links => first.solid.closed.append (Compound.closed_links links)

theorem Sequence.closed_others : forall others, Closed (Sequence.writeOthers others)
  | [] => closed_nil
  | (comma, sequence) :: rest =>
      comma.separator.closed.append (sequence.closed.append (Sequence.closed_others rest))

theorem Group.closed : forall group : Group, Closed group.write
  | .mk before lead first others after => by
      have hlead : Closed (lead.elim [] Lead.write) := by
        cases lead with
        | none => exact closed_nil
        | some lead => exact (closed_of_ofMark? lead.mark.ofMark?_character).append lead.after.closed
      exact before.closed.append ((hlead.append (first.closed.append
        (Sequence.closed_others others))).append after.closed)
end

theorem Compound.exists_write (compound : Compound) :
    exists c rest, compound.write = c :: rest ∧ isSeparator c = false := by
  rcases compound.solid.tight.first with ⟨c, rest, hwrite, _⟩
  refine ⟨c, rest, hwrite, Bool.eq_false_iff.mpr fun hseparator => ?_⟩
  have hends : Ends (c :: rest) := by
    intro d hd
    cases hd
    exact hseparator
  have hwhole := compound.solid.whole []
  rw [List.append_nil, hwrite, subSelector_of_ends hends] at hwhole
  cases hwhole

theorem Piece.tight_append {left : Text} (h : Text.Tight left) (pieces : List Piece) :
    Text.Tight (left ++ writeAll pieces) := by
  induction pieces generalizing left with
  | nil =>
      rw [writeAll, List.append_nil]
      exact h
  | cons piece rest ih =>
      have hpiece := h.surround piece.separator.write piece.right.solid.tight
      have hshape : left ++ writeAll (piece :: rest) =
          (left ++ (piece.separator.write ++ piece.right.write)) ++ writeAll rest := by
        simp [writeAll]
      rw [hshape]
      exact ih hpiece

theorem Group.tight_core (group : Group) : Text.Tight group.core := by
  have hbody := Piece.tight_append group.first.solid.tight group.pieces
  unfold Group.core
  cases group.lead with
  | none => exact hbody
  | some lead =>
      have hmark : Text.Tight [lead.mark.character] :=
        Text.tight_char (not_whitespace_of_ofMark? lead.mark.ofMark?_character)
      exact hmark.surround lead.after.text hbody

theorem Group.trim_write (group : Group) : Text.trim group.write = group.core := by
  rcases group.exists_write with ⟨before, after, hwrite⟩
  rw [hwrite]
  exact Text.trim_blanks group.tight_core before.spaces after.spaces

end Grammar
end Selector
end TreeQuery
