import TreeQuery.Proofs.Selector.Leaves

/-!
# Pieces of a group

A group is its first compound and pieces, each of which is a compound with what separates it from
the one before.  Text, meaning and levels of a group are those of its pieces taken one after the
other, as they are when the group is read.
-/

namespace TreeQuery
namespace Selector

open Scan

namespace Grammar

/-! # Separators -/

/-- White space alone, or a character that stands for a combinator with white space around it. -/
inductive Separator where
  | space (gap : Gap)
  | marked (before : Blank) (character : Char) (combinator : Combinator)
      (stands : Combinator.ofMark? character = some combinator) (after : Blank)

namespace Separator

def write : Separator -> Text
  | .space gap => gap.text
  | .marked before character _ _ after => before.text ++ character :: after.text

def combinator : Separator -> Combinator
  | .space _ => .descendant
  | .marked _ _ combinator _ _ => combinator

end Separator

theorem Mark.ofMark?_character (mark : Mark) :
    Combinator.ofMark? mark.character = some mark.combinator := by
  cases mark <;> rfl

def Joint.separator : Joint -> Separator
  | .space gap => .space gap
  | .marked before mark after =>
      .marked before mark.character mark.combinator mark.ofMark?_character after

def Comma.separator (comma : Comma) : Separator :=
  .marked comma.before ',' .group rfl comma.after

theorem Joint.write_separator (joint : Joint) : joint.separator.write = joint.write := by
  cases joint <;> rfl

theorem Joint.combinator_separator (joint : Joint) :
    joint.separator.combinator = joint.combinator := by
  cases joint <;> rfl

/-! # Pieces -/

variable [Pattern.Engine]

structure Piece where
  separator : Separator
  right : Compound

namespace Piece

def writeAll : List Piece -> Text
  | [] => []
  | piece :: rest => piece.separator.write ++ (piece.right.write ++ writeAll rest)

def attachAll (left : Matcher) (pieces : List Piece) : Matcher :=
  pieces.foldl (fun left piece => piece.separator.combinator.attach left piece.right.meaning) left

theorem writeAll_append (first second : List Piece) :
    writeAll (first ++ second) = writeAll first ++ writeAll second := by
  induction first with
  | nil => rfl
  | cons piece rest ih =>
      rw [List.cons_append, writeAll, writeAll, ih]
      simp

theorem attachAll_append (left : Matcher) (first second : List Piece) :
    attachAll left (first ++ second) = attachAll (attachAll left first) second :=
  List.foldl_append

end Piece

def Compound.pieces (links : List (Joint × Compound)) : List Piece :=
  links.map (fun (joint, right) => ⟨joint.separator, right⟩)

def Sequence.first : Sequence -> Compound
  | .mk first _ => first

def Sequence.links : Sequence -> List (Joint × Compound)
  | .mk _ links => links

def Sequence.pieces (others : List (Comma × Sequence)) : List Piece :=
  others.flatMap (fun (comma, sequence) =>
    ⟨comma.separator, sequence.first⟩ :: Compound.pieces sequence.links)

/-! # Texts of pieces -/

theorem Compound.writeAll_pieces (links : List (Joint × Compound)) :
    Piece.writeAll (pieces links) = writeLinks links := by
  induction links with
  | nil => rfl
  | cons link rest ih =>
      rcases link with ⟨joint, right⟩
      show joint.separator.write ++ (right.write ++ Piece.writeAll (pieces rest)) = _
      rw [joint.write_separator, ih]
      rfl

theorem Sequence.writeAll_pieces (others : List (Comma × Sequence)) :
    Piece.writeAll (pieces others) = writeOthers others := by
  induction others with
  | nil => rfl
  | cons other rest ih =>
      rcases other with ⟨comma, sequence⟩
      cases sequence with
      | mk first links =>
          show Piece.writeAll ((⟨comma.separator, first⟩ :: Compound.pieces links) ++ pieces rest) = _
          rw [Piece.writeAll_append, ih, Piece.writeAll, Compound.writeAll_pieces]
          simp [writeOthers, Sequence.write, Comma.separator, Separator.write, Comma.write]

/-! # Meanings of pieces -/

def IsSingle (matcher : Matcher) : Prop :=
  forall branches, matcher ≠ .any branches

omit [Pattern.Engine] in
theorem attach_of_single {combinator : Combinator} {left : Matcher} (hleft : IsSingle left)
    (right : Matcher) : combinator.attach left right = combinator.join left right := by
  unfold Combinator.attach
  split
  · exact absurd rfl (hleft _)
  · exact absurd rfl (hleft _)
  · rfl

omit [Pattern.Engine] in
theorem joinLast_concat (combinator : Combinator) (right : Matcher) (branches : List Matcher)
    (last : Matcher) :
    combinator.joinLast right (branches ++ [last]) =
      branches ++ [combinator.join last right] := by
  induction branches with
  | nil => rfl
  | cons branch rest ih =>
      cases rest with
      | nil => rfl
      | cons next rest =>
          show branch :: combinator.joinLast right ((next :: rest) ++ [last]) = _
          rw [ih]
          rfl

omit [Pattern.Engine] in
theorem attach_concat {combinator : Combinator} (h : combinator ≠ .group) (right : Matcher)
    (branches : List Matcher) (last : Matcher) :
    combinator.attach (.any (branches ++ [last])) right =
      .any (branches ++ [combinator.join last right]) := by
  cases combinator with
  | group => exact absurd rfl h
  | child => exact congrArg Matcher.any (joinLast_concat .child right branches last)
  | descendant => exact congrArg Matcher.any (joinLast_concat .descendant right branches last)
  | nextSibling => exact congrArg Matcher.any (joinLast_concat .nextSibling right branches last)
  | subsequentSibling =>
      exact congrArg Matcher.any (joinLast_concat .subsequentSibling right branches last)

omit [Pattern.Engine] in
theorem Joint.combinator_ne_group (joint : Joint) : joint.combinator ≠ .group := by
  cases joint with
  | space gap => exact Combinator.noConfusion
  | marked before mark after => cases mark <;> exact Combinator.noConfusion

omit [Pattern.Engine] in
theorem single_join {combinator : Combinator} (h : combinator ≠ .group) (left right : Matcher) :
    IsSingle (combinator.join left right) := by
  intro branches
  cases combinator with
  | group => exact absurd rfl h
  | child => exact Matcher.noConfusion
  | descendant => exact Matcher.noConfusion
  | nextSibling => exact Matcher.noConfusion
  | subsequentSibling => exact Matcher.noConfusion

theorem Compound.attachAll_single {left : Matcher} (hleft : IsSingle left)
    (links : List (Joint × Compound)) :
    Piece.attachAll left (pieces links) = joinAll left (meanings links) ∧
      IsSingle (joinAll left (meanings links)) := by
  induction links generalizing left with
  | nil => exact ⟨rfl, hleft⟩
  | cons link rest ih =>
      rcases link with ⟨joint, right⟩
      have hjoined := ih (single_join joint.combinator_ne_group left right.meaning)
      show Piece.attachAll (joint.separator.combinator.attach left right.meaning) (pieces rest) =
          joinAll (joint.combinator.join left right.meaning) (meanings rest) ∧
        IsSingle (joinAll (joint.combinator.join left right.meaning) (meanings rest))
      rw [attach_of_single hleft, joint.combinator_separator]
      exact hjoined

/-- The links of a sequence are joined to the last branch of a disjunction. -/
theorem Compound.attachAll_concat (branches : List Matcher) (last : Matcher)
    (links : List (Joint × Compound)) :
    Piece.attachAll (.any (branches ++ [last])) (pieces links) =
      .any (branches ++ [joinAll last (meanings links)]) := by
  induction links generalizing last with
  | nil => rfl
  | cons link rest ih =>
      rcases link with ⟨joint, right⟩
      show Piece.attachAll
          (joint.separator.combinator.attach (.any (branches ++ [last])) right.meaning)
          (pieces rest) = _
      rw [joint.combinator_separator, attach_concat joint.combinator_ne_group, ih]
      rfl

theorem Sequence.attachAll_any (branches : List Matcher) (others : List (Comma × Sequence)) :
    Piece.attachAll (.any branches) (pieces others) = .any (branches ++ meanings others) := by
  induction others generalizing branches with
  | nil =>
      rw [meanings, List.append_nil]
      rfl
  | cons other rest ih =>
      rcases other with ⟨comma, sequence⟩
      cases sequence with
      | mk first links =>
          show Piece.attachAll (.any (branches ++ [first.meaning]))
              (Compound.pieces links ++ pieces rest) = _
          rw [Piece.attachAll_append, Compound.attachAll_concat, ih]
          simp [meanings, Sequence.meaning]

theorem Sequence.attachAll_single {left : Matcher} (hleft : IsSingle left)
    (others : List (Comma × Sequence)) :
    Piece.attachAll left (pieces others) = disjunction left (meanings others) := by
  cases others with
  | nil => rfl
  | cons other rest =>
      rcases other with ⟨comma, sequence⟩
      cases sequence with
      | mk first links =>
          show Piece.attachAll (Combinator.group.attach left first.meaning)
              (Compound.pieces links ++ pieces rest) = _
          rw [attach_of_single hleft]
          show Piece.attachAll (.any ([left] ++ [first.meaning]))
              (Compound.pieces links ++ pieces rest) = _
          rw [Piece.attachAll_append, Compound.attachAll_concat, Sequence.attachAll_any]
          rfl

/-! # Groups -/

omit [Pattern.Engine] in
theorem single_conjunction {first : Matcher} (h : IsSingle first) (rest : List Matcher) :
    IsSingle (conjunction first rest) := by
  cases rest with
  | nil => exact h
  | cons second rest =>
      intro branches
      exact Matcher.noConfusion

theorem Leaf.single (leaf : Leaf) : IsSingle leaf.meaning := by
  intro branches
  cases leaf <;> exact Matcher.noConfusion

theorem Item.single (item : Item) : IsSingle item.meaning := by
  cases item with
  | leaf leaf => exact leaf.single
  | has argument =>
      intro branches
      exact Matcher.noConfusion
  | not argument =>
      intro branches
      exact Matcher.noConfusion

theorem Compound.single (compound : Compound) : IsSingle compound.meaning := by
  cases compound with
  | tagged tag items =>
      have htag : IsSingle tag.meaning := fun _ => Matcher.noConfusion
      exact single_conjunction htag _
  | untagged first rest => exact single_conjunction first.single _

namespace Group

def lead : Group -> Option Lead
  | .mk _ lead _ _ _ => lead

def first : Group -> Compound
  | .mk _ _ first _ _ => first.first

def pieces : Group -> List Piece
  | .mk _ _ first others _ => Compound.pieces first.links ++ Sequence.pieces others

def core (group : Group) : Text :=
  group.lead.elim [] Lead.write ++ (group.first.write ++ Piece.writeAll group.pieces)

/-- What the first compound means: after a lead, it is related to the root. -/
def start (group : Group) : Matcher :=
  match group.lead with
  | none => group.first.meaning
  | some lead => lead.mark.combinator.join .root group.first.meaning

theorem exists_write (group : Group) :
    exists before after : Blank, group.write = before.text ++ (group.core ++ after.text) := by
  cases group with
  | mk before lead first others after =>
      cases first with
      | mk first links =>
          refine ⟨before, after, ?_⟩
          show before.text ++ ((lead.elim [] Lead.write ++ ((first.write ++
              Compound.writeLinks links) ++ Sequence.writeOthers others)) ++ after.text) =
            before.text ++ ((lead.elim [] Lead.write ++ (first.write ++
              Piece.writeAll (Compound.pieces links ++ Sequence.pieces others))) ++ after.text)
          rw [Piece.writeAll_append, Compound.writeAll_pieces, Sequence.writeAll_pieces,
            List.append_assoc first.write]

theorem attachAll_start (group : Group) :
    Piece.attachAll group.start group.pieces = group.meaning := by
  cases group with
  | mk before lead first others after =>
      cases first with
      | mk first links =>
          generalize hstart : (mk before lead (.mk first links) others after).start = start
          have hsingle : IsSingle start := by
            rw [← hstart]
            cases lead with
            | none => exact first.single
            | some lead =>
                exact single_join (Joint.marked lead.after lead.mark lead.after).combinator_ne_group
                  .root first.meaning
          have hmeaning : (Sequence.mk first links).meaning lead =
              joinAll start (Compound.meanings links) := by
            rw [← hstart]
            cases lead with
            | none => rfl
            | some lead => rfl
          rcases Compound.attachAll_single hsingle links with ⟨hlinks, hjoined⟩
          show Piece.attachAll start (Compound.pieces links ++ Sequence.pieces others) =
            disjunction ((Sequence.mk first links).meaning lead) (Sequence.meanings others)
          rw [Piece.attachAll_append, hlinks, Sequence.attachAll_single hjoined, hmeaning]

end Group

/-! # Levels of pieces -/

theorem Compound.levels_of_mem {links : List (Joint × Compound)} {piece : Piece}
    (h : piece ∈ pieces links) : piece.right.levels + 1 ≤ levelsOfLinks links := by
  induction links with
  | nil => cases h
  | cons link rest ih =>
      rcases link with ⟨joint, right⟩
      cases h with
      | head => exact Nat.le_max_left _ _
      | tail _ h => exact Nat.le_trans (ih h) (Nat.le_max_right _ _)

theorem Sequence.levels_of_mem {others : List (Comma × Sequence)} {piece : Piece}
    (h : piece ∈ pieces others) : piece.right.levels + 1 ≤ levelsOfOthers others := by
  induction others with
  | nil => cases h
  | cons other rest ih =>
      rcases other with ⟨comma, sequence⟩
      cases sequence with
      | mk first links =>
          have hmem : piece ∈ (⟨comma.separator, first⟩ :: Compound.pieces links) ++ pieces rest := h
          have hlevels : levelsOfOthers ((comma, .mk first links) :: rest) =
              max (max (first.levels + 1) (Compound.levelsOfLinks links)) (levelsOfOthers rest) := rfl
          rw [hlevels]
          rcases List.mem_append.mp hmem with hmem | hmem
          · cases hmem with
            | head =>
                show first.levels + 1 ≤ _
                omega
            | tail _ hmem =>
                have hlinks := Compound.levels_of_mem hmem
                omega
          · have hrest := ih hmem
            omega

theorem Group.levels_eq (group : Group) :
    exists own links others, group.levels = max (max own links) others ∧
      (own = if group.lead.isSome then group.first.levels + 1 else group.first.levels) ∧
      forall piece, piece ∈ group.pieces ->
        piece.right.levels + 1 ≤ links ∨ piece.right.levels + 1 ≤ others := by
  cases group with
  | mk before lead first others after =>
      cases first with
      | mk first links =>
          refine ⟨_, Compound.levelsOfLinks links, Sequence.levelsOfOthers others, rfl, rfl, ?_⟩
          intro piece hpiece
          rcases List.mem_append.mp hpiece with hpiece | hpiece
          · exact Or.inl (Compound.levels_of_mem hpiece)
          · exact Or.inr (Sequence.levels_of_mem hpiece)

theorem Group.levels_of_mem {group : Group} {piece : Piece} (h : piece ∈ group.pieces) :
    piece.right.levels + 1 ≤ group.levels := by
  rcases group.levels_eq with ⟨own, links, others, hlevels, _, hpieces⟩
  rcases hpieces piece h with hpiece | hpiece <;> omega

theorem Group.levels_of_lead {group : Group} {lead : Lead} (h : group.lead = some lead) :
    group.first.levels + 1 ≤ group.levels := by
  rcases group.levels_eq with ⟨own, links, others, hlevels, hown, _⟩
  rw [h] at hown
  have hown : own = group.first.levels + 1 := hown
  omega

theorem Group.levels_of_first {group : Group} : group.first.levels ≤ group.levels := by
  rcases group.levels_eq with ⟨own, links, others, hlevels, hown, _⟩
  split at hown <;> omega

end Grammar
end Selector
end TreeQuery
