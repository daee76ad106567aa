import Mathlib.Data.List.Forall2
import TreeQuery.Proofs.Json.Layout

/-!
# What is written is read back

Both ways to write a value are layouts of it: on one line there is no white space at all, and on
several lines the white space is the indentation.  So a value is read back from either of them
if its arrays and objects nest no deeper than the reader goes.
-/

namespace TreeQuery
namespace Json

/-! # Nesting -/

mutual

def depth : Json -> Nat
  | .array items => depthOfItems items + 1
  | .object members => depthOfMembers members + 1
  | _ => 0

def depthOfItems : List Json -> Nat
  | [] => 0
  | item :: rest => max (depth item) (depthOfItems rest)

def depthOfMembers : List (Text × Json) -> Nat
  | [] => 0
  | (_, value) :: rest => max (depth value) (depthOfMembers rest)

end

/-! # Parts between brackets -/

section Parts

variable {level : Nat} {start ending : Text} {parts : List Text}

def LayoutMember (level : Nat) (member : Text × Json) (part : Text) : Prop :=
  exists start text, Blank start ∧ Layout level member.2 text ∧
    part = writeString member.1 ++ ':' :: (start ++ text)

theorem Blank.append {first second : Text} (hfirst : Blank first) (hsecond : Blank second) :
    Blank (first ++ second) := by
  intro c hc
  rcases List.mem_append.mp hc with hc | hc
  · exact hfirst c hc
  · exact hsecond c hc

theorem LayoutItems.of_parts {items : List Json} (h : List.Forall₂ (Layout level) items parts)
    (hne : items ≠ []) (hstart : Blank start) (hending : Blank ending) :
    LayoutItems level items (Text.join (',' :: start) parts ++ ending) := by
  induction h with
  | nil => exact absurd rfl hne
  | @cons item part items parts hitem hrest ih =>
      cases hrest with
      | nil => exact .last hitem hending
      | cons hnext hrest =>
          have hlater := ih (List.cons_ne_nil _ _)
          rw [Text.join, List.append_assoc, List.append_assoc]
          exact .cons hitem blank_nil hstart hlater

theorem LayoutMembers.of_parts {members : List (Text × Json)}
    (h : List.Forall₂ (LayoutMember level) members parts) (hne : members ≠ [])
    (hstart : Blank start) (hending : Blank ending) :
    LayoutMembers level members (Text.join (',' :: start) parts ++ ending) := by
  induction h with
  | nil => exact absurd rfl hne
  | @cons member part members parts hmember hrest ih =>
      rcases hmember with ⟨gap, text, hgap, hvalue, rfl⟩
      cases hrest with
      | nil =>
          rw [Text.join, List.append_assoc, List.cons_append, List.append_assoc]
          exact .last hgap hvalue hending
      | cons hnext hrest =>
          have hlater := ih (List.cons_ne_nil _ _)
          simp only [Text.join, List.append_assoc, List.cons_append]
          exact .cons hgap hvalue blank_nil hstart hlater

theorem Layout.of_items {items : List Json} (h : List.Forall₂ (Layout level) items parts)
    (hstart : Blank start) (hending : Blank ending) :
    Layout (level + 1) (.array items)
      ('[' :: (start ++ (Text.join (',' :: start) parts ++ ending ++ [']']))) := by
  cases h with
  | nil =>
      have hgap : '[' :: (start ++ ([] ++ ending ++ [']'])) = '[' :: (start ++ ending ++ [']']) := by
        rw [List.nil_append, List.append_assoc]
      rw [Text.join, hgap]
      exact .emptyArray (hstart.append hending)
  | cons hitem hrest =>
      exact .array hstart (.of_parts (.cons hitem hrest) (List.cons_ne_nil _ _) hstart hending)

theorem Layout.of_members {members : List (Text × Json)}
    (h : List.Forall₂ (LayoutMember level) members parts) (hstart : Blank start)
    (hending : Blank ending) :
    Layout (level + 1) (.object members)
      ('\x7b' :: (start ++ (Text.join (',' :: start) parts ++ ending ++ ['\x7d']))) := by
  cases h with
  | nil =>
      have hgap : '\x7b' :: (start ++ ([] ++ ending ++ ['\x7d'])) =
          '\x7b' :: (start ++ ending ++ ['\x7d']) := by
        rw [List.nil_append, List.append_assoc]
      rw [Text.join, hgap]
      exact .emptyObject (hstart.append hending)
  | cons hmember hrest =>
      exact .object hstart (.of_parts (.cons hmember hrest) (List.cons_ne_nil _ _) hstart hending)

end Parts

/-! # On one line -/

mutual

theorem layout_compact :
    forall (value : Json) {level : Nat}, value.depth <= level -> Layout level value (compact value)
  | .null, _, _ => .null
  | .bool value, _, _ => .bool value
  | .number, _, _ => .number
  | .string text, _, _ => .string text
  | .array items, 0, h => absurd h (by simp [depth])
  | .array items, _ + 1, h => by
      have hparts := forall₂_compactItems items (Nat.le_of_succ_le_succ h)
      have hlayout := Layout.of_items hparts blank_nil blank_nil
      rw [List.nil_append, List.append_nil] at hlayout
      exact hlayout
  | .object members, 0, h => absurd h (by simp [depth])
  | .object members, _ + 1, h => by
      have hparts := forall₂_compactMembers members (Nat.le_of_succ_le_succ h)
      have hlayout := Layout.of_members hparts blank_nil blank_nil
      rw [List.nil_append, List.append_nil] at hlayout
      exact hlayout

theorem forall₂_compactItems :
    forall (items : List Json) {level : Nat}, depthOfItems items <= level ->
      List.Forall₂ (Layout level) items (compactItems items)
  | [], _, _ => .nil
  | item :: rest, _, h =>
      have hboth := Nat.max_le.mp h
      .cons (layout_compact item hboth.1) (forall₂_compactItems rest hboth.2)

theorem forall₂_compactMembers :
    forall (members : List (Text × Json)) {level : Nat}, depthOfMembers members <= level ->
      List.Forall₂ (LayoutMember level) members (compactMembers members)
  | [], _, _ => .nil
  | (_, value) :: rest, _, h =>
      have hboth := Nat.max_le.mp h
      .cons ⟨[], compact value, blank_nil, layout_compact value hboth.1, rfl⟩
        (forall₂_compactMembers rest hboth.2)

end

/-! # On several lines -/

theorem blank_newLine (level : Nat) : Blank (newLine level) := by
  intro c hc
  rcases List.mem_cons.mp hc with rfl | hc
  · rfl
  · rw [List.eq_of_mem_replicate hc]
    rfl

theorem Layout.of_block_items {indentation level : Nat} {items : List Json} {parts : List Text}
    (h : List.Forall₂ (Layout level) items parts) :
    Layout (level + 1) (.array items) (block indentation '[' ']' parts) := by
  cases h with
  | nil => exact .emptyArray blank_nil
  | cons hitem hrest =>
      have hlayout := Layout.of_items (.cons hitem hrest) (blank_newLine (indentation + 1))
        (blank_newLine indentation)
      simpa [block] using hlayout

theorem Layout.of_block_members {indentation level : Nat} {members : List (Text × Json)}
    {parts : List Text} (h : List.Forall₂ (LayoutMember level) members parts) :
    Layout (level + 1) (.object members) (block indentation '\x7b' '\x7d' parts) := by
  cases h with
  | nil => exact .emptyObject blank_nil
  | cons hmember hrest =>
      have hlayout := Layout.of_members (.cons hmember hrest) (blank_newLine (indentation + 1))
        (blank_newLine indentation)
      simpa [block] using hlayout

mutual

theorem layout_prettyAt :
    forall (value : Json) (indentation : Nat) {level : Nat}, value.depth <= level ->
      Layout level value (prettyAt indentation value)
  | .null, _, _, _ => .null
  | .bool value, _, _, _ => .bool value
  | .number, _, _, _ => .number
  | .string text, _, _, _ => .string text
  | .array items, _, 0, h => absurd h (by simp [depth])
  | .array items, indentation, _ + 1, h =>
      .of_block_items (forall₂_prettyItems items (indentation + 1) (Nat.le_of_succ_le_succ h))
  | .object members, _, 0, h => absurd h (by simp [depth])
  | .object members, indentation, _ + 1, h =>
      .of_block_members (forall₂_prettyMembers members (indentation + 1) (Nat.le_of_succ_le_succ h))

theorem forall₂_prettyItems :
    forall (items : List Json) (indentation : Nat) {level : Nat}, depthOfItems items <= level ->
      List.Forall₂ (Layout level) items (prettyItems indentation items)
  | [], _, _, _ => .nil
  | item :: rest, indentation, _, h =>
      have hboth := Nat.max_le.mp h
      .cons (layout_prettyAt item indentation hboth.1)
        (forall₂_prettyItems rest indentation hboth.2)

theorem forall₂_prettyMembers :
    forall (members : List (Text × Json)) (indentation : Nat) {level : Nat},
      depthOfMembers members <= level ->
      List.Forall₂ (LayoutMember level) members (prettyMembers indentation members)
  | [], _, _, _ => .nil
  | (name, value) :: rest, indentation, _, h => by
      have hboth := Nat.max_le.mp h
      have hvalue := layout_prettyAt value indentation hboth.1
      have hspace : Blank [' '] := by
        intro c hc
        rw [List.mem_singleton.mp hc]
        rfl
      refine .cons ⟨[' '], prettyAt indentation value, hspace, hvalue, ?_⟩
        (forall₂_prettyMembers rest indentation hboth.2)
      rw [List.append_assoc]
      rfl

end

/-! # Reading what was written -/

/-- A value that does not nest too deep is read back from one line. -/
theorem read_compact {value : Json} (h : value.depth <= maxDepth) :
    read (compact value) = some value := by
  have hread := (layout_compact value h).read_eq blank_nil blank_nil
  rwa [List.nil_append, List.append_nil] at hread

theorem read_pretty {value : Json} (h : value.depth <= maxDepth) {ending : Text}
    (hending : Blank ending) : read (pretty value ++ ending) = some value :=
  (layout_prettyAt value 0 h).read_eq blank_nil hending

end Json
end TreeQuery
