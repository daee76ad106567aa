import TreeQuery.Proofs.Selector.Shapes

/-!
# Levels of a matcher

The argument of a pseudo-class is read one level below, and so is the right side of a combinator
or of a comma.  The levels that a reading takes can be seen from the matcher: in front of a
relation stands a right side, and so does every branch of a disjunction but the first.
-/

namespace TreeQuery
namespace Selector

open Grammar

namespace Matcher

/-! # Counting levels in a matcher -/

def isRelation : Matcher -> Bool
  | .parent _ => true
  | .ancestor _ => true
  | .previous _ => true
  | .before _ => true
  | _ => false

mutual
/-- The levels that reading the matcher takes, given whether its first compound is one level below
already. -/
def levels (isBelow : Bool) : Matcher -> Nat
  | .root => 0
  | .has inner => inner.levels false + 1 + isBelow.toNat
  | .not inner => inner.levels false + 1 + isBelow.toNat
  | .parent left => left.levels isBelow
  | .ancestor left => left.levels isBelow
  | .previous left => left.levels isBelow
  | .before left => left.levels isBelow
  | .all tests => levelsOfAll isBelow tests
  | .any branches => levelsOfAny isBelow branches
  | _ => isBelow.toNat

/-- What stands before a relation is the right side of a combinator, one level below. -/
def levelsOfAll (isBelow : Bool) : List Matcher -> Nat
  | [] => 0
  | test :: rest =>
      max (test.levels (isBelow || rest.any isRelation)) (levelsOfAll isBelow rest)

/-- Every branch but the first starts one level below. -/
def levelsOfAny (isBelow : Bool) : List Matcher -> Nat
  | [] => 0
  | branch :: rest => max (branch.levels isBelow) (levelsOfAny true rest)
end

mutual
theorem levels_below : forall matcher : Matcher,
    matcher.levels false ≤ matcher.levels true ∧ matcher.levels true ≤ matcher.levels false + 1
  | .root | .tag _ | .id _ | .className _ | .attribute _ | .universal | .index _ _
  | .containsText _ | .matchesText _ | .has _ | .not _ => by simp [levels]
  | .parent left => left.levels_below
  | .ancestor left => left.levels_below
  | .previous left => left.levels_below
  | .before left => left.levels_below
  | .all tests => levelsOfAll_below tests
  | .any branches => levelsOfAny_below branches

theorem levelsOfAll_below : forall tests : List Matcher,
    levelsOfAll false tests ≤ levelsOfAll true tests ∧
      levelsOfAll true tests ≤ levelsOfAll false tests + 1
  | [] => by simp [levelsOfAll]
  | test :: rest => by
      have htest := test.levels_below
      have hrest := levelsOfAll_below rest
      simp only [levelsOfAll, Bool.true_or, Bool.false_or]
      cases rest.any isRelation <;> omega

theorem levelsOfAny_below : forall branches : List Matcher,
    levelsOfAny false branches ≤ levelsOfAny true branches ∧
      levelsOfAny true branches ≤ levelsOfAny false branches + 1
  | [] => by simp [levelsOfAny]
  | branch :: rest => by
      have hbranch := branch.levels_below
      simp only [levelsOfAny]
      omega
end

mutual
/-- A combinator adds one level at most, between two arguments that stand within each other. -/
theorem nesting_levels (isBelow : Bool) : forall matcher : Matcher,
    matcher.nesting ≤ matcher.levels isBelow ∧
      matcher.levels isBelow ≤ 2 * matcher.nesting + 1
  | .root | .tag _ | .id _ | .className _ | .attribute _ | .universal | .index _ _
  | .containsText _ | .matchesText _ => by simp [levels, nesting, Bool.toNat_le]
  | .has inner | .not inner => by
      have hinner := inner.nesting_levels false
      have hbelow := isBelow.toNat_le
      simp only [levels, nesting]
      omega
  | .parent left => left.nesting_levels isBelow
  | .ancestor left => left.nesting_levels isBelow
  | .previous left => left.nesting_levels isBelow
  | .before left => left.nesting_levels isBelow
  | .all tests => nesting_levelsOfAll isBelow tests
  | .any branches => nesting_levelsOfAny isBelow branches

theorem nesting_levelsOfAll (isBelow : Bool) : forall tests : List Matcher,
    nestingAll tests ≤ levelsOfAll isBelow tests ∧
      levelsOfAll isBelow tests ≤ 2 * nestingAll tests + 1
  | [] => by simp [levelsOfAll, nestingAll]
  | test :: rest => by
      have htest := test.nesting_levels (isBelow || rest.any isRelation)
      have hrest := nesting_levelsOfAll isBelow rest
      simp only [levelsOfAll, nestingAll]
      omega

theorem nesting_levelsOfAny (isBelow : Bool) : forall branches : List Matcher,
    nestingAll branches ≤ levelsOfAny isBelow branches ∧
      levelsOfAny isBelow branches ≤ 2 * nestingAll branches + 1
  | [] => by simp [levelsOfAny, nestingAll]
  | branch :: rest => by
      have hbranch := branch.nesting_levels isBelow
      have hrest := nesting_levelsOfAny true rest
      simp only [levelsOfAny, nestingAll]
      omega
end

/-! # Simple selectors side by side -/

theorem any_isRelation {tests : List Matcher}
    (h : forall test, test ∈ tests -> test.isRelation = false) : tests.any isRelation = false :=
  List.any_eq_false.mpr fun test htest => by simp [h test htest]

theorem levelsOfAll_le_iff {tests : List Matcher} {isBelow : Bool} {bound : Nat}
    (h : forall test, test ∈ tests -> test.isRelation = false) :
    levelsOfAll isBelow tests ≤ bound ↔
      forall test, test ∈ tests -> test.levels isBelow ≤ bound := by
  induction tests with
  | nil => simp [levelsOfAll]
  | cons test rest ih =>
      have hrest : forall other, other ∈ rest -> other.isRelation = false :=
        fun other hother => h other (List.mem_cons_of_mem _ hother)
      rw [levelsOfAll, any_isRelation hrest, Bool.or_false, Nat.max_le, ih hrest,
        List.forall_mem_cons]

theorem levelsOfAll_concat (isBelow : Bool) (tests : List Matcher) {last : Matcher}
    (hlast : last.isRelation = false) :
    levelsOfAll isBelow (tests ++ [last]) =
      max (levelsOfAll isBelow tests) (last.levels isBelow) := by
  induction tests with
  | nil => simp [levelsOfAll]
  | cons test rest ih =>
      rw [List.cons_append, levelsOfAll, ih, levelsOfAll, List.any_append, Nat.max_assoc]
      simp [hlast]

theorem IsSimple.not_relation {test : Matcher} (h : IsSimple test) : test.isRelation = false := by
  cases h <;> rfl

theorem IsSimple.levels_true {test : Matcher} (h : IsSimple test) :
    test.levels true = test.levels false + 1 := by
  cases h <;> simp [levels]

theorem levelsOfAll_true {first : Matcher} {rest : List Matcher}
    (h : forall test, test ∈ first :: rest -> IsSimple test) :
    levelsOfAll true (first :: rest) = levelsOfAll false (first :: rest) + 1 := by
  have hfirst := (h first List.mem_cons_self).levels_true
  induction rest generalizing first with
  | nil => simp [levelsOfAll, hfirst]
  | cons next rest ih =>
      have hrest : forall test, test ∈ next :: rest -> IsSimple test :=
        fun test htest => h test (List.mem_cons_of_mem _ htest)
      have hnone : (next :: rest).any isRelation = false :=
        any_isRelation fun test htest => (hrest test htest).not_relation
      have hsplit : forall isBelow, levelsOfAll isBelow (first :: next :: rest) =
          max (first.levels isBelow) (levelsOfAll isBelow (next :: rest)) := by
        intro isBelow
        rw [levelsOfAll, hnone, Bool.or_false]
      have hnext := ih hrest (hrest next List.mem_cons_self).levels_true
      rw [hsplit, hsplit, hfirst, hnext, Nat.add_max_add_right]

theorem IsCompound.levels_true {test : Matcher} (h : IsCompound test) :
    test.levels true = test.levels false + 1 := by
  cases h with
  | simple hsimple => exact hsimple.levels_true
  | @all tests hlength htests =>
      cases tests with
      | nil => cases hlength
      | cons first rest => exact levelsOfAll_true htests

/-! # Attaching -/

theorem levels_join (combinator : Combinator) (isBelow : Bool) (left right : Matcher) :
    (combinator.join left right).levels isBelow =
      max (left.levels isBelow) (right.levels true) := by
  cases combinator <;>
    simp [Combinator.join, levels, levelsOfAll, levelsOfAny, isRelation, Nat.max_comm]

theorem levelsOfAny_concat (isBelow : Bool) (branches : List Matcher) (hne : branches ≠ [])
    (right : Matcher) :
    levelsOfAny isBelow (branches ++ [right]) =
      max (levelsOfAny isBelow branches) (right.levels true) := by
  induction branches generalizing isBelow with
  | nil => exact absurd rfl hne
  | cons branch rest ih =>
      cases rest with
      | nil => simp [levelsOfAny]
      | cons next rest =>
          rw [List.cons_append, levelsOfAny, ih true (List.cons_ne_nil _ _), ← Nat.max_assoc]
          rfl

theorem levelsOfAny_joinLast (combinator : Combinator) (isBelow : Bool) (branches : List Matcher)
    (hne : branches ≠ []) (right : Matcher) :
    levelsOfAny isBelow (combinator.joinLast right branches) =
      max (levelsOfAny isBelow branches) (right.levels true) := by
  induction branches generalizing isBelow with
  | nil => exact absurd rfl hne
  | cons branch rest ih =>
      cases rest with
      | nil => simp [Combinator.joinLast, levelsOfAny, levels_join]
      | cons next rest =>
          rw [Combinator.joinLast, levelsOfAny, ih true (List.cons_ne_nil _ _), ← Nat.max_assoc]
          rfl

theorem levels_attach (combinator : Combinator) (isBelow : Bool) {left : Matcher}
    (hleft : left ≠ .any []) (right : Matcher) :
    (combinator.attach left right).levels isBelow =
      max (left.levels isBelow) (right.levels true) := by
  unfold Combinator.attach
  split
  · rename_i branches
    have hne : branches ≠ [] := fun hnil => hleft (by rw [hnil])
    simp only [levels, levelsOfAny_concat isBelow branches hne]
  · rename_i branches _
    have hne : branches ≠ [] := fun hnil => hleft (by rw [hnil])
    simp only [levels, levelsOfAny_joinLast _ isBelow branches hne]
  · exact levels_join combinator isBelow left right

theorem attach_any_nil (combinator : Combinator) (right : Matcher) :
    combinator.attach (.any []) right = .any [right] := by
  cases combinator <;> rfl

theorem attach_not_relation (combinator : Combinator) (left right : Matcher) :
    (combinator.attach left right).isRelation = false := by
  unfold Combinator.attach
  split
  · rfl
  · rfl
  · cases combinator <;> rfl

end Matcher

theorem levels_collapse (isBelow : Bool) (parts : List Matcher) :
    (collapse parts).levels isBelow = Matcher.levelsOfAll isBelow parts.reverse := by
  unfold collapse
  split
  · simp [Matcher.levelsOfAll]
  · rfl

theorem levels_collapse_cons {test : Matcher} (htest : test.isRelation = false)
    (isBelow : Bool) (parts : List Matcher) :
    (collapse (test :: parts)).levels isBelow =
      max ((collapse parts).levels isBelow) (test.levels isBelow) := by
  rw [levels_collapse, levels_collapse, List.reverse_cons, Matcher.levelsOfAll_concat _ _ htest]

/-! # Levels of syntax trees -/

namespace Grammar

theorem levels_conjunction {first : Matcher} {others : List Matcher} (isBelow : Bool)
    (hothers : forall test, test ∈ others -> test.isRelation = false) :
    (conjunction first others).levels isBelow =
      max (first.levels isBelow) (Matcher.levelsOfAll isBelow others) := by
  cases others with
  | nil => simp [conjunction, Matcher.levelsOfAll]
  | cons second others =>
      rw [conjunction, Matcher.levels, Matcher.levelsOfAll, Matcher.any_isRelation hothers,
        Bool.or_false]

theorem levels_disjunction {first : Matcher} {others : List Matcher} (isBelow : Bool) :
    (disjunction first others).levels isBelow =
      max (first.levels isBelow) (Matcher.levelsOfAny true others) := by
  cases others with
  | nil => simp [disjunction, Matcher.levelsOfAny]
  | cons second others => rfl

variable [Pattern.Engine]

theorem Item.not_relation (item : Item) : item.meaning.isRelation = false := by
  cases item with
  | leaf leaf => cases leaf <;> rfl
  | has argument => rfl
  | not argument => rfl

theorem Item.not_relations {items : List Item} :
    forall test, test ∈ Item.meanings items -> test.isRelation = false := by
  induction items with
  | nil => exact fun test htest => absurd htest List.not_mem_nil
  | cons item items ih => exact List.forall_mem_cons.mpr ⟨item.not_relation, ih⟩

mutual
theorem Item.levels_meaning (isBelow : Bool) : forall item : Item,
    item.meaning.levels isBelow = item.levels + isBelow.toNat
  | .leaf leaf => by cases leaf <;> simp [Item.meaning, Item.levels, Leaf.meaning, Matcher.levels]
  | .has argument => by
      rw [Item.meaning, Matcher.levels, Item.levels, argument.levels_meaning]
  | .not argument => by
      rw [Item.meaning, Matcher.levels, Item.levels, argument.levels_meaning]

theorem Item.levels_meanings (isBelow : Bool) : forall items : List Item, forall first : Nat,
    max (first + isBelow.toNat) (Matcher.levelsOfAll isBelow (Item.meanings items)) =
      max first (Item.levelsOfAll items) + isBelow.toNat
  | [], first => by simp [Item.meanings, Matcher.levelsOfAll, Item.levelsOfAll]
  | item :: items, first => by
      have hitems := Item.levels_meanings isBelow items (max first item.levels)
      rw [Item.meanings, Matcher.levelsOfAll, Matcher.any_isRelation Item.not_relations,
        Bool.or_false, item.levels_meaning isBelow, Item.levelsOfAll, ← Nat.max_assoc,
        ← Nat.max_assoc, ← hitems, Nat.add_max_add_right]

theorem Compound.levels_meaning (isBelow : Bool) : forall compound : Compound,
    compound.meaning.levels isBelow = compound.levels + isBelow.toNat
  | .tagged tag items => by
      have hitems := Item.levels_meanings isBelow items 0
      rw [Compound.meaning, levels_conjunction isBelow Item.not_relations, Compound.levels]
      simpa [TagName.meaning, Matcher.levels] using hitems
  | .untagged first rest => by
      rw [Compound.meaning, levels_conjunction isBelow Item.not_relations, Compound.levels,
        first.levels_meaning isBelow]
      exact Item.levels_meanings isBelow rest first.levels

theorem Compound.levels_joinAll (isBelow : Bool) : forall links : List (Joint × Compound),
    forall start : Matcher,
    (joinAll start (Compound.meanings links)).levels isBelow =
      max (start.levels isBelow) (Compound.levelsOfLinks links)
  | [], start => by simp [Compound.meanings, joinAll, Compound.levelsOfLinks]
  | (joint, right) :: links, start => by
      have hlinks := Compound.levels_joinAll isBelow links
        (joint.combinator.join start right.meaning)
      rw [Matcher.levels_join, right.levels_meaning true, Nat.max_assoc] at hlinks
      exact hlinks

theorem Sequence.levels_meaning (isBelow : Bool) (lead : Option Lead) :
    forall sequence : Sequence,
    (sequence.meaning lead).levels isBelow = sequence.levels (isBelow || lead.isSome)
  | .mk first links => by
      have hlinks := Compound.levels_joinAll isBelow links
      cases lead with
      | none =>
          have hmeaning : (Sequence.mk first links).meaning none =
              joinAll first.meaning (Compound.meanings links) := rfl
          rw [hmeaning, hlinks, first.levels_meaning isBelow]
          cases isBelow <;> rfl
      | some lead =>
          have hmeaning : (Sequence.mk first links).meaning (some lead) =
              joinAll (lead.mark.combinator.join .root first.meaning)
                (Compound.meanings links) := rfl
          rw [hmeaning, hlinks, Matcher.levels_join, first.levels_meaning true, Matcher.levels,
            Nat.zero_max]
          cases isBelow <;> rfl

theorem Sequence.levels_meanings : forall others : List (Comma × Sequence),
    Matcher.levelsOfAny true (Sequence.meanings others) = Sequence.levelsOfOthers others
  | [] => rfl
  | (comma, sequence) :: others => by
      rw [Sequence.meanings, Matcher.levelsOfAny, Sequence.levelsOfOthers,
        sequence.levels_meaning true none, Sequence.levels_meanings others]
      rfl

theorem Group.levels_meaning : forall group : Group, group.meaning.levels false = group.levels
  | .mk _ lead first others _ => by
      rw [Group.meaning, levels_disjunction, first.levels_meaning false lead,
        Sequence.levels_meanings others, Group.levels, Bool.false_or]
end

end Grammar

end Selector
end TreeQuery
