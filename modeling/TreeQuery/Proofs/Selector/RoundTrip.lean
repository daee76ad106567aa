import TreeQuery.Pattern.Search
import TreeQuery.Proofs.Selector.Solidity
import TreeQuery.Query

/-!
# Selectors are read back

The text of every syntax tree that does not have too many levels is read as what the tree means.
The levels carry the induction: what stands one level below is read on its own, so that one level
is an induction on the items of a compound and on the pieces of a group.
-/

namespace TreeQuery
namespace Selector

open Scan Grammar

/-! # Simple selectors -/

def ReadsBelow [Pattern.Engine] (inner : Text -> Report Matcher) (levels : Nat) : Prop :=
  forall group : Group, group.levels < levels -> (inner group.write).result = .ok group.meaning

section Reading

variable [Pattern.Engine] {inner : Text -> Report Matcher} {query rest : Text} {levels : Nat}

theorem simpleTest_tag (tag : TagName) (hrest : Stops isTagChar rest) :
    (simpleTest inner query (tag.write ++ rest)).result = .ok (tag.meaning, rest) := by
  have hne : forall other, Text.isAlphanumeric other = false -> tag.first ≠ other := by
    rintro other hother rfl
    have hstart := tag.start
    rw [hother] at hstart
    contradiction
  have hcharacters : forall c, c ∈ tag.write -> isTagChar c = true := by
    intro c hc
    cases hc with
    | head => simp [isTagChar, tag.start]
    | tail _ hc => exact tag.characters c hc
  have hrun : run isTagChar (tag.write ++ rest) = (tag.write, rest) := run_append hcharacters hrest
  have htrim : Text.trim tag.write = tag.write := Text.trim_of_tight tag.solid.tight
  have hname : (Text.lower (tag.write.map (fun c => if c = '|' then ':' else c))).isEmpty = false :=
    List.isEmpty_eq_false_iff.mpr (Text.lower_ne_nil (List.cons_ne_nil _ _))
  have htest : tagTest query (tag.write ++ rest) = .ok (tag.meaning, rest) := by
    unfold tagTest
    simp only [hrun, htrim, hname]
    rfl
  show (simpleTest inner query (tag.first :: (tag.rest ++ rest))).result = _
  unfold simpleTest
  simp only [hne '#' (by decide +kernel), hne '.' (by decide +kernel), tag.start, if_true, if_false]
  exact congrArg Report.result (congrArg Report.ofExcept htest)

theorem argument_not_blank (argument : Group) : (Text.trim argument.write).isEmpty = false := by
  rw [argument.trim_write]
  rcases argument.tight_core.first with ⟨c, more, hcore, _⟩
  rw [hcore]
  rfl

theorem simpleTest_item (hbelow : ReadsBelow inner levels) {item : Item}
    (hlevels : item.levels ≤ levels) (hrest : Stops isTagChar rest) :
    (simpleTest inner query (item.write ++ rest)).result = .ok (item.meaning, rest) := by
  cases item with
  | leaf leaf => exact leaf.simpleTest_eq hrest
  | has argument =>
      have hshape : (Item.has argument).write ++ rest =
          PseudoClass.has.name ++ '(' :: (argument.write ++ ')' :: rest) := by
        simp [Item.write]
      have hinner := hbelow argument hlevels
      rw [hshape, simpleTest_pseudo]
      unfold pseudoTest
      simp only [argumentOf_closed .has argument.closed, Report.pure_bind, argument_not_blank]
      rw [if_neg (by decide), Report.result_bind, hinner]
      rfl
  | not argument =>
      have hshape : (Item.not argument).write ++ rest =
          PseudoClass.not.name ++ '(' :: (argument.write ++ ')' :: rest) := by
        simp [Item.write]
      have hinner := hbelow argument hlevels
      rw [hshape, simpleTest_pseudo]
      unfold pseudoTest
      simp only [argumentOf_closed .not argument.closed, Report.pure_bind, argument_not_blank]
      rw [if_neg (by decide), Report.result_bind, hinner]
      rfl

/-! # Steps -/

omit [Pattern.Engine] in
theorem skipWhitespace_of_not_separator {c : Char} (h : isSeparator c = false) :
    skipWhitespace (c :: rest) = (false, c :: rest) := by
  have hspace := not_whitespace_of_not_separator h
  unfold skipWhitespace
  rw [List.dropWhile_cons_of_neg (by simp [hspace])]
  simp [nextIs, hspace]

omit [Pattern.Engine] in
theorem skipWhitespace_blank (blank : Blank) {c : Char} (h : Text.isWhitespace c = false) :
    (skipWhitespace (blank.text ++ c :: rest)).2 = c :: rest := by
  unfold skipWhitespace
  rw [Text.dropWhile_blank blank.spaces]
  exact List.dropWhile_cons_of_neg (by simp [h])

omit [Pattern.Engine] in
theorem relate_blank (combinator : Combinator) (parts : List Matcher) (blank : Blank) {c : Char}
    (hc : Text.isWhitespace c = false) :
    relate inner combinator parts (blank.text ++ c :: rest) = (do
      let right ← inner (subSelector (c :: rest)).1
      pure ⟨[combinator.attach (collapse parts) right], (subSelector (c :: rest)).2⟩) := by
  unfold relate
  simp only [skipWhitespace_blank blank hc]

theorem relate_compound (combinator : Combinator) (parts : List Matcher) (blank : Blank)
    {compound : Compound} (hinner : (inner compound.write).result = .ok compound.meaning)
    (hends : Ends rest) :
    (relate inner combinator parts (blank.text ++ (compound.write ++ rest))).result =
      .ok ⟨[combinator.attach (collapse parts) compound.meaning], rest⟩ := by
  have hcut := compound.solid.whole.subSelector_eq hends
  rcases compound.exists_write with ⟨c, more, hwrite, hseparator⟩
  rw [hwrite] at hcut hinner ⊢
  rw [List.cons_append] at hcut ⊢
  rw [relate_blank combinator parts blank (not_whitespace_of_not_separator hseparator), hcut,
    Report.result_bind, hinner]
  rfl

theorem step_separator (parts : List Matcher) (separator : Separator) {c : Char}
    (hc : isSeparator c = false) :
    step inner query ⟨parts, separator.write ++ c :: rest⟩ =
      relate inner separator.combinator parts (c :: rest) := by
  have hspace := not_whitespace_of_not_separator hc
  cases separator with
  | space gap =>
      have hskip : skipWhitespace (gap.text ++ c :: rest) = (true, c :: rest) := by
        have hdrop : (skipWhitespace (gap.text ++ c :: rest)).2 = c :: rest :=
          skipWhitespace_blank gap.toBlank hspace
        cases htext : gap.text with
        | nil => exact absurd htext gap.nonempty
        | cons first text =>
            have hfirst : Text.isWhitespace first = true := by
              apply gap.spaces
              rw [htext]
              exact List.mem_cons_self
            rw [htext] at hdrop
            apply Prod.ext
            · simp [skipWhitespace, nextIs, hfirst]
            · exact hdrop
      have hmark : Combinator.ofMark? (peek (c :: rest)) = none := ofMark?_of_not_separator hc
      show step inner query ⟨parts, gap.text ++ c :: rest⟩ = _
      rw [step_eq]
      simp only [hskip, hmark, if_true]
      rfl
  | marked before character combinator stands after =>
      have hskip : (skipWhitespace (before.text ++ character :: (after.text ++ c :: rest))).2 =
          character :: (after.text ++ c :: rest) :=
        skipWhitespace_blank before (not_whitespace_of_ofMark? stands)
      have hmark : Combinator.ofMark? (peek (character :: (after.text ++ c :: rest))) =
          some combinator := stands
      have hshape : (Separator.marked before character combinator stands after).write ++ c :: rest =
          before.text ++ character :: (after.text ++ c :: rest) := by
        simp [Separator.write]
      rw [hshape]
      rw [step_eq]
      simp only [hskip, hmark, List.tail_cons, relate_blank combinator parts after hspace]
      exact (relate_blank combinator parts .none hspace).symm

theorem step_piece (parts : List Matcher) {piece : Piece}
    (hinner : (inner piece.right.write).result = .ok piece.right.meaning) (hends : Ends rest) :
    (step inner query ⟨parts, piece.separator.write ++ (piece.right.write ++ rest)⟩).result =
      .ok ⟨[piece.separator.combinator.attach (collapse parts) piece.right.meaning], rest⟩ := by
  have hrelate := relate_compound piece.separator.combinator parts .none hinner hends
  rcases piece.right.exists_write with ⟨c, more, hwrite, hseparator⟩
  rw [hwrite, List.cons_append] at hrelate ⊢
  rw [step_separator parts piece.separator hseparator]
  exact hrelate

theorem Grammar.Item.exists_write (item : Item) :
    exists c rest, item.write = c :: rest ∧ isSeparator c = false ∧ isTagChar c = false := by
  cases item with
  | leaf leaf =>
      cases leaf with
      | id name => exact ⟨'#', _, rfl, by decide, by decide +kernel⟩
      | className name => exact ⟨'.', _, rfl, by decide, by decide +kernel⟩
      | bracketed clause => exact ⟨'[', _, rfl, by decide, by decide +kernel⟩
      | universal => exact ⟨'*', _, rfl, by decide, by decide +kernel⟩
      | index comparison before argument after =>
          exact ⟨':', _, rfl, by decide, by decide +kernel⟩
      | containsText needle => exact ⟨':', _, rfl, by decide, by decide +kernel⟩
      | matchesText expression => exact ⟨':', _, rfl, by decide, by decide +kernel⟩
  | has argument => exact ⟨':', _, rfl, by decide, by decide +kernel⟩
  | not argument => exact ⟨':', _, rfl, by decide, by decide +kernel⟩

omit [Pattern.Engine] in
theorem stops_of_ends (h : Ends rest) : Stops isTagChar rest := by
  intro c hc
  apply Bool.eq_false_iff.mpr
  intro htag
  have hseparator := h c hc
  rw [(plain_of_tagChar htag).separator] at hseparator
  contradiction

/-- The text is read as the matcher wherever it stands, if no name goes on behind it. -/
structure ReadsAs (inner : Text -> Report Matcher) (written : Text) (test : Matcher) : Prop where
  start : exists c more, written = c :: more ∧ isSeparator c = false ∧ isTagChar c = false
  read : forall query rest, Stops isTagChar rest ->
    (simpleTest inner query (written ++ rest)).result = .ok (test, rest)

theorem readsAs_item (hbelow : ReadsBelow inner levels) {item : Item}
    (hlevels : item.levels ≤ levels) : ReadsAs inner item.write item.meaning :=
  ⟨item.exists_write, fun _ _ hrest => simpleTest_item hbelow hlevels hrest⟩

theorem ReadsAs.step {written : Text} {test : Matcher} (h : ReadsAs inner written test)
    (parts : List Matcher) (hrest : Stops isTagChar rest) :
    (step inner query ⟨parts, written ++ rest⟩).result = .ok ⟨test :: parts, rest⟩ := by
  have htest := h.read query rest hrest
  rcases h.start with ⟨c, more, hwrite, hseparator, _⟩
  have hskip : skipWhitespace (written ++ rest) = (false, written ++ rest) := by
    rw [hwrite]
    exact skipWhitespace_of_not_separator hseparator
  have hmark : Combinator.ofMark? (peek (written ++ rest)) = none := by
    rw [hwrite]
    exact ofMark?_of_not_separator hseparator
  rw [step_eq]
  simp only [hskip, hmark]
  rw [if_neg (by decide), Report.result_bind, htest]
  rfl

def AllRead (inner : Text -> Report Matcher) (items : List (Text × Matcher)) : Prop :=
  forall item, item ∈ items -> ReadsAs inner item.1 item.2

theorem AllRead.stops {items : List (Text × Matcher)} (h : AllRead inner items)
    (hends : Ends rest) : Stops isTagChar (items.flatMap Prod.fst ++ rest) := by
  cases items with
  | nil => exact stops_of_ends hends
  | cons item items =>
      rcases (h item List.mem_cons_self).start with ⟨c, more, hwrite, _, htag⟩
      rw [List.flatMap_cons, hwrite]
      intro d hd
      cases hd
      exact htag

/-! # Reading on to the end -/

/-- What has been read so far ends in the given matcher, with any number of steps that is enough
for the text that is left. -/
def Finishes (inner : Text -> Report Matcher) (query : Text) (progress : Progress)
    (matcher : Matcher) : Prop :=
  forall fuel, progress.rest.length ≤ fuel -> (follow inner query fuel progress).result = .ok matcher

theorem follow_end (parts : List Matcher) (fuel : Nat) :
    follow inner query fuel ⟨parts, []⟩ = pure (collapse parts) := by
  cases fuel with
  | zero => rfl
  | succ fuel => rfl

theorem finishes_end (parts : List Matcher) : Finishes inner query ⟨parts, []⟩ (collapse parts) := by
  intro fuel _
  rw [follow_end]
  rfl

theorem Finishes.step {progress next : Progress} {matcher : Matcher}
    (h : Finishes inner query next matcher)
    (hstep : (step inner query progress).result = .ok next)
    (hlength : next.rest.length < progress.rest.length) :
    Finishes inner query progress matcher := by
  intro fuel hfuel
  cases fuel with
  | zero => omega
  | succ fuel =>
      have hempty : progress.rest.isEmpty = false := by
        apply List.isEmpty_eq_false_iff.mpr
        intro hnil
        rw [hnil] at hlength
        cases hlength
      unfold follow
      rw [hempty, if_neg (by decide), Report.result_bind, hstep]
      exact h fuel (by omega)

theorem finishes_pieces {pieces : List Piece} (parts : List Matcher)
    (hpieces : forall piece, piece ∈ pieces ->
      (inner piece.right.write).result = .ok piece.right.meaning) :
    Finishes inner query ⟨parts, Piece.writeAll pieces⟩
      (Piece.attachAll (collapse parts) pieces) := by
  induction pieces generalizing parts with
  | nil => exact finishes_end parts
  | cons piece pieces ih =>
      have hlater : forall later, later ∈ pieces ->
          (inner later.right.write).result = .ok later.right.meaning := by
        intro later hlater
        exact hpieces later (List.mem_cons_of_mem _ hlater)
      -- What has been read is one part from here on, whatever the parts were before.
      have hattach := ih [piece.separator.combinator.attach (collapse parts) piece.right.meaning]
        hlater
      refine hattach.step (step_piece parts (hpieces piece List.mem_cons_self) (Piece.ends _)) ?_
      rcases piece.right.exists_write with ⟨c, more, hwrite, _⟩
      show (Piece.writeAll pieces).length <
        (piece.separator.write ++ (piece.right.write ++ Piece.writeAll pieces)).length
      rw [hwrite]
      simp only [List.length_append, List.length_cons]
      omega

/-- What stands in a compound is read one by one; the most recent part comes first. -/
theorem AllRead.finishes {items : List (Text × Matcher)} (h : AllRead inner items)
    {parts : List Matcher} (hends : Ends rest) {matcher : Matcher}
    (hfinishes : Finishes inner query ⟨(items.map Prod.snd).reverse ++ parts, rest⟩ matcher) :
    Finishes inner query ⟨parts, items.flatMap Prod.fst ++ rest⟩ matcher := by
  induction items generalizing parts with
  | nil => exact hfinishes
  | cons item items ih =>
      have hitem : ReadsAs inner item.1 item.2 := h item List.mem_cons_self
      have hitems : AllRead inner items := fun other hother => h other (List.mem_cons_of_mem _ hother)
      have hparts : ((item :: items).map Prod.snd).reverse ++ parts =
          (items.map Prod.snd).reverse ++ (item.2 :: parts) := by
        simp
      rw [hparts] at hfinishes
      rw [List.flatMap_cons, List.append_assoc]
      refine (ih hitems hfinishes).step (hitem.step parts (hitems.stops hends)) ?_
      rcases hitem.start with ⟨c, more, hwrite, _⟩
      rw [hwrite]
      simp only [List.length_append, List.length_cons]
      omega

/-! # Compounds -/

omit [Pattern.Engine] in
theorem collapse_conjunction (first : Matcher) (rest : List Matcher) :
    collapse (rest.reverse ++ [first]) = conjunction first rest := by
  cases rest with
  | nil => rfl
  | cons second rest =>
      have hreverse : ((second :: rest).reverse ++ [first]).reverse = first :: second :: rest := by
        simp
      unfold collapse
      split
      · rename_i hsingle
        have hlength := congrArg List.length hsingle
        simp at hlength
      · rw [hreverse]
        rfl

theorem start_simple {first : Text} {test : Matcher}
    (hstart : exists c more, first = c :: more ∧ isSeparator c = false)
    (hread : forall query rest, Stops isTagChar rest ->
      (simpleTest inner query (first ++ rest)).result = .ok (test, rest))
    (hrest : Stops isTagChar rest) :
    (start inner (first ++ rest)).result = .ok ⟨[test], rest⟩ := by
  have htest := hread (first ++ rest) rest hrest
  rcases hstart with ⟨c, more, hfirst, hseparator⟩
  have hskip : skipWhitespace (first ++ rest) = (false, first ++ rest) := by
    rw [hfirst]
    exact skipWhitespace_of_not_separator hseparator
  have hmark : Combinator.ofMark? (peek (first ++ rest)) = none := by
    rw [hfirst]
    exact ofMark?_of_not_separator hseparator
  rw [start_eq]
  simp only [hskip, hmark]
  rw [Report.result_bind, htest]
  rfl

theorem parseWith_simple {first : Text} {test : Matcher} {items : List (Text × Matcher)}
    (hstart : exists c more, first = c :: more ∧ isSeparator c = false)
    (hread : forall query rest, Stops isTagChar rest ->
      (simpleTest inner query (first ++ rest)).result = .ok (test, rest))
    (hitems : AllRead inner items) (hends : Ends rest) {matcher : Matcher}
    (h : forall query parts, collapse parts = conjunction test (items.map Prod.snd) ->
      Finishes inner query ⟨parts, rest⟩ matcher) :
    (parseWith inner (first ++ (items.flatMap Prod.fst ++ rest))).result = .ok matcher := by
  unfold parseWith
  rw [Report.result_bind, start_simple hstart hread (hitems.stops hends)]
  -- The whole text bounds the steps, and what is left of it is no longer.
  exact hitems.finishes hends (h _ _ (collapse_conjunction test _)) _ (by simp)

def Grammar.Item.pairs (items : List Item) : List (Text × Matcher) :=
  items.map (fun item => (item.write, item.meaning))

theorem Grammar.Item.flatMap_pairs (items : List Item) :
    (Item.pairs items).flatMap Prod.fst = Item.writeAll items := by
  induction items with
  | nil => rfl
  | cons item items ih =>
      rw [Item.writeAll, ← ih]
      rfl

theorem Grammar.Item.map_pairs (items : List Item) :
    (Item.pairs items).map Prod.snd = Item.meanings items := by
  induction items with
  | nil => rfl
  | cons item items ih =>
      rw [Item.meanings, ← ih]
      rfl

theorem ReadsBelow.items (hbelow : ReadsBelow inner levels) {items : List Item}
    (hlevels : Item.levelsOfAll items ≤ levels) : AllRead inner (Item.pairs items) := by
  induction items with
  | nil => exact fun pair hpair => absurd hpair List.not_mem_nil
  | cons item items ih =>
      have hitem : item.levels ≤ levels := Nat.le_trans (Nat.le_max_left _ _) hlevels
      have hitems := ih (Nat.le_trans (Nat.le_max_right _ _) hlevels)
      intro pair hpair
      rcases List.mem_cons.mp hpair with rfl | hpair
      · exact readsAs_item hbelow hitem
      · exact hitems pair hpair

theorem parseWith_compound (hbelow : ReadsBelow inner levels) {compound : Compound}
    (hlevels : compound.levels ≤ levels) (hends : Ends rest) {matcher : Matcher}
    (h : forall query parts, collapse parts = compound.meaning ->
      Finishes inner query ⟨parts, rest⟩ matcher) :
    (parseWith inner (compound.write ++ rest)).result = .ok matcher := by
  cases compound with
  | tagged tag items =>
      have hseparator : isSeparator tag.first = false := (plain_of_alphanumeric tag.start).separator
      have hparse := parseWith_simple ⟨tag.first, tag.rest, rfl, hseparator⟩
        (fun _ _ => simpleTest_tag tag) (hbelow.items hlevels) hends
        (fun query parts hparts => h query parts (hparts.trans (by rw [Item.map_pairs]; rfl)))
      rw [Item.flatMap_pairs, ← List.append_assoc] at hparse
      exact hparse
  | untagged first items =>
      have hfirst : first.levels ≤ levels := Nat.le_trans (Nat.le_max_left _ _) hlevels
      have hitems : Item.levelsOfAll items ≤ levels :=
        Nat.le_trans (Nat.le_max_right _ _) hlevels
      rcases first.exists_write with ⟨c, more, hwrite, hseparator, _⟩
      have hparse := parseWith_simple ⟨c, more, hwrite, hseparator⟩
        (readsAs_item hbelow hfirst).read (hbelow.items hitems) hends
        (fun query parts hparts => h query parts (hparts.trans (by rw [Item.map_pairs]; rfl)))
      rw [Item.flatMap_pairs, ← List.append_assoc] at hparse
      exact hparse

theorem parseWith_lead (lead : Lead) {compound : Compound}
    (hinner : (inner compound.write).result = .ok compound.meaning) (hends : Ends rest)
    {matcher : Matcher}
    (h : forall query, Finishes inner query
      ⟨[lead.mark.combinator.join .root compound.meaning], rest⟩ matcher) :
    (parseWith inner (lead.write ++ (compound.write ++ rest))).result = .ok matcher := by
  generalize hquery : lead.write ++ (compound.write ++ rest) = query
  have hshape : query =
      lead.mark.character :: (lead.after.text ++ (compound.write ++ rest)) := by
    rw [← hquery]
    rfl
  have hskip : (skipWhitespace query).2 = query := by
    rw [hshape]
    exact skipWhitespace_blank .none
      (not_whitespace_of_ofMark? lead.mark.ofMark?_character)
  have hmark : Combinator.ofMark? (peek query) = some lead.mark.combinator := by
    rw [hshape]
    exact lead.mark.ofMark?_character
  have hroot : IsSingle .root := fun _ => Matcher.noConfusion
  have hstart : (start inner query).result =
      .ok ⟨[lead.mark.combinator.join .root compound.meaning], rest⟩ := by
    rw [start_eq]
    simp only [hskip, hmark]
    rw [hshape, List.tail_cons, relate_compound _ _ lead.after hinner hends]
    show Except.ok (Progress.mk [lead.mark.combinator.attach .root compound.meaning] rest) = _
    rw [attach_of_single hroot]
  unfold parseWith
  rw [Report.result_bind, hstart]
  apply h query query.length
  rw [hshape]
  simp only [List.length_append, List.length_cons]
  omega

/-! # Groups -/

def Grammar.Compound.alone (compound : Compound) : Group :=
  .mk .none none (.mk compound []) [] .none

theorem Grammar.Compound.write_alone (compound : Compound) :
    compound.alone.write = compound.write := by
  simp [Compound.alone, Group.write, Sequence.write, Compound.writeLinks, Sequence.writeOthers]

theorem ReadsBelow.compound (hbelow : ReadsBelow inner levels) {compound : Compound}
    (hlevels : compound.levels < levels) :
    (inner compound.write).result = .ok compound.meaning := by
  have halone : compound.alone.levels < levels := by
    show max (max compound.levels 0) 0 < levels
    omega
  rw [← compound.write_alone]
  exact hbelow compound.alone halone

theorem parseWith_group (hbelow : ReadsBelow inner levels) {group : Group}
    (hlevels : group.levels ≤ levels) : (parseWith inner group.core).result = .ok group.meaning := by
  have hpieces : forall piece, piece ∈ group.pieces ->
      (inner piece.right.write).result = .ok piece.right.meaning := by
    intro piece hpiece
    exact hbelow.compound (Nat.lt_of_lt_of_le (Group.levels_of_mem hpiece) hlevels)
  have hends : Ends (Piece.writeAll group.pieces) := Piece.ends group.pieces
  have hmeaning := group.attachAll_start
  unfold Group.core
  unfold Group.start at hmeaning
  cases hlead : group.lead with
  | none =>
      rw [hlead] at hmeaning
      have hfirst : group.first.levels ≤ levels := Nat.le_trans group.levels_of_first hlevels
      apply parseWith_compound hbelow hfirst hends
      intro query parts hparts
      rw [← hmeaning, ← hparts]
      exact finishes_pieces parts hpieces
  | some lead =>
      rw [hlead] at hmeaning
      have hfirst : group.first.levels < levels :=
        Nat.lt_of_lt_of_le (Group.levels_of_lead hlead) hlevels
      apply parseWith_lead lead (hbelow.compound hfirst) hends
      intro query
      rw [← hmeaning]
      exact finishes_pieces _ hpieces

end Reading

theorem parseWithin_of_trim [Pattern.Engine]
    {levels : Nat} {group : Group} (h : group.levels ≤ levels)
    {text : Text} (htext : Text.trim text = group.core) :
    (parseWithin levels text).result = .ok group.meaning := by
  induction levels generalizing group text with
  | zero =>
      have hbelow : ReadsBelow (fun sub => .fail (.nestingTooDeep maxNesting group.core sub)) 0 := by
        intro argument hlevels
        cases hlevels
      unfold parseWithin
      rw [htext]
      exact parseWith_group hbelow h
  | succ levels ih =>
      have hbelow : ReadsBelow (parseWithin levels) (levels + 1) := by
        intro argument hlevels
        exact ih (Nat.le_of_lt_succ hlevels) argument.trim_write
      unfold parseWithin
      rw [htext]
      exact parseWith_group hbelow h

/-- The text of every tree that is nested no deeper than allowed is read as what the tree means. -/
theorem parse_write [Pattern.Engine] (group : Group) (h : group.levels ≤ maxNesting) :
    (parse group.write).result = .ok group.meaning ∧
      Query.parse group.write = .ok ⟨Text.trim group.write, group.meaning⟩ := by
  have htrim : Text.trim (Text.trim group.write) = group.core := by
    rw [group.trim_write, Text.trim_of_tight group.tight_core]
  have hparse : (parse (Text.trim group.write)).result = .ok group.meaning :=
    parseWithin_of_trim h htrim
  constructor
  · exact parseWithin_of_trim h group.trim_write
  · unfold Query.parse
    simp only [argument_not_blank group, hparse]
    rfl

def sampleGroup [Pattern.Engine] : Group :=
  let one : Blank := ⟨[' '], List.all_eq_true.mp (by decide)⟩
  let item : TagName := ⟨'l', ['I'], by decide +kernel, List.all_eq_true.mp (by decide +kernel)⟩
  let name : Name := ⟨['a'], by decide, List.all_eq_true.mp (by decide +kernel)⟩
  let alone : Compound -> Group := fun compound => .mk one none (.mk compound []) [] .none
  let child : Compound := .tagged item [.not (alone (.untagged (.leaf (.className name)) []))]
  let above : Compound := .untagged (.has (alone (.tagged item []))) []
  .mk one (some ⟨.child, .none⟩) (.mk child []) [(⟨.none, one⟩, .mk above [])] one

theorem parse_write_sampleGroup :
    sampleGroup.write = " >lI:not( .a), :has( lI) ".toList ∧ sampleGroup.levels ≤ maxNesting ∧
    (parse " >lI:not( .a), :has( lI) ").result =
      .ok (.any [.all [.all [.tag "li", .not (.className "a")], .parent .root],
        .has (.tag "li")]) := by
  have hwrite : sampleGroup.write = " >lI:not( .a), :has( lI) ".toList := rfl
  have hlevels : sampleGroup.levels ≤ maxNesting := by decide
  have hparse := (parse_write sampleGroup hlevels).1
  rw [hwrite] at hparse
  exact ⟨hwrite, hlevels, hparse⟩

end Selector
end TreeQuery
