import TreeQuery.Pattern.Search
import TreeQuery.Proofs.Selector.Arguments
import TreeQuery.Proofs.Selector.Escapes

/-!
# Escaped arguments

Whether a delimiter counts depends on the one character before it, while dropping escapes looks at
a row of marks from its start.  An escape mark before every delimiter keeps the group open, but
where the escaped text ends in the mark the closing delimiter does not count either, although that
mark is itself escaped.
-/

namespace TreeQuery
namespace Selector

open Scan Grammar

def isGuarded (opening closing c : Char) : Bool :=
  c == escapeMark || c == opening || c == closing

/-- The escape mark before every mark and delimiter that does not follow a mark already. -/
def escapeSparingly (opening closing : Char) : Char -> Text -> Text
  | _, [] => []
  | last, c :: rest =>
      if isGuarded opening closing c && last ≠ escapeMark then
        escapeMark :: c :: escapeSparingly opening closing c rest
      else c :: escapeSparingly opening closing c rest

/-- What is written is the text with escape marks before some of its characters.  Given the
character before it, no delimiter in it counts. -/
inductive Guards (opening closing : Char) : Char -> Text -> Text -> Prop where
  | nil {last : Char} : Guards opening closing last [] []
  | kept {last c : Char} {written text : Text} (hc : c = opening ∨ c = closing -> last = escapeMark)
      (hrest : Guards opening closing c written text) :
      Guards opening closing last (c :: written) (c :: text)
  | marked {last c : Char} {written text : Text} (hrest : Guards opening closing c written text) :
      Guards opening closing last (escapeMark :: c :: written) (c :: text)

section Guards

variable {opening closing last : Char} {written text : Text}

/-! # Ways to escape -/

theorem isGuarded_delimiter {c : Char} (h : c = opening ∨ c = closing) :
    isGuarded opening closing c = true := by
  rcases h with rfl | rfl
  · simp [isGuarded]
  · simp [isGuarded]

theorem guards_escapeWhere (last : Char) (text : Text) :
    Guards opening closing last (escapeWhere (isGuarded opening closing) text) text := by
  induction text generalizing last with
  | nil => exact .nil
  | cons c rest ih =>
      rw [escapeWhere_cons]
      cases hc : isGuarded opening closing c with
      | true => exact .marked (ih c)
      | false =>
          refine .kept (fun h => ?_) (ih c)
          rw [isGuarded_delimiter h] at hc
          cases hc

theorem guards_escapeSparingly {before : Char} (hlast : last = escapeMark -> before = escapeMark)
    (text : Text) :
    Guards opening closing before (escapeSparingly opening closing last text) text := by
  induction text generalizing last before with
  | nil => exact .nil
  | cons c rest ih =>
      rw [escapeSparingly]
      split
      · exact .marked (ih id)
      · rename_i hkept
        refine .kept (fun hc => hlast (Classical.not_not.mp fun hne => hkept ?_)) (ih id)
        simp [isGuarded_delimiter hc, hne]

theorem unescapeAfter_escapeSparingly (last : Char) (text : Text) :
    unescapeAfter last (escapeSparingly opening closing last text) = text := by
  induction text generalizing last with
  | nil => rfl
  | cons c rest ih =>
      rw [escapeSparingly]
      split
      · rename_i hmarked
        have hlast : last ≠ escapeMark := of_decide_eq_true (Bool.and_eq_true_iff.mp hmarked).2
        rw [unescapeAfter, unescapeAfter, ih]
        simp [hlast]
      · rename_i hkept
        have hstays : ¬(c = escapeMark && last ≠ escapeMark) = true := by
          intro hdropped
          simp only [Bool.and_eq_true, decide_eq_true_eq] at hdropped
          exact hkept (by simp [isGuarded, hdropped.1, hdropped.2])
        rw [unescapeAfter, if_neg hstays, ih]

theorem unescape_escapeSparingly (text : Text) :
    unescape (escapeSparingly opening closing endMark text) = text :=
  unescapeAfter_escapeSparingly endMark text

/-! # Groups around them -/

namespace Guards

theorem stillOpen_eq (pair : Pair opening closing) (h : Guards opening closing last written text)
    (depth : Nat) : stillOpen opening closing depth last written = some depth := by
  induction h with
  | nil => rfl
  | kept hc _ ih =>
      rw [stillOpen, ih]
      split
      · rfl
      · rename_i hlast
        rw [if_neg fun h => hlast (hc (Or.inl h)), if_neg fun h => hlast (hc (Or.inr h))]
  | marked _ ih =>
      rw [stillOpen, stillOpen, if_pos rfl, ih, if_neg pair.ordinary.1.1.symm,
        if_neg pair.ordinary.2.1.symm]
      split
      · rfl
      · rfl

theorem getLast?_eq (h : Guards opening closing last written text) :
    written.getLast? = text.getLast? := by
  induction h with
  | nil => rfl
  | kept _ _ ih => rw [List.getLast?_cons, List.getLast?_cons, ih]
  | marked _ ih => rw [List.getLast?_cons_cons, List.getLast?_cons, List.getLast?_cons, ih]

theorem not_endMark (h : Guards opening closing last written text) (hmarked : endMark ∉ text) :
    endMark ∉ written := by
  induction h with
  | nil => exact hmarked
  | kept _ _ ih =>
      rw [List.mem_cons, not_or] at hmarked ⊢
      exact ⟨hmarked.1, ih hmarked.2⟩
  | marked _ ih =>
      rw [List.mem_cons, not_or] at hmarked
      rw [List.mem_cons, not_or, List.mem_cons, not_or]
      exact ⟨by decide, hmarked.1, ih hmarked.2⟩

end Guards

theorem balancedFrom_last {depth : Nat} {other : Char}
    (hlast : last ≠ escapeMark ∧ last ≠ endMark) (hother : other ≠ escapeMark ∧ other ≠ endMark) :
    balancedFrom opening closing depth last text =
      balancedFrom opening closing depth other text := by
  cases text with
  | nil => rfl
  | cons c rest =>
      have hafter : depthAfter opening closing depth last c =
          depthAfter opening closing depth other c := by
        rw [depthAfter, depthAfter, if_neg hlast.1, if_neg hother.1]
      rw [balancedFrom, balancedFrom]
      simp only [hafter, hlast.2, hother.2]

/-- The group ends behind what is written, unless the text ends in the escape mark.  Then the
closing delimiter is read as part of the group, which goes on to the next one. -/
theorem Guards.balanced_eq (pair : Pair opening closing)
    (h : Guards opening closing opening written text) (hmarked : endMark ∉ text) (rest : Text) :
    balanced opening closing (opening :: (written ++ closing :: rest)) =
      if text.getLast? = some escapeMark then
        (written ++ closing :: (balanced opening closing (opening :: rest)).1,
          (balanced opening closing (opening :: rest)).2)
      else (written, rest) := by
  have hopen := h.stillOpen_eq pair 0
  have hclean := h.not_endMark hmarked
  have hlast : written.getLastD opening = text.getLast?.getD opening := by
    rw [List.getLastD_eq_getLast?, h.getLast?_eq]
  split
  · rename_i hmark
    rw [hmark, Option.getD_some] at hlast
    -- The closing delimiter does not count, and from it on the group reads as from its start.
    have hcount : depthAfter opening closing (0 + 1) escapeMark closing = 1 := by
      rw [depthAfter, if_pos rfl]
    have hnext : balancedFrom opening closing 1 closing rest =
        balancedFrom opening closing 1 opening rest :=
      balancedFrom_last pair.ordinary.2 pair.ordinary.1
    rw [balanced_of_stillOpen pair hopen hclean, hlast,
      balancedFrom_cons (by decide) (by rw [hcount]; exact Nat.one_ne_zero), hcount, hnext,
      balanced_opening]
  · rename_i hmark
    apply balanced_of_closed pair hopen hclean
    intro hsame
    rw [hlast] at hsame
    rcases Option.getD_eq_iff.mp hsame with hend | ⟨_, hend⟩
    · exact hmark hend
    · exact pair.ordinary.1.1 hend

end Guards

/-! # What an argument stands for -/

/-- The parenthesis behind the argument ends it, whatever follows, and without its escapes the
argument is the text. -/
structure Conveys (argument text : Text) : Prop where
  group : forall rest, balanced '(' ')' ('(' :: (argument ++ ')' :: rest)) = (argument, rest)
  content : unescape argument = text

theorem mem_unescapeAfter {last c : Char} {text : Text} (hc : c ≠ escapeMark) (h : c ∈ text) :
    c ∈ unescapeAfter last text := by
  induction text generalizing last with
  | nil => cases h
  | cons first rest ih =>
      rw [unescapeAfter]
      cases h with
      | head =>
          rw [if_neg (by simp [hc])]
          exact List.mem_cons_self
      | tail _ h =>
          split
          · exact ih h
          · exact List.mem_cons_of_mem first (ih h)

theorem unescapeAfter_concat {c : Char} (hc : c ≠ escapeMark) (last : Char) (text : Text) :
    unescapeAfter last (text ++ [c]) = unescapeAfter last text ++ [c] := by
  induction text generalizing last with
  | nil => simp [unescapeAfter, hc]
  | cons first rest ih =>
      rw [List.cons_append, unescapeAfter, unescapeAfter, ih]
      split
      · rfl
      · rfl

theorem selfContained_of_balanced {text : Text} (hmarked : endMark ∉ text)
    (h : balanced '(' ')' ('(' :: (text ++ [')'])) = (text, [])) : SelfContained text := by
  cases hopen : stillOpen '(' ')' 0 '(' text with
  | none =>
      rcases exists_of_closed .parentheses hopen hmarked with ⟨inside, left, rfl, hinside⟩
      rw [List.append_assoc, List.cons_append, hinside, Prod.mk.injEq] at h
      exact absurd h.2 (List.append_ne_nil_of_right_ne_nil left (List.cons_ne_nil _ _))
  | some left =>
      refine Classical.not_not.mp fun hnot => ?_
      rw [balanced_of_unclosed .parentheses hopen hmarked
        (unclosed_of_not_selfContained hnot hopen), Prod.mk.injEq] at h
      exact absurd (List.append_right_eq_self.mp h.1) (List.cons_ne_nil _ _)

namespace Conveys

variable {argument text : Text}

theorem getLast?_ne (h : Conveys argument text) (hmarked : endMark ∉ text) :
    text.getLast? ≠ some escapeMark := by
  have hclean : endMark ∉ argument := by
    intro hmem
    apply hmarked
    rw [← h.content]
    exact mem_unescapeAfter (by decide) hmem
  have hself : SelfContained argument := selfContained_of_balanced hclean (h.group [])
  rw [← h.content]
  rcases List.eq_nil_or_concat' argument with rfl | ⟨before, c, rfl⟩
  · exact Option.some_ne_none escapeMark |>.symm
  · have hc : c ≠ escapeMark := by
      intro hsame
      apply hself.2
      rw [List.getLast?_concat, hsame]
    rw [unescape, unescapeAfter_concat hc, List.getLast?_concat]
    exact fun hsame => hc (Option.some.inj hsame)

theorem simpleTest_contains [Pattern.Engine] (h : Conveys argument text) (hne : text ≠ [])
    (inner : Text -> Report Matcher) (query rest : Text) :
    simpleTest inner query (PseudoClass.contains.name ++ '(' :: (argument ++ ')' :: rest)) =
      pure (.containsText (Text.lower text), rest) := by
  rw [simpleTest_pseudo]
  unfold pseudoTest
  simp only [argumentOf_name, Report.pure_bind, h.group, h.content, List.isEmpty_eq_false_iff.mpr hne]
  rfl

theorem parse_contains [Pattern.Engine] (h : Conveys argument text) (hne : text ≠ []) :
    (parse (PseudoClass.contains.enclose argument)).result =
      .ok (.containsText (Text.lower text)) := by
  rw [parse_enclose]
  unfold parseWith
  rw [start_enclose, PseudoClass.enclose, h.simpleTest_contains hne, Report.result_bind]
  exact finishes_end [.containsText (Text.lower text)] _ (Nat.zero_le _)

end Conveys

theorem guards_argument (text : Text) :
    Guards '(' ')' '(' (escapeSparingly '(' ')' endMark text) text :=
  guards_escapeSparingly (fun hsame => absurd hsame (by decide)) text

theorem conveys_escapeSparingly {text : Text} (hmarked : endMark ∉ text)
    (hlast : text.getLast? ≠ some escapeMark) :
    Conveys (escapeSparingly '(' ')' endMark text) text := by
  constructor
  · intro rest
    rw [(guards_argument text).balanced_eq .parentheses hmarked, if_neg hlast]
  · exact unescape_escapeSparingly text

/-! # Which texts are arguments -/

/-- An escaped text is taken off with its parentheses exactly if it does not end in the escape
mark.  The texts that do are not conveyed by any argument, however it is escaped, and the others
can be searched for. -/
theorem balanced_escaped [Pattern.Engine] {text : Text} (hmarked : endMark ∉ text) :
    (forall rest, balanced '(' ')' ('(' ::
        (escapeWhere (isGuarded '(' ')') text ++ ')' :: rest)) =
      if text.getLast? = some escapeMark then
        (escapeWhere (isGuarded '(' ')') text ++ ')' :: (balanced '(' ')' ('(' :: rest)).1,
          (balanced '(' ')' ('(' :: rest)).2)
      else (escapeWhere (isGuarded '(' ')') text, rest)) ∧
    ((exists argument, Conveys argument text) ↔ text.getLast? ≠ some escapeMark) ∧
    forall argument, Conveys argument text -> text ≠ [] ->
      (parse (PseudoClass.contains.enclose argument)).result =
        .ok (.containsText (Text.lower text)) := by
  refine ⟨?_, ⟨?_, ?_⟩, ?_⟩
  · exact (guards_escapeWhere '(' text).balanced_eq .parentheses hmarked
  · intro h
    rcases h with ⟨argument, hargument⟩
    exact hargument.getLast?_ne hmarked
  · intro hlast
    exact ⟨_, conveys_escapeSparingly hmarked hlast⟩
  · intro argument hargument hne
    exact hargument.parse_contains hne

theorem balanced_escaped_parenthesis :
    endMark ∉ ['\\', '('] ∧
      balanced '(' ')' "(\\\\\\() p" = (("\\\\\\(" : Text), (" p" : Text)) ∧
      (parse (PseudoClass.contains.enclose ['\\', '\\', '('])).result =
        .ok (.containsText (Text.lower ['\\', '('])) := by
  have hmarked : endMark ∉ ['\\', '('] := by decide
  have hconveys : Conveys ['\\', '\\', '('] ['\\', '('] :=
    conveys_escapeSparingly hmarked (by decide)
  have hescaped := balanced_escaped hmarked
  exact ⟨hmarked, hescaped.1 [' ', 'p'], hescaped.2.2 _ hconveys (List.cons_ne_nil _ _)⟩

/-- Behind an escaped mark the parenthesis is read as part of the argument. -/
theorem escaped_mark_not_closed :
    balanced '(' ')' ('(' :: (escapeWhere (isGuarded '(' ')') ['\\'] ++ ')' :: ['x'])) ≠
        (escapeWhere (isGuarded '(' ')') ['\\'], ['x']) ∧
      (parse (PseudoClass.contains.enclose (escapeWhere (isGuarded '(' ')') ['\\']))).result =
        .ok (.containsText "\\)") := by
  constructor
  · decide
  · rfl

end Selector
end TreeQuery
