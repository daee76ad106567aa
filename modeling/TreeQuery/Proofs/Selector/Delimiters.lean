import TreeQuery.Proofs.Selector.Grammar

/-!
# Delimiters

A text is closed if it opens no group that it does not close and closes none that it does not
open.  A group around a closed text is taken off exactly, and a compound in which every group is
closed is cut out exactly.
-/

namespace TreeQuery
namespace Selector

open Scan Grammar

/-! # Open groups -/

inductive Pair : Char -> Char -> Prop where
  | parentheses : Pair '(' ')'
  | brackets : Pair '[' ']'

namespace Pair

variable {opening closing : Char}

theorem ordinary (pair : Pair opening closing) : IsOrdinary opening ∧ IsOrdinary closing := by
  cases pair <;> decide

theorem ne (pair : Pair opening closing) : closing ≠ opening := by
  cases pair <;> decide

theorem isDelimiter (pair : Pair opening closing) :
    isDelimiter opening = true ∧ isDelimiter closing = true := by
  cases pair <;> decide

theorem ne_of_not_delimiter (pair : Pair opening closing) {c : Char}
    (h : Grammar.isDelimiter c = false) : c ≠ opening ∧ c ≠ closing := by
  constructor
  · rintro rfl
    rw [pair.isDelimiter.1] at h
    cases h
  · rintro rfl
    rw [pair.isDelimiter.2] at h
    cases h

end Pair

/-- A group that is open before the text is open behind it, and the text is kept as it is. -/
def Neutral (opening closing : Char) (text : Text) : Prop :=
  forall depth last rest, 0 < depth -> IsOrdinary last ->
    exists next, IsOrdinary next ∧
      balancedFrom opening closing depth last (text ++ rest) =
        (text ++ (balancedFrom opening closing depth next rest).1,
          (balancedFrom opening closing depth next rest).2)

section Neutral

variable {opening closing : Char}

theorem balancedFrom_cons {depth : Nat} {last c : Char} {rest : Text} (hlast : last ≠ endMark)
    (hdepth : depthAfter opening closing depth last c ≠ 0) :
    balancedFrom opening closing depth last (c :: rest) =
      (c :: (balancedFrom opening closing (depthAfter opening closing depth last c) c rest).1,
        (balancedFrom opening closing (depthAfter opening closing depth last c) c rest).2) := by
  rw [balancedFrom]
  simp only [hdepth, hlast, if_false]

theorem neutral_nil : Neutral opening closing [] := by
  intro depth last rest _ hlast
  exact ⟨last, hlast, rfl⟩

theorem Neutral.append {first second : Text} (hfirst : Neutral opening closing first)
    (hsecond : Neutral opening closing second) : Neutral opening closing (first ++ second) := by
  intro depth last rest hdepth hlast
  rcases hfirst depth last (second ++ rest) hdepth hlast with ⟨middle, hmiddle, hfirst⟩
  rcases hsecond depth middle rest hdepth hmiddle with ⟨next, hnext, hsecond⟩
  refine ⟨next, hnext, ?_⟩
  rw [List.append_assoc, hfirst, hsecond, List.append_assoc]

theorem neutral_char {c : Char} (hc : IsOrdinary c) (hopening : c ≠ opening)
    (hclosing : c ≠ closing) : Neutral opening closing [c] := by
  intro depth last rest hdepth hlast
  have hafter : depthAfter opening closing depth last c = depth := by
    simp [depthAfter, hlast.1, hopening, hclosing]
  refine ⟨c, hc, ?_⟩
  show balancedFrom opening closing depth last (c :: rest) = _
  rw [balancedFrom_cons hlast.2 (by omega), hafter]
  rfl

theorem neutral_escaped (pair : Pair opening closing) {c : Char} (hc : IsOrdinary c) :
    Neutral opening closing [escapeMark, c] := by
  intro depth last rest hdepth hlast
  have hmark : depthAfter opening closing depth last escapeMark = depth := by
    simp [depthAfter, hlast.1, pair.ordinary.1.1.symm, pair.ordinary.2.1.symm]
  have hafter : depthAfter opening closing depth escapeMark c = depth := by
    simp [depthAfter]
  refine ⟨c, hc, ?_⟩
  show balancedFrom opening closing depth last (escapeMark :: c :: rest) = _
  rw [balancedFrom_cons hlast.2 (by omega), hmark,
    balancedFrom_cons (by decide) (by omega), hafter]
  rfl

theorem Neutral.enclose (pair : Pair opening closing) {text : Text}
    (h : Neutral opening closing text) :
    Neutral opening closing (opening :: text ++ [closing]) := by
  intro depth last rest hdepth hlast
  have hopen : depthAfter opening closing depth last opening = depth + 1 := by
    simp [depthAfter, hlast.1]
  rcases h (depth + 1) opening (closing :: rest) (by omega) pair.ordinary.1
    with ⟨next, hnext, htext⟩
  have hclose : depthAfter opening closing (depth + 1) next closing = depth := by
    simp [depthAfter, hnext.1, pair.ne]
  refine ⟨closing, pair.ordinary.2, ?_⟩
  have hshape : opening :: text ++ [closing] ++ rest = opening :: (text ++ closing :: rest) := by
    simp
  rw [hshape, balancedFrom_cons hlast.2 (by omega), hopen, htext,
    balancedFrom_cons hnext.2 (by omega), hclose]
  simp

theorem Neutral.balanced (pair : Pair opening closing) {text : Text}
    (h : Neutral opening closing text) (rest : Text) :
    Scan.balanced opening closing (opening :: (text ++ closing :: rest)) = (text, rest) := by
  have hopen : depthAfter opening closing 0 endMark opening = 1 := by
    simp [depthAfter, show endMark ≠ escapeMark by decide]
  rcases h 1 opening (closing :: rest) (by omega) pair.ordinary.1 with ⟨next, hnext, htext⟩
  have hclose : depthAfter opening closing 1 next closing = 0 := by
    simp [depthAfter, hnext.1, pair.ne]
  have hend : balancedFrom opening closing 1 next (closing :: rest) = ([], rest) := by
    rw [balancedFrom]
    simp only [hclose, if_true]
  unfold Scan.balanced
  rw [balancedFrom]
  simp only [hopen, Nat.one_ne_zero, if_false, if_true, htext, hend, List.append_nil]

theorem closes_last {depth : Nat} {last other : Char} {text : Text} (hlast : last ≠ escapeMark)
    (hother : other ≠ escapeMark) :
    closes opening closing depth last text = closes opening closing depth other text := by
  cases text with
  | nil => rfl
  | cons c rest =>
      rw [closes, closes]
      simp only [hlast, hother, if_false]

theorem exists_of_closes {depth : Nat} {last c : Char} {rest : Text}
    (h : closes opening closing depth last (c :: rest) = true) (below : Nat) :
    exists after, depthAfter opening closing (below + depth) last c = below + after ∧
      closes opening closing after c rest = true := by
  unfold closes at h
  unfold depthAfter
  by_cases hescaped : last = escapeMark
  · rw [if_pos hescaped] at h ⊢
    exact ⟨depth, rfl, h⟩
  · rw [if_neg hescaped] at h ⊢
    by_cases hopening : c = opening
    · rw [if_pos hopening] at h ⊢
      exact ⟨depth + 1, rfl, h⟩
    · rw [if_neg hopening] at h ⊢
      by_cases hclosing : c = closing
      · rw [if_pos hclosing] at h ⊢
        simp only [Bool.and_eq_true, decide_eq_true_eq] at h
        exact ⟨depth - 1, by omega, h.2⟩
      · rw [if_neg hclosing] at h ⊢
        exact ⟨depth, rfl, h⟩

theorem balancedFrom_of_closes {text : Text} {below depth : Nat} {last : Char} (rest : Text)
    (hbelow : 0 < below) (hcloses : closes opening closing depth last text = true)
    (hmarked : forall c, c ∈ last :: text -> c ≠ endMark)
    (hend : (last :: text).getLast? ≠ some escapeMark) :
    exists next, IsOrdinary next ∧
      balancedFrom opening closing (below + depth) last (text ++ rest) =
        (text ++ (balancedFrom opening closing below next rest).1,
          (balancedFrom opening closing below next rest).2) := by
  -- The last character is generalized, since it may be an escape mark in the middle of the text.
  induction text generalizing depth last with
  | nil =>
      have hdepth : depth = 0 := by simpa [closes] using hcloses
      have hlast : last ≠ escapeMark := by simpa using hend
      refine ⟨last, ⟨hlast, hmarked last List.mem_cons_self⟩, ?_⟩
      rw [hdepth]
      rfl
  | cons c text ih =>
      have hlast : last ≠ endMark := hmarked last List.mem_cons_self
      have hmarkedRest : forall d, d ∈ c :: text -> d ≠ endMark := by
        intro d hd
        exact hmarked d (List.mem_cons_of_mem _ hd)
      have hendRest : (c :: text).getLast? ≠ some escapeMark := by
        rwa [List.getLast?_cons_cons] at hend
      rcases exists_of_closes hcloses below with ⟨after, hafter, hcloses⟩
      rcases ih hcloses hmarkedRest hendRest with ⟨next, hnext, htext⟩
      refine ⟨next, hnext, ?_⟩
      rw [List.cons_append, balancedFrom_cons hlast (by omega), hafter, htext]
      rfl

theorem neutral_of_closes {text : Text} (hcloses : closes opening closing 0 endMark text = true)
    (hmarked : forall c, c ∈ text -> c ≠ endMark) (hend : text.getLast? ≠ some escapeMark) :
    Neutral opening closing text := by
  intro depth last rest hdepth hlast
  have hfirst : closes opening closing 0 last text = true := by
    rw [closes_last hlast.1 (show endMark ≠ escapeMark by decide)]
    exact hcloses
  apply balancedFrom_of_closes rest hdepth hfirst
  · intro c hc
    cases hc with
    | head => exact hlast.2
    | tail _ hc => exact hmarked c hc
  · cases text with
    | nil => simpa using hlast.1
    | cons c text => rwa [List.getLast?_cons_cons]

end Neutral

/-! # Closed texts -/

/-- The text closes what it opens, whatever the delimiters. -/
structure Closed (text : Text) : Prop where
  neutral : forall {opening closing}, Pair opening closing -> Neutral opening closing text

theorem closed_nil : Closed [] :=
  ⟨fun _ => neutral_nil⟩

theorem Closed.append {first second : Text} (hfirst : Closed first) (hsecond : Closed second) :
    Closed (first ++ second) :=
  ⟨fun pair => (hfirst.neutral pair).append (hsecond.neutral pair)⟩

theorem closed_char {c : Char} (hc : IsOrdinary c) (hdelimiter : isDelimiter c = false) :
    Closed [c] := by
  constructor
  intro opening closing pair
  rcases pair.ne_of_not_delimiter hdelimiter with ⟨hopening, hclosing⟩
  exact neutral_char hc hopening hclosing

theorem closed_of_all {text : Text}
    (h : forall c, c ∈ text -> IsOrdinary c ∧ isDelimiter c = false) : Closed text := by
  induction text with
  | nil => exact closed_nil
  | cons c rest ih =>
      have hc := h c List.mem_cons_self
      have hrest := ih fun d hd => h d (List.mem_cons_of_mem _ hd)
      exact (closed_char hc.1 hc.2).append hrest

theorem Closed.enclose {text : Text} (h : Closed text) {opening closing : Char}
    (pair : Pair opening closing) : Closed (opening :: text ++ [closing]) := by
  have hother : forall {opening' closing'}, Pair opening' closing' -> opening ≠ opening' ->
      opening ≠ closing' -> closing ≠ opening' -> closing ≠ closing' ->
      Neutral opening' closing' (opening :: text ++ [closing]) := by
    intro opening' closing' pair' hne hne' hne'' hne'''
    have hopen : Neutral opening' closing' [opening] := neutral_char pair.ordinary.1 hne hne'
    have hclose : Neutral opening' closing' [closing] := neutral_char pair.ordinary.2 hne'' hne'''
    exact (hopen.append (h.neutral pair')).append hclose
  constructor
  intro opening' closing' pair'
  cases pair with
  | parentheses =>
      cases pair' with
      | parentheses => exact (h.neutral .parentheses).enclose .parentheses
      | brackets => exact hother .brackets (by decide) (by decide) (by decide) (by decide)
  | brackets =>
      cases pair' with
      | parentheses => exact hother .parentheses (by decide) (by decide) (by decide) (by decide)
      | brackets => exact (h.neutral .brackets).enclose .brackets

def escapeWhere (test : Char -> Bool) (text : Text) : Text :=
  text.flatMap (fun c => if test c then [escapeMark, c] else [c])

theorem neutral_escapeWhere {opening closing : Char} (pair : Pair opening closing)
    {test : Char -> Bool} (hopening : test opening = true) (hclosing : test closing = true)
    {text : Text} (hclean : forall c, c ∈ text -> IsOrdinary c) :
    Neutral opening closing (escapeWhere test text) := by
  induction text with
  | nil => exact neutral_nil
  | cons c rest ih =>
      have hc : IsOrdinary c := hclean c List.mem_cons_self
      have hrest := ih fun d hd => hclean d (List.mem_cons_of_mem _ hd)
      show Neutral opening closing ((if test c then [escapeMark, c] else [c]) ++ escapeWhere test rest)
      cases htest : test c with
      | true => exact (neutral_escaped pair hc).append hrest
      | false =>
          have hne : forall d, test d = true -> c ≠ d := by
            rintro d hd rfl
            rw [htest] at hd
            cases hd
          exact (neutral_char hc (hne _ hopening) (hne _ hclosing)).append hrest

theorem closed_escape {text : Text} (hclean : forall c, c ∈ text -> IsOrdinary c) :
    Closed (escape text) :=
  ⟨fun pair => neutral_escapeWhere pair pair.isDelimiter.1 pair.isDelimiter.2 hclean⟩

theorem Grammar.Expression.closed [Pattern.Engine]
    (expression : Expression) : Closed expression.source := by
  constructor
  intro opening closing pair
  cases pair with
  | parentheses =>
      exact neutral_of_closes expression.parentheses expression.marked expression.unescaped
  | brackets =>
      exact neutral_of_closes expression.brackets expression.marked expression.unescaped

/-! # Cutting out compounds -/

theorem length_balancedFrom_le {opening closing : Char} {depth : Nat} {last : Char} {text : Text} :
    (balancedFrom opening closing depth last text).2.length ≤ text.length := by
  induction text generalizing depth last with
  | nil => exact Nat.le_refl 0
  | cons c rest ih =>
      rw [balancedFrom]
      split
      · exact Nat.le_succ _
      · exact Nat.le_succ_of_le ih

theorem length_balanced_lt {opening closing c : Char} {rest : Text} :
    (balanced opening closing (c :: rest)).2.length < (c :: rest).length := by
  unfold balanced
  rw [balancedFrom]
  split
  · exact Nat.lt_succ_self _
  · exact Nat.lt_succ_of_le length_balancedFrom_le

/-- Every step takes a character, so the number of steps does not matter if there are enough. -/
theorem subSelectorWithin_congr {first second : Nat} {text : Text} (hfirst : text.length ≤ first)
    (hsecond : text.length ≤ second) :
    subSelectorWithin first text = subSelectorWithin second text := by
  induction first generalizing second text with
  | zero =>
      have htext : text = [] := List.eq_nil_of_length_eq_zero (Nat.le_zero.mp hfirst)
      rw [htext]
      cases second with
      | zero => rfl
      | succ second => rfl
  | succ first ih =>
      cases second with
      | zero =>
          have htext : text = [] := List.eq_nil_of_length_eq_zero (Nat.le_zero.mp hsecond)
          rw [htext]
          rfl
      | succ second =>
          cases text with
          | nil => rfl
          | cons c rest =>
              have hrest : forall {left : Text}, left.length < (c :: rest).length ->
                  subSelectorWithin first left = subSelectorWithin second left := by
                intro left hleft
                exact ih (by omega) (by omega)
              rw [subSelectorWithin, subSelectorWithin]
              split
              · simp only [hrest length_balanced_lt]
              · split
                · simp only [hrest length_balanced_lt]
                · split
                  · rfl
                  · simp only [hrest (Nat.lt_succ_self rest.length)]

theorem subSelectorWithin_eq {fuel : Nat} {text : Text} (h : text.length ≤ fuel) :
    subSelectorWithin fuel text = subSelector text :=
  subSelectorWithin_congr h (Nat.le_refl _)

/-- The text belongs to a compound as a whole, wherever it stands in it. -/
def Whole (text : Text) : Prop :=
  forall rest, subSelector (text ++ rest) = (text ++ (subSelector rest).1, (subSelector rest).2)

def Ends (text : Text) : Prop :=
  forall c, text.head? = some c -> isSeparator c = true

theorem whole_nil : Whole [] :=
  fun _ => rfl

theorem Whole.append {first second : Text} (hfirst : Whole first) (hsecond : Whole second) :
    Whole (first ++ second) := by
  intro rest
  rw [List.append_assoc, hfirst, hsecond, List.append_assoc]

theorem whole_char {c : Char} (hdelimiter : isDelimiter c = false)
    (hseparator : isSeparator c = false) : Whole [c] := by
  intro rest
  unfold isDelimiter at hdelimiter
  simp only [Bool.or_eq_false_iff, beq_eq_false_iff_ne] at hdelimiter
  rcases hdelimiter with ⟨⟨⟨hopen, _⟩, hopen'⟩, _⟩
  show subSelectorWithin (rest.length + 1) (c :: rest) = _
  rw [subSelectorWithin]
  simp only [hopen, hopen', hseparator, if_false]
  rfl

theorem whole_of_all {text : Text}
    (h : forall c, c ∈ text -> isDelimiter c = false ∧ isSeparator c = false) : Whole text := by
  induction text with
  | nil => exact whole_nil
  | cons c rest ih =>
      have hc := h c List.mem_cons_self
      have hrest := ih fun d hd => h d (List.mem_cons_of_mem _ hd)
      exact (whole_char hc.1 hc.2).append hrest

theorem subSelectorWithin_group {opening closing : Char} (pair : Pair opening closing) (fuel : Nat)
    (rest : Text) :
    subSelectorWithin (fuel + 1) (opening :: rest) =
      let (inside, left) := balanced opening closing (opening :: rest)
      let (more, left) := subSelectorWithin fuel left
      (opening :: inside ++ closing :: more, left) := by
  cases pair with
  | parentheses => rfl
  | brackets => rfl

theorem Closed.whole {text : Text} (h : Closed text) {opening closing : Char}
    (pair : Pair opening closing) : Whole (opening :: text ++ [closing]) := by
  intro rest
  have hshape : opening :: text ++ [closing] ++ rest = opening :: (text ++ closing :: rest) := by
    simp
  have hlength : rest.length ≤ (text ++ closing :: rest).length := by
    simp
    omega
  rw [hshape]
  show subSelectorWithin ((text ++ closing :: rest).length + 1)
    (opening :: (text ++ closing :: rest)) = _
  rw [subSelectorWithin_group pair]
  simp only [(h.neutral pair).balanced pair, subSelectorWithin_eq hlength]
  simp

theorem subSelector_of_ends {rest : Text} (h : Ends rest) : subSelector rest = ([], rest) := by
  cases rest with
  | nil => rfl
  | cons c rest =>
      have hc : isSeparator c = true := h c rfl
      have hopen : c ≠ '(' := by
        rintro rfl
        revert hc
        decide
      have hopen' : c ≠ '[' := by
        rintro rfl
        revert hc
        decide
      show subSelectorWithin (rest.length + 1) (c :: rest) = _
      rw [subSelectorWithin]
      simp only [hopen, hopen', hc, if_true, if_false]

theorem Whole.subSelector_eq {text rest : Text} (h : Whole text) (hends : Ends rest) :
    subSelector (text ++ rest) = (text, rest) := by
  rw [h, subSelector_of_ends hends, List.append_nil]

end Selector
end TreeQuery
