import TreeQuery.Proofs.Selector.Readings

/-!
# Steps of reading a selector

A step reads a simple selector or the right side of a combinator.  What one step keeps is kept by
all steps together, and holds when the text comes to its end.
-/

namespace TreeQuery
namespace Selector

open Scan

/-- From a text that is left something is read.  If a separator comes first, a right side is cut
out and attached to the given matcher, otherwise a simple selector is put before the given parts. -/
inductive Advances [Pattern.Engine]
    (inner : Text -> Report Matcher) (query : Text) (before : Matcher)
    (parts : List Matcher) (rest : Text) : Progress -> Prop where
  | related {combinator : Combinator} {text : Text} {right : Matcher} :
      (exists c, rest.head? = some c ∧ isSeparator c = true) -> text <:+ rest ->
      (inner (subSelector text).1).result = .ok right ->
      Advances inner query before parts rest
        ⟨[combinator.attach before right], (subSelector text).2⟩
  | simple {test : Matcher} {left : Text} :
      (forall c, rest.head? = some c -> isSeparator c = false) ->
      Reads inner query rest test left ->
      Advances inner query before parts rest ⟨test :: parts, left⟩

section Reading

variable {inner : Text -> Report Matcher} {query rest : Text} {before : Matcher}
  {parts : List Matcher} {progress next : Progress}

theorem exists_of_relate {combinator : Combinator}
    (h : (relate inner combinator parts rest).result = .ok next) :
    exists right, (inner (subSelector (skipWhitespace rest).2).1).result = .ok right ∧
      next = ⟨[combinator.attach (collapse parts) right],
        (subSelector (skipWhitespace rest).2).2⟩ := by
  unfold relate at h
  rcases Report.result_bind_eq_ok.mp h with ⟨right, hright, hnext⟩
  cases hnext
  exact ⟨right, hright, rfl⟩

theorem skipWhitespace_suffix (text : Text) : (skipWhitespace text).2 <:+ text :=
  List.dropWhile_suffix _

theorem head?_of_ofMark? {combinator : Combinator} {text : Text}
    (h : Combinator.ofMark? (peek text) = some combinator) :
    exists c, text.head? = some c ∧ isSeparator c = true := by
  cases text with
  | nil => cases h
  | cons c rest =>
      exact ⟨c, rfl, separator_of_ofMark? h⟩

theorem not_separator_of_ofMark? {text : Text} (hmark : Combinator.ofMark? (peek text) = none)
    (hspace : forall c, text.head? = some c -> Text.isWhitespace c = false) :
    forall c, text.head? = some c -> isSeparator c = false := by
  intro c hc
  have hpeek : peek text = c := by
    cases text with
    | nil => cases hc
    | cons d rest =>
        cases hc
        rfl
  rw [hpeek] at hmark
  rw [isSeparator, ← Combinator.isSome_ofMark?, hmark, hspace c hc]
  rfl

theorem head?_skipWhitespace (text : Text) :
    forall c, (skipWhitespace text).2.head? = some c -> Text.isWhitespace c = false := by
  intro c hc
  cases hskip : (skipWhitespace text).2 with
  | nil =>
      rw [hskip] at hc
      cases hc
  | cons d rest =>
      rw [hskip] at hc
      cases hc
      exact Text.not_of_dropWhile hskip

theorem skipWhitespace_cases (text : Text) :
    (exists c, text.head? = some c ∧ isSeparator c = true) ∧ (skipWhitespace text).1 = true ∨
      skipWhitespace text = (false, text) := by
  cases text with
  | nil => exact Or.inr rfl
  | cons c rest =>
      cases hc : Text.isWhitespace c with
      | true => exact Or.inl ⟨⟨c, rfl, by simp [isSeparator, hc]⟩, hc⟩
      | false =>
          have hkept : (c :: rest).dropWhile Text.isWhitespace = c :: rest := by simp [hc]
          exact Or.inr (Prod.ext hc hkept)

theorem advances_of_step [Pattern.Engine] (h : (step inner query progress).result = .ok next) :
    Advances inner query (collapse progress.parts) progress.parts progress.rest next := by
  have hspace := head?_skipWhitespace progress.rest
  have hsuffix := skipWhitespace_suffix progress.rest
  have hcases := skipWhitespace_cases progress.rest
  rcases hskip : skipWhitespace progress.rest with ⟨isSpaced, rest⟩
  rw [hskip] at hspace hsuffix hcases
  rw [step_eq] at h
  simp only [hskip] at h
  cases hmark : Combinator.ofMark? (peek rest) with
  | some combinator =>
      rw [hmark] at h
      rcases exists_of_relate h with ⟨right, hright, rfl⟩
      have hseparator : exists c, progress.rest.head? = some c ∧ isSeparator c = true := by
        rcases hcases with ⟨hseparator, _⟩ | hsame
        · exact hseparator
        · cases hsame
          exact head?_of_ofMark? hmark
      exact Advances.related hseparator
        (((skipWhitespace_suffix _).trans (List.tail_suffix _)).trans hsuffix) hright
  | none =>
      rw [hmark] at h
      cases isSpaced with
      | true =>
          rcases exists_of_relate h with ⟨right, hright, rfl⟩
          rcases hcases with ⟨hseparator, _⟩ | hsame
          · exact Advances.related hseparator ((skipWhitespace_suffix _).trans hsuffix) hright
          · cases hsame
      | false =>
          rcases hcases with ⟨_, hspaced⟩ | hsame
          · cases hspaced
          · cases hsame
            rcases Report.result_bind_eq_ok.mp h with ⟨⟨test, left⟩, htest, hread⟩
            cases hread
            exact Advances.simple (not_separator_of_ofMark? hmark hspace)
              (reads_of_simpleTest htest)

theorem advances_of_start [Pattern.Engine] (h : (start inner query).result = .ok next) :
    Advances inner query .root [] (skipWhitespace query).2 next := by
  have hspace := head?_skipWhitespace query
  rw [start_eq] at h
  generalize (skipWhitespace query).2 = rest at h hspace
  simp only at h
  cases hmark : Combinator.ofMark? (peek rest) with
  | some combinator =>
      rw [hmark] at h
      rcases exists_of_relate h with ⟨right, hright, rfl⟩
      exact Advances.related (head?_of_ofMark? hmark)
        ((skipWhitespace_suffix _).trans (List.tail_suffix _)) hright
  | none =>
      rw [hmark] at h
      rcases Report.result_bind_eq_ok.mp h with ⟨⟨test, left⟩, htest, hread⟩
      cases hread
      exact Advances.simple (not_separator_of_ofMark? hmark hspace) (reads_of_simpleTest htest)

/-! # What a step leaves -/

theorem Advances.suffix [Pattern.Engine]
    (advances : Advances inner query before parts rest next) : next.rest <:+ rest := by
  cases advances with
  | related _ htext => exact (subSelector_suffix _).trans htext
  | simple _ reads => exact reads.suffix

theorem length_relate_le {combinator : Combinator}
    (h : (relate inner combinator parts rest).result = .ok next) :
    next.rest.length ≤ rest.length := by
  rcases exists_of_relate h with ⟨right, _, rfl⟩
  exact ((subSelector_suffix _).trans (skipWhitespace_suffix rest)).length_le

theorem length_skipWhitespace_lt {text : Text} (h : (skipWhitespace text).1 = true) :
    (skipWhitespace text).2.length < text.length := by
  cases text with
  | nil => cases h
  | cons c rest =>
      have hspace : Text.isWhitespace c = true := h
      have hskip : (skipWhitespace (c :: rest)).2 = rest.dropWhile Text.isWhitespace :=
        List.dropWhile_cons_of_pos hspace
      rw [hskip]
      exact Nat.lt_succ_of_le (List.dropWhile_suffix _).length_le

theorem length_step_lt [Pattern.Engine] (h : (step inner query progress).result = .ok next) :
    next.rest.length < progress.rest.length := by
  have hsuffix := skipWhitespace_suffix progress.rest
  rw [step_eq] at h
  split at h
  · rename_i combinator hmark
    have hrelate := length_relate_le h
    rcases head?_of_ofMark? hmark with ⟨c, hc, _⟩
    rcases List.head?_eq_some_iff.mp hc with ⟨after, hafter⟩
    have hlength := hsuffix.length_le
    rw [hafter] at hlength hrelate
    exact Nat.lt_of_le_of_lt hrelate hlength
  · split at h
    · rename_i hspaced
      exact Nat.lt_of_le_of_lt (length_relate_le h) (length_skipWhitespace_lt hspaced)
    · rcases Report.result_bind_eq_ok.mp h with ⟨⟨test, left⟩, htest, hnext⟩
      cases hnext
      exact Nat.lt_of_lt_of_le (reads_of_simpleTest htest).length_lt hsuffix.length_le

end Reading

/-- What holds at first and is kept by every step holds at the end of the text. -/
theorem follow_of_invariant [Pattern.Engine] {inner : Text -> Report Matcher} {query : Text}
    (holds : Progress -> Prop)
    (kept : forall progress next, holds progress -> progress.rest ≠ [] ->
      Advances inner query (collapse progress.parts) progress.parts progress.rest next ->
      holds next)
    {fuel : Nat} {progress : Progress} {matcher : Matcher} (h : holds progress)
    (hfollow : (follow inner query fuel progress).result = .ok matcher) :
    exists parts, holds ⟨parts, []⟩ ∧ matcher = collapse parts := by
  induction fuel generalizing progress with
  | zero =>
      rcases progress with ⟨parts, _ | ⟨c, rest⟩⟩
      · cases hfollow
        exact ⟨parts, h, rfl⟩
      · cases hfollow
  | succ fuel ih =>
      rcases progress with ⟨parts, _ | ⟨c, rest⟩⟩
      · cases hfollow
        exact ⟨parts, h, rfl⟩
      · rcases Report.result_bind_eq_ok.mp hfollow with ⟨next, hstep, hrest⟩
        exact ih (kept _ next h (List.cons_ne_nil c rest) (advances_of_step hstep)) hrest

theorem parseWith_of_invariant [Pattern.Engine] {inner : Text -> Report Matcher} {query : Text}
    (holds : Progress -> Prop)
    (first : forall next, Advances inner query .root [] (skipWhitespace query).2 next -> holds next)
    (kept : forall progress next, holds progress -> progress.rest ≠ [] ->
      Advances inner query (collapse progress.parts) progress.parts progress.rest next ->
      holds next)
    {matcher : Matcher} (h : (parseWith inner query).result = .ok matcher) :
    exists parts, holds ⟨parts, []⟩ ∧ matcher = collapse parts := by
  rcases Report.result_bind_eq_ok.mp h with ⟨progress, hstart, hfollow⟩
  exact follow_of_invariant holds kept (first progress (advances_of_start hstart)) hfollow

/-! # Two readings in step -/

section Simulation

variable [Pattern.Engine] {inner inner' : Text -> Report Matcher} {query query' : Text}
  {keeps : Matcher -> Prop}

/-- What the matcher has behind a step it had before. -/
def HandsBack (inner : Text -> Report Matcher) (query : Text) (keeps : Matcher -> Prop) : Prop :=
  forall (progress next : Progress),
    Advances inner query (collapse progress.parts) progress.parts progress.rest next ->
      keeps (collapse next.parts) -> keeps (collapse progress.parts)

theorem HandsBack.keeps_parts (back : HandsBack inner query keeps) {fuel : Nat}
    {progress : Progress} {matcher : Matcher}
    (h : (follow inner query fuel progress).result = .ok matcher) (hkeeps : keeps matcher) :
    keeps (collapse progress.parts) := by
  induction fuel generalizing progress with
  | zero =>
      rcases progress with ⟨parts, _ | ⟨c, rest⟩⟩
      · cases h
        exact hkeeps
      · cases h
  | succ fuel ih =>
      rcases progress with ⟨parts, _ | ⟨c, rest⟩⟩
      · cases h
        exact hkeeps
      · rcases Report.result_bind_eq_ok.mp h with ⟨next, hstep, hrest⟩
        exact back _ next (advances_of_step hstep) (ih hrest)

/-- A reading is repeated from a related text if every step is, up to a common end. -/
theorem HandsBack.simulation (back : HandsBack inner query keeps)
    (related : Progress -> Text -> Prop)
    (ends : forall parts rest', related ⟨parts, []⟩ rest' -> rest' = [])
    (repeated : forall progress rest' next, progress.rest ≠ [] -> related progress rest' ->
      (step inner query progress).result = .ok next -> keeps (collapse next.parts) ->
      exists left', related next left' ∧
        (step inner' query' ⟨progress.parts, rest'⟩).result = .ok ⟨next.parts, left'⟩)
    {fuel fuel' : Nat} (hfuel : fuel ≤ fuel') {progress : Progress} {rest' : Text}
    (hrest : related progress rest') {matcher : Matcher} (hkeeps : keeps matcher)
    (h : (follow inner query fuel progress).result = .ok matcher) :
    (follow inner' query' fuel' ⟨progress.parts, rest'⟩).result = .ok matcher := by
  have hend : forall fuel' parts,
      (follow inner' query' fuel' ⟨parts, []⟩).result = .ok (collapse parts) := by
    intro fuel' parts
    cases fuel' <;> rfl
  induction fuel generalizing fuel' progress rest' with
  | zero =>
      rcases progress with ⟨parts, _ | ⟨c, rest⟩⟩
      · cases h
        rw [ends _ rest' hrest, hend]
      · cases h
  | succ fuel ih =>
      rcases progress with ⟨parts, _ | ⟨c, rest⟩⟩
      · cases h
        rw [ends _ rest' hrest, hend]
      · rcases Report.result_bind_eq_ok.mp h with ⟨next, hstep, hnext⟩
        rcases repeated _ rest' next (List.cons_ne_nil c rest) hrest hstep
          (back.keeps_parts hnext hkeeps) with ⟨left', hleft, hstep'⟩
        cases fuel' with
        | zero => exact absurd hfuel (Nat.not_succ_le_zero fuel)
        | succ fuel' =>
            -- Nothing is read at the end, so the related text is not at its end either.
            cases rest' with
            | nil => cases hstep'
            | cons d rest' =>
                exact Report.result_bind_eq_ok.mpr
                  ⟨⟨next.parts, left'⟩, hstep', ih (Nat.le_of_succ_le_succ hfuel) hleft hnext⟩

end Simulation

end Selector
end TreeQuery
