import TreeQuery.Proofs.Selector.Cursors

/-!
# Runs of a cursor

Every operation accounts for the text that is left: a look ahead keeps it, and an operation that
consumes takes a start of it.  So does a run of operations, in which the cursor stays within its
buffer and every piece that is asked for is there.
-/

namespace TreeQuery
namespace Selector
namespace Cursor

/-! # Account -/

def FirstIs (holds : Char -> Prop) (text : Text) : Prop :=
  exists c left, text = c :: left ∧ holds c

/-- What an operation does where a text is left: its answer and what is left after it. -/
inductive Does : Operation -> Text -> Answer -> Text -> Prop
  | isEmpty {text : Text} {flag : Bool} :
      (flag = true ↔ text = []) -> Does .isEmpty text (.flag flag) text
  | remaining {text : Text} : Does .remaining text (.number text.length) text
  | rest {text : Text} : Does .rest text (.text text) text
  | peek {text : Text} : Does .peek text (.character (text.headD Scan.endMark)) text
  | peekNext {text : Text} :
      Does .peekNext text (.character (text.tail.headD Scan.endMark)) text
  | startsWith {mark text : Text} {flag : Bool} :
      (flag = true ↔ StartsWith Text.sameLetter mark text) ->
        Does (.startsWith mark) text (.flag flag) text
  | startsWithExactly {mark text : Text} {flag : Bool} :
      (flag = true ↔ StartsWith (· == ·) mark text) ->
        Does (.startsWithExactly mark) text (.flag flag) text
  | startsWithAny {marks : List Text} {text : Text} {flag : Bool} :
      (flag = true ↔ exists mark, mark ∈ marks ∧ StartsWith Text.sameLetter mark text) ->
        Does (.startsWithAny marks) text (.flag flag) text
  | nextIsOneOf {choices text : Text} {flag : Bool} :
      (flag = true ↔ FirstIs (· ∈ choices) text) ->
        Does (.nextIsOneOf choices) text (.flag flag) text
  | nextIsWhitespace {text : Text} {flag : Bool} :
      (flag = true ↔ FirstIs (Text.isWhitespace · = true) text) ->
        Does .nextIsWhitespace text (.flag flag) text
  | nextIsWord {text : Text} {flag : Bool} :
      (flag = true ↔ FirstIs (Text.isAlphanumeric · = true) text) ->
        Does .nextIsWord text (.flag flag) text
  | next {c : Char} {left : Text} : Does .next (c :: left) (.character c) left
  | next_end : Does .next [] (.character Scan.endMark) []
  | advance {text : Text} : Does .advance text .done text.tail
  | pushFront {front text : Text} : Does (.pushFront front) text .done (front ++ text)
  | skip {mark text left : Text} :
      TakesOff Text.sameLetter mark text left -> Does (.skip mark) text (.flag true) left
  | skip_missing {mark text : Text} :
      ¬ StartsWith Text.sameLetter mark text -> Does (.skip mark) text (.flag false) text
  | expect {mark text left : Text} :
      TakesOff Text.sameLetter mark text left -> Does (.expect mark) text .done left
  | expect_missing {mark text : Text} :
      ¬ StartsWith Text.sameLetter mark text ->
        Does (.expect mark) text (.refused (.expectedSequence mark text)) text
  | skipWhitespace {text blank left : Text} {flag : Bool} :
      LongestRun Text.isWhitespace text blank left -> (flag = true ↔ blank ≠ []) ->
        Does .skipWhitespace text (.flag flag) left
  | word {text taken left : Text} :
      LongestRun Text.isAlphanumeric text taken left -> Does .word text (.text taken) left
  | name {text taken left : Text} :
      LongestRun Scan.isNameChar text taken left -> Does .name text (.text taken) left
  | tagName {text taken left : Text} :
      LongestRun Scan.isTagChar text taken left -> Does .tagName text (.text taken) left
  | key {text taken left : Text} :
      LongestRun Scan.isKeyChar text taken left -> Does .key text (.text taken) left
  | remainder {text : Text} : Does .remainder text (.text text) []
  | upToMark {mark text taken left : Text} :
      CutAt (StartsWith (· == ·) mark) text taken left ->
        Does (.upToMark mark) text (.text taken) left
  | upToMarkIgnoringCase {mark text taken left : Text} :
      CutAt (StartsWith Text.sameLetter mark) text taken left ->
        Does (.upToMarkIgnoringCase mark) text (.text taken) left
  | upToAny {marks : List Text} {text taken left : Text} :
      CutAt (fun rest => exists mark, mark ∈ marks ∧ StartsWith Text.sameLetter mark rest)
          text taken left ->
        Does (.upToAny marks) text (.text taken) left
  | past {mark text middle left : Text} {answer : Answer} :
      Does (.upToMark mark) text answer middle -> Drops (· == ·) mark middle left ->
        Does (.past mark) text answer left
  | pastIgnoringCase {mark text middle left : Text} {answer : Answer} :
      Does (.upToMarkIgnoringCase mark) text answer middle ->
        Drops Text.sameLetter mark middle left ->
        Does (.pastIgnoringCase mark) text answer left
  | balanced {opening closing : Char} {text inside left consumed : Text} :
      GroupCut closing text inside left consumed ->
        Does (.balanced opening closing) text (.text inside) left

theorem nextIs_iff_firstIs {test : Char -> Bool} {holds : Char -> Prop}
    (htest : forall c, test c = true ↔ holds c) (text : Text) :
    Scan.nextIs test text = true ↔ FirstIs holds text := by
  cases text with
  | nil =>
      refine ⟨fun h => (Bool.false_ne_true h).elim, ?_⟩
      rintro ⟨c, left, hnil, _⟩
      cases hnil
  | cons c text =>
      constructor
      · exact fun h => ⟨c, text, rfl, (htest c).mp h⟩
      · rintro ⟨d, left, hcons, hd⟩
        cases hcons
        exact (htest c).mpr hd

theorem does_scan (operation : Operation) (text : Text) :
    Does operation text (operation.scan text).1 (operation.scan text).2 := by
  cases operation with
  | isEmpty => exact .isEmpty List.isEmpty_iff
  | remaining => exact .remaining
  | rest => exact .rest
  | peek => exact .peek
  | peekNext => exact .peekNext
  | startsWith mark => exact .startsWith (startsWith_iff mark text)
  | startsWithExactly mark => exact .startsWithExactly (isPrefixOf_iff mark text)
  | startsWithAny marks => exact .startsWithAny (startsWithAny_iff marks text)
  | nextIsOneOf choices =>
      exact .nextIsOneOf (nextIs_iff_firstIs (fun _ => List.contains_iff_mem) text)
  | nextIsWhitespace => exact .nextIsWhitespace (nextIs_iff_firstIs (fun _ => Iff.rfl) text)
  | nextIsWord => exact .nextIsWord (nextIs_iff_firstIs (fun _ => Iff.rfl) text)
  | next =>
      cases text with
      | nil => exact .next_end
      | cons c text => exact .next
  | advance => exact .advance
  | pushFront front => exact .pushFront
  | skip mark =>
      show Does (.skip mark) text (.flag (Scan.skip mark text).1) (Scan.skip mark text).2
      by_cases hstarts : StartsWith Text.sameLetter mark text
      · rw [skip_of_startsWith hstarts]
        exact .skip hstarts.takesOff
      · rw [skip_of_not_startsWith hstarts]
        exact .skip_missing hstarts
  | expect mark =>
      rw [Operation.scan, Scan.expect]
      by_cases hstarts : StartsWith Text.sameLetter mark text
      · rw [if_pos ((startsWith_iff mark text).mpr hstarts)]
        exact .expect hstarts.takesOff
      · rw [if_neg (fun h => hstarts ((startsWith_iff mark text).mp h))]
        exact .expect_missing hstarts
  | skipWhitespace =>
      refine .skipWhitespace (longestRun Text.isWhitespace text) ?_
      rw [← List.length_pos_iff]
      exact (pos_length_run Text.isWhitespace text).symm
  | word => exact .word (longestRun _ text)
  | name => exact .name (longestRun _ text)
  | tagName => exact .tagName (longestRun _ text)
  | key => exact .key (longestRun _ text)
  | remainder => exact .remainder
  | upToMark mark => exact .upToMark (cutAt_upToMark mark text)
  | upToMarkIgnoringCase mark => exact .upToMarkIgnoringCase (cutAt_upToMarkIgnoringCase mark text)
  | upToAny marks => exact .upToAny (cutAt_upToAny marks text)
  | past mark =>
      rcases cutPast_past mark text with ⟨middle, hcut, hdrops⟩
      exact .past (.upToMark hcut) hdrops
  | pastIgnoringCase mark =>
      rcases cutPast_pastIgnoringCase mark text with ⟨middle, hcut, hdrops⟩
      exact .pastIgnoringCase (.upToMarkIgnoringCase hcut) hdrops
  | balanced opening closing =>
      rcases groupCut_balanced opening closing text with ⟨consumed, hcut⟩
      exact .balanced hcut

/-- A run of operations on a cursor: every cursor of it is within its buffer, and every operation
accounts for the text that was left before it. -/
inductive Runs : Cursor -> List Operation -> List Answer -> Cursor -> Prop
  | done {cursor : Cursor} : cursor.IsWithin -> Runs cursor [] [] cursor
  | step {cursor after last : Cursor} {operation : Operation} {answer : Answer}
      {operations : List Operation} {answers : List Answer} :
      cursor.IsWithin -> cursor.perform operation = some (answer, after) ->
        Does operation cursor.rest answer after.rest -> Runs after operations answers last ->
        Runs cursor (operation :: operations) (answer :: answers) last

section Runs

variable {cursor : Cursor}

theorem perform_does (h : cursor.IsWithin) (operation : Operation) :
    exists answer after, cursor.perform operation = some (answer, after) ∧ after.IsWithin ∧
      Does operation cursor.rest answer after.rest := by
  rcases perform_yields ⟨h, rfl⟩ operation with
    ⟨⟨answer, after⟩, hperform, hanswer, hwithin, hrest⟩
  refine ⟨answer, after, hperform, hwithin, ?_⟩
  have hdoes := does_scan operation cursor.rest
  rwa [← hanswer, ← hrest] at hdoes

theorem performAll_runs (h : cursor.IsWithin) (operations : List Operation) :
    exists answers last, cursor.performAll operations = some (answers, last) ∧
      Runs cursor operations answers last := by
  induction operations generalizing cursor with
  | nil => exact ⟨[], cursor, rfl, .done h⟩
  | cons operation operations ih =>
      rcases perform_does h operation with ⟨answer, after, hperform, hwithin, hdoes⟩
      rcases ih hwithin with ⟨answers, last, hall, hruns⟩
      refine ⟨answer :: answers, last, ?_, .step h hperform hdoes hruns⟩
      simp only [performAll, hperform, hall, Option.map_some]

end Runs

/-- Whatever the text and the operations, none of them fails, the cursor stays within its buffer,
and every operation accounts for the text that was left. -/
theorem operations_account (input : Text) (operations : List Operation) :
    exists answers last, (ofText input).performAll operations = some (answers, last) ∧
      Runs (ofText input) operations answers last ∧
      forall mark,
        (last.perform (.past mark)).map Prod.fst = (last.perform (.upToMark mark)).map Prod.fst ∧
        (last.perform (.pastIgnoringCase mark)).map Prod.fst =
          (last.perform (.upToMarkIgnoringCase mark)).map Prod.fst := by
  have hwithin : (ofText input).IsWithin := Nat.zero_le input.length
  rcases performAll_runs hwithin operations with ⟨answers, last, hall, hruns⟩
  refine ⟨answers, last, hall, hruns, fun mark => ⟨?_, ?_⟩⟩
  · simp only [perform, past, Option.map_map]
    rfl
  · simp only [perform, pastIgnoringCase, Option.map_map]
    rfl

end Cursor
end Selector
end TreeQuery
