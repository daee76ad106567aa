import TreeQuery.Proofs.Selector.Cuts
import TreeQuery.Selector.Cursor

/-!
# Cursors in their buffer

A cursor that moves from place to place does what the scan of the text does.  The cursor stays
within its buffer, so every piece that it cuts out is there, and the piece and what is left are
those of the scan.
-/

namespace TreeQuery
namespace Selector
namespace Cursor

/-! # Places -/

def IsWithin (cursor : Cursor) : Prop :=
  cursor.position ≤ cursor.buffer.length

/-- The cursor is within its buffer, and the text is what is left of it. -/
def StandsAt (cursor : Cursor) (text : Text) : Prop :=
  cursor.IsWithin ∧ cursor.rest = text

variable {cursor : Cursor} {taken left : Text}

theorem length_rest (cursor : Cursor) : cursor.rest.length = cursor.remaining :=
  List.length_drop

theorem isEmpty_eq (cursor : Cursor) : cursor.isEmpty = decide (cursor.rest = []) :=
  decide_eq_decide.mpr List.drop_eq_nil_iff.symm

theorem rest_moveBy (count : Nat) (cursor : Cursor) :
    (cursor.moveBy count).rest = cursor.rest.drop count :=
  List.drop_drop.symm

theorem peek_eq (cursor : Cursor) : cursor.peek = Scan.peek cursor.rest := by
  rw [Scan.peek, rest, List.headD_eq_head?_getD, List.head?_drop, peek]

theorem peekNext_eq (cursor : Cursor) : cursor.peekNext = Scan.peekNext cursor.rest := by
  rw [Scan.peekNext, rest, List.tail_drop, List.headD_eq_head?_getD, List.head?_drop, peekNext]

theorem nextIs_eq (test : Char -> Bool) (cursor : Cursor) :
    cursor.nextIs test = Scan.nextIs test cursor.rest := by
  rw [nextIs, isEmpty_eq, peek_eq]
  cases cursor.rest with
  | nil => rfl
  | cons c rest => rfl

theorem position_le (h : cursor.IsWithin) (hrest : cursor.rest = taken ++ left) :
    cursor.position + taken.length ≤ cursor.buffer.length := by
  have hlength := congrArg List.length hrest
  rw [length_rest, List.length_append, remaining] at hlength
  unfold IsWithin at h
  omega

theorem standsAt_moveBy (h : cursor.IsWithin) (hrest : cursor.rest = taken ++ left) :
    (cursor.moveBy taken.length).StandsAt left :=
  ⟨position_le h hrest, by rw [rest_moveBy, hrest, List.drop_left]⟩

theorem slice?_eq (h : cursor.IsWithin) (hrest : cursor.rest = taken ++ left) :
    cursor.slice? cursor.position (cursor.position + taken.length) = some taken := by
  have hpiece :
      (cursor.buffer.take (cursor.position + taken.length)).drop cursor.position = taken := by
    rw [List.drop_take, Nat.add_sub_cancel_left]
    show cursor.rest.take taken.length = taken
    rw [hrest, List.take_left]
  rw [slice?, if_pos ⟨Nat.le_add_right _ _, position_le h hrest⟩, hpiece]

/-! # Loops -/

theorem moveBy_moveBy (count more : Nat) (cursor : Cursor) :
    (cursor.moveBy count).moveBy more = cursor.moveBy (count + more) := by
  simp only [moveBy, Nat.add_assoc]

theorem exists_rest (h : ¬ cursor.isEmpty = true) :
    exists c, cursor.rest = c :: (cursor.moveBy 1).rest := by
  rw [isEmpty_eq, decide_eq_true_eq] at h
  rcases List.exists_cons_of_ne_nil h with ⟨c, rest, hrest⟩
  exact ⟨c, by rw [rest_moveBy, hrest, List.drop_one, List.tail_cons]⟩

theorem seek_eq {found : Cursor -> Bool} {holds : Text -> Bool}
    (hfound : forall place, place.rest ≠ [] -> found place = holds place.rest) (cursor : Cursor) :
    cursor.seek found = cursor.moveBy (Scan.upTo holds cursor.rest).1.length := by
  induction cursor using seek.induct found with
  | case1 cursor hempty =>
      rw [isEmpty_eq, decide_eq_true_eq] at hempty
      rw [seek, isEmpty_eq, hempty]
      rfl
  | case2 cursor hempty hhere =>
      rcases exists_rest hempty with ⟨c, hrest⟩
      have hholds := hfound cursor (by rw [hrest]; exact List.cons_ne_nil _ _)
      rw [hhere, hrest] at hholds
      rw [seek, if_neg hempty, if_pos hhere, hrest, Scan.upTo, if_pos hholds.symm]
      rfl
  | case3 cursor hempty hhere ih =>
      rcases exists_rest hempty with ⟨c, hrest⟩
      have hholds := hfound cursor (by rw [hrest]; exact List.cons_ne_nil _ _)
      rw [Bool.eq_false_iff.mpr hhere, hrest] at hholds
      rw [seek, if_neg hempty, if_neg hhere, ih, hrest, Scan.upTo,
        if_neg (Bool.eq_false_iff.mp hholds.symm), moveBy_moveBy, Nat.add_comm]
      rfl

/-! # Pieces -/

/-- The part is the one that the scan takes, and the cursor stands at what the scan leaves. -/
def Agrees {Part : Type} (result : Part × Cursor) (scanned : Part × Text) : Prop :=
  result.1 = scanned.1 ∧ result.2.StandsAt scanned.2

def Yields {Part : Type} (outcome : Option (Part × Cursor)) (scanned : Part × Text) : Prop :=
  exists result, outcome = some result ∧ Agrees result scanned

variable {text : Text}

theorem Yields.map {Part Other : Type} {outcome : Option (Part × Cursor)} {scanned : Part × Text}
    {other : Other × Text} (h : Yields outcome scanned)
    (change : Part × Cursor -> Other × Cursor)
    (hchange : forall result, Agrees result scanned -> Agrees (change result) other) :
    Yields (outcome.map change) other := by
  rcases h with ⟨result, rfl, hresult⟩
  exact ⟨change result, rfl, hchange result hresult⟩

theorem takeTo_yields (h : cursor.StandsAt text) {found : Cursor -> Bool} {holds : Text -> Bool}
    (hfound : forall place, place.rest ≠ [] -> found place = holds place.rest) :
    Yields (cursor.takeTo found) (Scan.upTo holds text) := by
  rcases h with ⟨hwithin, rfl⟩
  have hwhole := (cutAt_upTo holds cursor.rest).whole
  refine ⟨(_, _), ?_, rfl, standsAt_moveBy hwithin hwhole⟩
  rw [takeTo, seek_eq hfound]
  show (cursor.slice? cursor.position (cursor.position + _)).map _ = _
  rw [slice?_eq hwithin hwhole]
  rfl

theorem takeCount_yields (h : cursor.StandsAt text) (hwhole : text = taken ++ left) :
    Yields (cursor.takeCount taken.length) (taken, left) := by
  rcases h with ⟨hwithin, rfl⟩
  refine ⟨(_, _), ?_, rfl, standsAt_moveBy hwithin hwhole⟩
  rw [takeCount, Nat.min_eq_left (position_le hwithin hwhole), slice?_eq hwithin hwhole]
  rfl

theorem run_cons (test : Char -> Bool) (c : Char) (text : Text) :
    Scan.run test (c :: text) =
      if test c then (c :: (Scan.run test text).1, (Scan.run test text).2) else ([], c :: text) := by
  by_cases hc : test c = true
  · simp [Scan.run, hc]
  · simp [Scan.run, hc]

theorem upTo_not_nextIs (test : Char -> Bool) (text : Text) :
    Scan.upTo (fun rest => !Scan.nextIs test rest) text = Scan.run test text := by
  induction text with
  | nil => rfl
  | cons c text ih =>
      have hnext : Scan.nextIs test (c :: text) = test c := rfl
      rw [Scan.upTo, ih, hnext, run_cons]
      cases test c <;> rfl

theorem run_yields (h : cursor.StandsAt text) (test : Char -> Bool) :
    Yields (cursor.run test) (Scan.run test text) := by
  rw [← upTo_not_nextIs]
  refine takeTo_yields h (fun place hplace => ?_)
  rw [← nextIs_eq, nextIs, isEmpty_eq, decide_eq_false hplace]
  rfl

theorem remainder_yields (h : cursor.StandsAt text) : Yields cursor.remainder (text, []) := by
  rw [remainder, ← length_rest, h.2]
  exact takeCount_yields h (List.append_nil text).symm

theorem windows_short {length : Nat} (h : text.length < length) : windows length text = [] := by
  rw [windows, Nat.sub_eq_zero_of_le h]
  rfl

theorem windows_cons {length : Nat} {c : Char} (h : length ≤ text.length + 1) :
    windows length (c :: text) = (c :: text).take length :: windows length text := by
  have hcount : (c :: text).length + 1 - length = (text.length + 1 - length) + 1 :=
    Nat.succ_sub h
  rw [windows, hcount, List.range_succ_eq_map, List.map_cons, List.map_map]
  rfl

theorem take_beq (mark text : Text) : (text.take mark.length == mark) = mark.isPrefixOf text := by
  rw [Bool.eq_iff_iff, beq_iff_eq, List.isPrefixOf_iff_prefix, List.prefix_iff_eq_take, eq_comm]

/-- The first window that is the mark is where the scan for the mark ends. -/
theorem findIdx?_windows {mark : Text} (hmark : mark ≠ []) (text : Text) :
    ((windows mark.length text).findIdx? (fun window => window == mark)).getD text.length =
      (Scan.upToMark mark text).1.length := by
  unfold Scan.upToMark
  induction text with
  | nil =>
      rw [windows_short (List.length_pos_of_ne_nil hmark)]
      rfl
  | cons c text ih =>
      rw [Scan.upTo]
      by_cases hfit : mark.length ≤ text.length + 1
      · rw [windows_cons hfit, List.findIdx?_cons, take_beq]
        split
        · rfl
        · dsimp only [List.length_cons]
          rw [← ih]
          cases (windows mark.length text).findIdx? (fun window => window == mark) <;> rfl
      · have hshort : (c :: text).length < mark.length := Nat.lt_of_not_le hfit
        rw [windows_short (Nat.lt_of_succ_lt hshort)] at ih
        rw [windows_short hshort, if_neg]
        · exact congrArg Nat.succ ih
        · intro hstarts
          exact absurd (List.isPrefixOf_iff_prefix.mp hstarts).length_le (Nat.not_le_of_lt hshort)

theorem upToMark_yields (h : cursor.StandsAt text) (mark : Text) :
    Yields (cursor.upToMark mark) (Scan.upToMark mark text) := by
  have hcuts := takeCount_yields h (cutAt_upToMark mark text).whole
  rw [upToMark, h.2]
  split
  · rename_i hmark
    rw [List.isEmpty_iff] at hmark
    subst hmark
    cases text <;> exact hcuts
  · rename_i hmark
    rw [findIdx?_windows (fun hnil => hmark (List.isEmpty_iff.mpr hnil))]
    exact hcuts

theorem upToMarkIgnoringCase_yields (h : cursor.StandsAt text) (mark : Text) :
    Yields (cursor.upToMarkIgnoringCase mark) (Scan.upToMarkIgnoringCase mark text) :=
  takeTo_yields h (fun _ _ => rfl)

theorem upToAny_yields (h : cursor.StandsAt text) (marks : List Text) :
    Yields (cursor.upToAny marks) (Scan.upToAny marks text) :=
  takeTo_yields h (fun _ _ => rfl)

/-! # Marks -/

theorem skip_agrees (h : cursor.StandsAt text) (mark : Text) :
    Agrees (cursor.skip mark) (Scan.skip mark text) := by
  rcases h with ⟨hwithin, rfl⟩
  rw [skip, Scan.skip]
  split
  · rename_i hstarts
    rcases (startsWith_iff mark cursor.rest).mp hstarts with ⟨left, copy, hrest, hcopy⟩
    have hafter := standsAt_moveBy hwithin hrest
    rw [hcopy.length_eq] at hafter
    exact ⟨rfl, hafter.1, rest_moveBy mark.length cursor⟩
  · exact ⟨rfl, hwithin, rfl⟩

theorem expect_cases (h : cursor.StandsAt text) (mark : Text) :
    (exists after left, cursor.expect mark = .ok after ∧ Scan.expect mark text = .ok left ∧
      after.StandsAt left) ∨
    exists error, cursor.expect mark = .error error ∧ Scan.expect mark text = .error error := by
  have hskip := skip_agrees h mark
  rw [Scan.skip] at hskip
  rw [expect, Scan.expect]
  split at hskip
  · rename_i hstarts
    rw [if_pos hstarts]
    refine Or.inl ⟨_, _, ?_, rfl, hskip.2⟩
    dsimp only
    rw [if_pos hskip.1]
  · rename_i hstarts
    rw [if_neg hstarts]
    refine Or.inr ⟨_, ?_, rfl⟩
    dsimp only
    rw [hskip.1, h.2, if_neg Bool.false_ne_true]

theorem past_yields (h : cursor.StandsAt text) (mark : Text) :
    Yields (cursor.past mark) (Scan.past mark text) :=
  (upToMark_yields h mark).map _
    (fun _ hcut => ⟨hcut.1, (skip_agrees hcut.2 mark).2⟩)

theorem pastIgnoringCase_yields (h : cursor.StandsAt text) (mark : Text) :
    Yields (cursor.pastIgnoringCase mark) (Scan.pastIgnoringCase mark text) :=
  (upToMarkIgnoringCase_yields h mark).map _
    (fun _ hcut => ⟨hcut.1, (skip_agrees hcut.2 mark).2⟩)

/-! # Single steps -/

theorem standsAt_moveBy_one {c : Char} (h : cursor.StandsAt (c :: text)) :
    (cursor.moveBy 1).StandsAt text :=
  standsAt_moveBy h.1 (show cursor.rest = [c] ++ text from h.2)

theorem advance_standsAt (h : cursor.StandsAt text) : cursor.advance.StandsAt text.tail := by
  rw [advance, isEmpty_eq, h.2]
  cases text with
  | nil => exact h
  | cons c text => exact standsAt_moveBy_one h

theorem pushFront_standsAt (front : Text) (h : cursor.StandsAt text) :
    (cursor.pushFront front).StandsAt (front ++ text) :=
  ⟨Nat.zero_le _, by rw [← h.2]; rfl⟩

theorem pos_length_run (test : Char -> Bool) (text : Text) :
    0 < (Scan.run test text).1.length ↔ Scan.nextIs test text = true := by
  cases text with
  | nil => exact ⟨fun h => absurd h (Nat.lt_irrefl 0), fun h => (Bool.false_ne_true h).elim⟩
  | cons c text =>
      have hnext : Scan.nextIs test (c :: text) = test c := rfl
      rw [hnext, run_cons]
      cases test c <;> simp

theorem skipWhitespace_agrees (h : cursor.StandsAt text) :
    Agrees cursor.skipWhitespace (Scan.skipWhitespace text) := by
  have hplace : cursor.seek (fun place => !place.nextIs Text.isWhitespace) =
      cursor.moveBy (Scan.run Text.isWhitespace text).1.length := by
    rw [← upTo_not_nextIs, ← h.2]
    exact seek_eq (fun place _ => by rw [nextIs_eq]) cursor
  have hmoved :
      cursor.position < cursor.position + (Scan.run Text.isWhitespace text).1.length ↔
        0 < (Scan.run Text.isWhitespace text).1.length :=
    Nat.lt_add_right_iff_pos
  rw [skipWhitespace, hplace]
  constructor
  · show decide (cursor.position < cursor.position + _) = Scan.nextIs Text.isWhitespace text
    rw [Bool.eq_iff_iff, decide_eq_true_iff, hmoved, pos_length_run]
  · exact standsAt_moveBy h.1 (h.2.trans (longestRun Text.isWhitespace text).whole)

theorem balancedFrom_agrees (h : cursor.StandsAt text) (opening closing : Char) (depth : Nat)
    (last : Char) :
    Agrees (cursor.balancedFrom opening closing depth last)
      (Scan.balancedFrom opening closing depth last text) := by
  induction text generalizing cursor depth last with
  | nil =>
      rw [balancedFrom, isEmpty_eq, h.2]
      exact ⟨rfl, h⟩
  | cons c text ih =>
      have hempty : ¬ cursor.isEmpty = true := by
        rw [isEmpty_eq, h.2]
        exact Bool.false_ne_true
      have hpeek : cursor.peek = c := by
        rw [peek_eq, h.2]
        rfl
      have hmoved := standsAt_moveBy_one h
      rw [balancedFrom, if_neg hempty, hpeek, Scan.balancedFrom]
      dsimp only
      split
      · rename_i hend
        rw [hend, if_neg (fun hopen => Nat.lt_irrefl 0 hopen.1)]
        exact ⟨rfl, hmoved⟩
      · rename_i hopen
        have hinside := ih hmoved (Scan.depthAfter opening closing depth last c) c
        refine ⟨?_, hinside.2⟩
        dsimp only
        rw [hinside.1]
        by_cases hlast : last = Scan.endMark
        · rw [if_pos hlast, if_neg (fun hkept => hkept.2 hlast), List.nil_append]
        · rw [if_neg hlast, if_pos ⟨Nat.pos_of_ne_zero hopen, hlast⟩, List.singleton_append]

/-! # Operations -/

/-- The answer to an operation at the start of the text, and the text that is left. -/
def Operation.scan : Operation -> Text -> Answer × Text
  | .isEmpty, text => (.flag text.isEmpty, text)
  | .remaining, text => (.number text.length, text)
  | .rest, text => (.text text, text)
  | .peek, text => (.character (Scan.peek text), text)
  | .peekNext, text => (.character (Scan.peekNext text), text)
  | .startsWith mark, text => (.flag (Scan.startsWith mark text), text)
  | .startsWithExactly mark, text => (.flag (mark.isPrefixOf text), text)
  | .startsWithAny marks, text => (.flag (Scan.startsWithAny marks text), text)
  | .nextIsOneOf choices, text => (.flag (Scan.nextIs choices.contains text), text)
  | .nextIsWhitespace, text => (.flag (Scan.nextIs Text.isWhitespace text), text)
  | .nextIsWord, text => (.flag (Scan.nextIs Text.isAlphanumeric text), text)
  | .next, text => (Scan.next text).map .character id
  | .advance, text => (.done, text.tail)
  | .pushFront front, text => (.done, front ++ text)
  | .skip mark, text => (Scan.skip mark text).map .flag id
  | .expect mark, text =>
      match Scan.expect mark text with
      | .ok left => (.done, left)
      | .error error => (.refused error, text)
  | .skipWhitespace, text => (Scan.skipWhitespace text).map .flag id
  | .word, text => (Scan.run Text.isAlphanumeric text).map .text id
  | .name, text => (Scan.run Scan.isNameChar text).map .text id
  | .tagName, text => (Scan.run Scan.isTagChar text).map .text id
  | .key, text => (Scan.run Scan.isKeyChar text).map .text id
  | .remainder, text => (.text text, [])
  | .upToMark mark, text => (Scan.upToMark mark text).map .text id
  | .upToMarkIgnoringCase mark, text => (Scan.upToMarkIgnoringCase mark text).map .text id
  | .upToAny marks, text => (Scan.upToAny marks text).map .text id
  | .past mark, text => (Scan.past mark text).map .text id
  | .pastIgnoringCase mark, text => (Scan.pastIgnoringCase mark text).map .text id
  | .balanced opening closing, text => (Scan.balanced opening closing text).map .text id

theorem yields_some {Part : Type} {part other : Part} {after : Cursor} (hpart : part = other)
    (hafter : after.StandsAt left) : Yields (some (part, after)) (other, left) :=
  ⟨_, rfl, hpart, hafter⟩

theorem Agrees.answer {Part : Type} {result : Part × Cursor} {scanned : Part × Text}
    (h : Agrees result scanned) (answer : Part -> Answer) :
    Yields (some (answer result.1, result.2)) (scanned.map answer id) :=
  yields_some (congrArg answer h.1) h.2

theorem Yields.piece {outcome : Option (Text × Cursor)} {scanned : Text × Text}
    (h : Yields outcome scanned) : Yields (outcome.map perform.taken) (scanned.map .text id) :=
  h.map _ (fun _ hpiece => ⟨congrArg Answer.text hpiece.1, hpiece.2⟩)

theorem perform_yields (h : cursor.StandsAt text) (operation : Operation) :
    Yields (cursor.perform operation) (operation.scan text) := by
  cases operation with
  | isEmpty => exact yields_some (by rw [isEmpty_eq, h.2]; cases text <;> rfl) h
  | remaining => exact yields_some (by rw [← length_rest, h.2]) h
  | rest => exact yields_some (congrArg _ h.2) h
  | peek => exact yields_some (by rw [peek_eq, h.2]) h
  | peekNext => exact yields_some (by rw [peekNext_eq, h.2]) h
  | startsWith mark => exact yields_some (by rw [h.2]) h
  | startsWithExactly mark => exact yields_some (by rw [h.2]) h
  | startsWithAny marks => exact yields_some (by rw [h.2]) h
  | nextIsOneOf choices => exact yields_some (by rw [nextIs_eq, h.2]) h
  | nextIsWhitespace => exact yields_some (by rw [nextIs_eq, h.2]) h
  | nextIsWord => exact yields_some (by rw [nextIs_eq, h.2]) h
  | next => exact yields_some (by rw [next, peek_eq, h.2]) (advance_standsAt h)
  | advance => exact yields_some rfl (advance_standsAt h)
  | pushFront front => exact yields_some rfl (pushFront_standsAt front h)
  | skip mark => exact (skip_agrees h mark).answer .flag
  | expect mark =>
      rcases expect_cases h mark with
        ⟨after, left, hexpect, hscan, hafter⟩ | ⟨error, hexpect, hscan⟩
      · rw [perform, hexpect, Operation.scan, hscan]
        exact yields_some rfl hafter
      · rw [perform, hexpect, Operation.scan, hscan]
        exact yields_some rfl h
  | skipWhitespace => exact (skipWhitespace_agrees h).answer .flag
  | word => exact (run_yields h _).piece
  | name => exact (run_yields h _).piece
  | tagName => exact (run_yields h _).piece
  | key => exact (run_yields h _).piece
  | remainder => exact (remainder_yields h).piece
  | upToMark mark => exact (upToMark_yields h mark).piece
  | upToMarkIgnoringCase mark => exact (upToMarkIgnoringCase_yields h mark).piece
  | upToAny marks => exact (upToAny_yields h marks).piece
  | past mark => exact (past_yields h mark).piece
  | pastIgnoringCase mark => exact (pastIgnoringCase_yields h mark).piece
  | balanced opening closing =>
      exact (balancedFrom_agrees h opening closing 0 Scan.endMark).answer .text

end Cursor
end Selector
end TreeQuery
