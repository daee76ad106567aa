import TreeQuery.Selector.Scan

/-!
# Cursors

A cursor is a place in a buffer of characters.  The text from the place on is what has not been
consumed, and consuming moves the place.  A piece of the buffer is cut out between two places,
which fails if they are out of range.
-/

namespace TreeQuery
namespace Selector

structure Cursor where
  buffer : Text
  position : Nat
deriving Repr, DecidableEq

namespace Cursor

def ofText (text : Text) : Cursor :=
  ⟨text, 0⟩

/-! # Looking ahead -/

def isEmpty (cursor : Cursor) : Bool :=
  decide (cursor.buffer.length ≤ cursor.position)

def remaining (cursor : Cursor) : Nat :=
  cursor.buffer.length - cursor.position

def rest (cursor : Cursor) : Text :=
  cursor.buffer.drop cursor.position

def peek (cursor : Cursor) : Char :=
  (cursor.buffer[cursor.position]?).getD Scan.endMark

def peekNext (cursor : Cursor) : Char :=
  (cursor.buffer[cursor.position + 1]?).getD Scan.endMark

def nextIs (test : Char -> Bool) (cursor : Cursor) : Bool :=
  !cursor.isEmpty && test cursor.peek

/-! # Moving -/

def moveBy (count : Nat) (cursor : Cursor) : Cursor :=
  { cursor with position := cursor.position + count }

def advance (cursor : Cursor) : Cursor :=
  if cursor.isEmpty then cursor else cursor.moveBy 1

def next (cursor : Cursor) : Char × Cursor :=
  (cursor.peek, cursor.advance)

def pushFront (text : Text) (cursor : Cursor) : Cursor :=
  ⟨text ++ cursor.rest, 0⟩

theorem remaining_moveBy_lt {cursor : Cursor} (h : ¬ cursor.isEmpty = true) :
    (cursor.moveBy 1).remaining < cursor.remaining := by
  have hplace : ¬ cursor.buffer.length ≤ cursor.position := fun hend => h (decide_eq_true hend)
  show cursor.buffer.length - (cursor.position + 1) < cursor.buffer.length - cursor.position
  omega

/-- The first place from here on where the test holds, or the end. -/
def seek (found : Cursor -> Bool) (cursor : Cursor) : Cursor :=
  if cursor.isEmpty then cursor
  else if found cursor then cursor
  else (cursor.moveBy 1).seek found
termination_by cursor.remaining
decreasing_by exact remaining_moveBy_lt ‹_›

def skip (mark : Text) (cursor : Cursor) : Bool × Cursor :=
  if Scan.startsWith mark cursor.rest then (true, cursor.moveBy mark.length) else (false, cursor)

def expect (mark : Text) (cursor : Cursor) : Except ParseError Cursor :=
  let (isThere, after) := cursor.skip mark
  if isThere then .ok after else .error (.expectedSequence mark cursor.rest)

def skipWhitespace (cursor : Cursor) : Bool × Cursor :=
  let after := cursor.seek (fun place => !place.nextIs Text.isWhitespace)
  (decide (cursor.position < after.position), after)

/-! # Cutting out -/

def slice? (cursor : Cursor) (start stop : Nat) : Option Text :=
  if start ≤ stop ∧ stop ≤ cursor.buffer.length then
    some ((cursor.buffer.take stop).drop start)
  else none

def takeTo (found : Cursor -> Bool) (cursor : Cursor) : Option (Text × Cursor) :=
  let stop := cursor.seek found
  (cursor.slice? cursor.position stop.position).map (fun taken => (taken, stop))

def takeCount (count : Nat) (cursor : Cursor) : Option (Text × Cursor) :=
  let stop := min (cursor.position + count) cursor.buffer.length
  (cursor.slice? cursor.position stop).map (fun taken => (taken, { cursor with position := stop }))

def run (test : Char -> Bool) (cursor : Cursor) : Option (Text × Cursor) :=
  cursor.takeTo (fun place => !test place.peek)

def remainder (cursor : Cursor) : Option (Text × Cursor) :=
  cursor.takeCount cursor.remaining

def windows (length : Nat) (text : Text) : List Text :=
  (List.range (text.length + 1 - length)).map (fun start => (text.drop start).take length)

/-- Take everything up to the first exact copy of the mark. -/
def upToMark (mark : Text) (cursor : Cursor) : Option (Text × Cursor) :=
  let rest := cursor.rest
  let count :=
    if mark.isEmpty then 0
    else ((windows mark.length rest).findIdx? (fun window => window == mark)).getD rest.length
  cursor.takeCount count

def upToMarkIgnoringCase (mark : Text) (cursor : Cursor) : Option (Text × Cursor) :=
  cursor.takeTo (fun place => Scan.startsWith mark place.rest)

def upToAny (marks : List Text) (cursor : Cursor) : Option (Text × Cursor) :=
  cursor.takeTo (fun place => Scan.startsWithAny marks place.rest)

/-- Take everything up to the first exact copy of the mark, and drop a copy in any letter case. -/
def past (mark : Text) (cursor : Cursor) : Option (Text × Cursor) :=
  (cursor.upToMark mark).map (fun (taken, place) => (taken, (place.skip mark).2))

def pastIgnoringCase (mark : Text) (cursor : Cursor) : Option (Text × Cursor) :=
  (cursor.upToMarkIgnoringCase mark).map (fun (taken, place) => (taken, (place.skip mark).2))

/-! # Groups -/

def balancedFrom (opening closing : Char) (depth : Nat) (last : Char) (cursor : Cursor) :
    Text × Cursor :=
  if cursor.isEmpty then ([], cursor)
  else
    let c := cursor.peek
    let depth := Scan.depthAfter opening closing depth last c
    let kept := if 0 < depth ∧ last ≠ Scan.endMark then [c] else []
    if depth = 0 then (kept, cursor.moveBy 1)
    else
      let (inside, place) := balancedFrom opening closing depth c (cursor.moveBy 1)
      (kept ++ inside, place)
termination_by cursor.remaining
decreasing_by exact remaining_moveBy_lt ‹_›

def balanced (opening closing : Char) (cursor : Cursor) : Text × Cursor :=
  cursor.balancedFrom opening closing 0 Scan.endMark

/-! # Operations -/

inductive Operation where
  | isEmpty
  | remaining
  | rest
  | peek
  | peekNext
  | startsWith (mark : Text)
  | startsWithExactly (mark : Text)
  | startsWithAny (marks : List Text)
  | nextIsOneOf (choices : Text)
  | nextIsWhitespace
  | nextIsWord
  | next
  | advance
  | pushFront (text : Text)
  | skip (mark : Text)
  | expect (mark : Text)
  | skipWhitespace
  | word
  | name
  | tagName
  | key
  | remainder
  | upToMark (mark : Text)
  | upToMarkIgnoringCase (mark : Text)
  | upToAny (marks : List Text)
  | past (mark : Text)
  | pastIgnoringCase (mark : Text)
  | balanced (opening closing : Char)
deriving Repr, DecidableEq

inductive Answer where
  | done
  | flag (value : Bool)
  | number (value : Nat)
  | character (value : Char)
  | text (value : Text)
  | refused (error : ParseError)
deriving Repr, DecidableEq

/-- The answer to an operation, and the cursor after it.  There is none if a piece of the buffer
was out of range. -/
def perform (cursor : Cursor) : Operation -> Option (Answer × Cursor)
  | .isEmpty => some (.flag cursor.isEmpty, cursor)
  | .remaining => some (.number cursor.remaining, cursor)
  | .rest => some (.text cursor.rest, cursor)
  | .peek => some (.character cursor.peek, cursor)
  | .peekNext => some (.character cursor.peekNext, cursor)
  | .startsWith mark => some (.flag (Scan.startsWith mark cursor.rest), cursor)
  | .startsWithExactly mark => some (.flag (mark.isPrefixOf cursor.rest), cursor)
  | .startsWithAny marks => some (.flag (Scan.startsWithAny marks cursor.rest), cursor)
  | .nextIsOneOf choices => some (.flag (cursor.nextIs choices.contains), cursor)
  | .nextIsWhitespace => some (.flag (cursor.nextIs Text.isWhitespace), cursor)
  | .nextIsWord => some (.flag (cursor.nextIs Text.isAlphanumeric), cursor)
  | .next => some (.character cursor.next.1, cursor.next.2)
  | .advance => some (.done, cursor.advance)
  | .pushFront text => some (.done, cursor.pushFront text)
  | .skip mark => some (.flag (cursor.skip mark).1, (cursor.skip mark).2)
  | .expect mark =>
      match cursor.expect mark with
      | .ok after => some (.done, after)
      | .error error => some (.refused error, cursor)
  | .skipWhitespace => some (.flag cursor.skipWhitespace.1, cursor.skipWhitespace.2)
  | .word => (cursor.run Text.isAlphanumeric).map taken
  | .name => (cursor.run Scan.isNameChar).map taken
  | .tagName => (cursor.run Scan.isTagChar).map taken
  | .key => (cursor.run Scan.isKeyChar).map taken
  | .remainder => cursor.remainder.map taken
  | .upToMark mark => (cursor.upToMark mark).map taken
  | .upToMarkIgnoringCase mark => (cursor.upToMarkIgnoringCase mark).map taken
  | .upToAny marks => (cursor.upToAny marks).map taken
  | .past mark => (cursor.past mark).map taken
  | .pastIgnoringCase mark => (cursor.pastIgnoringCase mark).map taken
  | .balanced opening closing => some (taken (cursor.balanced opening closing))
where
  taken (result : Text × Cursor) : Answer × Cursor := (.text result.1, result.2)

def performAll (cursor : Cursor) : List Operation -> Option (List Answer × Cursor)
  | [] => some ([], cursor)
  | operation :: operations =>
      match cursor.perform operation with
      | none => none
      | some (answer, after) =>
          (after.performAll operations).map (fun (answers, last) => (answer :: answers, last))

end Cursor
end Selector
end TreeQuery
