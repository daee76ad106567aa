import TreeQuery.Pattern.Charset
import TreeQuery.Pattern.Utf8

/-!
# Drafts of automata

A draft is an automaton of which only the size is kept.  Its states are numbered in the order in
which they are drawn.  A set of characters is drawn as an automaton on bytes whose states are
shared where a table of the latest states still knows an equal one.
-/

namespace TreeQuery
namespace Pattern

/-- How many states have been drawn, how many bytes their lists of arcs take, and whether the last
part ends in a fork, which takes one more arc when something is attached to it. -/
structure Draft where
  states : Nat
  arcBytes : Nat
  endsInFork : Bool
deriving Repr, DecidableEq

namespace Draft

def size (draft : Draft) : Nat := 32 * draft.states + draft.arcBytes

def add (draft : Draft) (count : Nat) : Draft :=
  { draft with states := draft.states + count, endsInFork := false }

def fork (draft : Draft) (arcs : Nat) : Draft :=
  { draft with arcBytes := draft.arcBytes + 4 * arcs }

def addSwitch (draft : Draft) (arcs : Nat) : Draft :=
  { draft with
    states := draft.states + 1, arcBytes := draft.arcBytes + 8 * arcs, endsInFork := false }

def attach (draft : Draft) : Draft :=
  if draft.endsInFork then draft.fork 1 else draft

end Draft

/-! # The latest states -/

/-- A row of slots of which few are taken.  The tree leads to a slot by halving its index. -/
inductive Slots (α : Type) where
  | vacant
  | node (value : Option α) (odd even : Slots α)

namespace Slots

def get? : Slots α -> Nat -> Option α
  | .vacant, _ => none
  | .node value odd even, index =>
      if index = 0 then value
      else if index % 2 = 1 then odd.get? (index / 2)
      else even.get? (index / 2 - 1)

def fill (value : α) : Nat -> Slots α -> Nat -> Slots α
  | 0, slots, _ => slots
  | depth + 1, .vacant, index =>
      if index = 0 then .node (some value) .vacant .vacant
      else if index % 2 = 1 then .node none (fill value depth .vacant (index / 2)) .vacant
      else .node none .vacant (fill value depth .vacant (index / 2 - 1))
  | depth + 1, .node old odd even, index =>
      if index = 0 then .node (some value) odd even
      else if index % 2 = 1 then .node old (fill value depth odd (index / 2)) even
      else .node old odd (fill value depth even (index / 2 - 1))

end Slots

/-- A table with a fixed number of slots.  A key belongs into the slot that its digest names, where
it takes the place of the key that was there before. -/
structure Latest (κ : Type) where
  capacity : Nat
  slots : Slots (κ × Nat)

namespace Latest

def empty (capacity : Nat) : Latest κ := ⟨capacity, .vacant⟩

def slot (table : Latest κ) (numbers : List Nat) : Nat :=
  let digest := numbers.foldl
    (fun (digest : UInt64) number => (digest ^^^ number.toUInt64) * 1099511628211)
    14695981039346656037
  digest.toNat % table.capacity

def find? [BEq κ] (table : Latest κ) (slot : Nat) (key : κ) : Option Nat :=
  match table.slots.get? slot with
  | some (known, state) => if known == key then some state else none
  | none => none

def enter (table : Latest κ) (slot : Nat) (key : κ) (state : Nat) : Latest κ :=
  { table with slots := table.slots.fill (key, state) (slot + 1) slot }

end Latest

/-! # Sets read forwards

The rows of a set come in ascending order.  The states along the latest row stay open; a state is
drawn when a row leaves it, unless an equal one is among the latest.
-/

structure Arc where
  bytes : Span
  state : Nat
deriving Repr, DecidableEq

/-- A state that is still open: its finished arcs, and the bytes of the arc that is not. -/
structure OpenState where
  arcs : List Arc
  current : Option Span
deriving Repr, DecidableEq

def OpenState.finish (opened : OpenState) (state : Nat) : List Arc :=
  match opened.current with
  | none => opened.arcs
  | some bytes => opened.arcs ++ [⟨bytes, state⟩]

structure Sharing (κ : Type) where
  draft : Draft
  latest : Latest κ

namespace Sharing

def stateFor (sharing : Sharing (List Arc)) (arcs : List Arc) : Nat × Sharing (List Arc) :=
  let ⟨draft, latest⟩ := sharing
  let slot := latest.slot (arcs.flatMap (fun arc => [arc.bytes.first, arc.bytes.last, arc.state]))
  match latest.find? slot arcs with
  | some state => (state, ⟨draft, latest⟩)
  | none => (draft.states, ⟨draft.addSwitch arcs.length, latest.enter slot arcs draft.states⟩)

def close (goal : Nat) : List OpenState -> Sharing (List Arc) -> Nat × Sharing (List Arc)
  | [], sharing => (goal, sharing)
  | first :: rest, sharing =>
      let (next, sharing) := close goal rest sharing
      sharing.stateFor (first.finish next)

def follow (goal : Nat) : List OpenState -> List Span -> Sharing (List Arc) ->
    List OpenState × Sharing (List Arc)
  | first :: rest, bytes :: row, sharing =>
      if first.current = some bytes then
        let (rest, sharing) := follow goal rest row sharing
        (first :: rest, sharing)
      else
        let (next, sharing) := close goal rest sharing
        (⟨first.finish next, some bytes⟩ :: row.map (fun bytes => ⟨[], some bytes⟩), sharing)
  | opened, _, sharing => (opened, sharing)

end Sharing

def Draft.addForwards (draft : Draft) (rows : List (List Span)) : Draft :=
  let goal := draft.states
  let start : List OpenState × Sharing (List Arc) := ([⟨[], none⟩], ⟨draft.add 1, .empty 10000⟩)
  let (opened, sharing) := rows.foldl
    (fun (opened, sharing) row => Sharing.follow goal opened row sharing) start
  (Sharing.close goal opened sharing).2.draft

/-! # Sets read backwards -/

def Sharing.leadBack : List Span -> Nat -> Sharing (Nat × Span) -> Sharing (Nat × Span)
  | [], _, sharing => sharing
  | bytes :: row, goal, ⟨draft, latest⟩ =>
      let slot := latest.slot [goal, bytes.first, bytes.last]
      match latest.find? slot (goal, bytes) with
      | some state => leadBack row state ⟨draft, latest⟩
      | none =>
          leadBack row draft.states ⟨draft.add 1, latest.enter slot (goal, bytes) draft.states⟩

/-- Draw a set for reading backwards: a fork with one arc for each row. -/
def Draft.addBackwards (draft : Draft) (rows : List (List Span)) : Draft :=
  let goal := draft.states + 1
  let sharing : Sharing (Nat × Span) := ⟨(draft.add 2).fork rows.length, .empty 1000⟩
  (rows.foldl (fun sharing row => sharing.leadBack row goal) sharing).draft

/-- Draw a set.  Within ASCII it takes one state and its end. -/
def Draft.addSet (backwards : Bool) (set : Charset) (draft : Draft) : Draft :=
  if set.spans.all (·.last <= 0x7F) then (draft.add 1).addSwitch set.spans.length
  else
    let rows := set.spans.flatMap byteRows
    if backwards then draft.addBackwards rows else draft.addForwards rows

end Pattern
end TreeQuery
