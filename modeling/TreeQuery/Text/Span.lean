/-!
# Tables of code points

Character properties are tables of spans of code points, and simple case mappings are tables of
shifted spans.  Both are kept in ascending order, so that a lookup stops at the first entry that
lies beyond the code point.  Tables of spans can be put together, cut down and inverted.
-/

namespace TreeQuery

structure Span where
  first : Nat
  last : Nat
deriving Repr, DecidableEq

namespace Span

def covers : List Span -> Nat -> Bool
  | [], _ => false
  | span :: rest, code =>
      if code < span.first then false
      else if code <= span.last then true
      else covers rest code

def codes (span : Span) : List Nat :=
  List.range' span.first (span.last + 1 - span.first)

def overlap? (left right : Span) : Option Span :=
  let shared : Span := ⟨max left.first right.first, min left.last right.last⟩
  if shared.first <= shared.last then some shared else none

/-! # Changing a table

The entries of the tables below neither meet nor touch, and stay so.
-/

def lastCode : Nat := 0x10FFFF

def following (code : Nat) : Nat :=
  if code = 0xD7FF then 0xE000 else code + 1

def preceding (code : Nat) : Nat :=
  if code = 0xE000 then 0xD7FF else code - 1

/-- Add a span to a table; it grows together with the entries that it meets or touches. -/
def enter (span : Span) : List Span -> List Span
  | [] => [span]
  | entry :: rest =>
      if span.last + 1 < entry.first then span :: entry :: rest
      else if entry.last + 1 < span.first then entry :: enter span rest
      else enter ⟨min span.first entry.first, max span.last entry.last⟩ rest

def without (entry span : Span) : List Span :=
  if (overlap? entry span).isNone then [entry]
  else
    (if entry.first < span.first then [⟨entry.first, preceding span.first⟩] else []) ++
      (if span.last < entry.last then [⟨following span.last, entry.last⟩] else [])

/-- The spans between the entries of a table and after the last of them.  Two entries with
nothing but surrogates between them leave their two ends. -/
def gaps : List Span -> List Span
  | [] => []
  | [entry] => if entry.last < lastCode then [⟨following entry.last, lastCode⟩] else []
  | entry :: next :: rest =>
      let low := following entry.last
      let high := preceding next.first
      ⟨min low high, max low high⟩ :: gaps (next :: rest)

def inverted : List Span -> List Span
  | [] => [⟨0, lastCode⟩]
  | entry :: rest =>
      (if 0 < entry.first then [⟨0, preceding entry.first⟩] else []) ++ gaps (entry :: rest)

end Span

/-- Every `step`-th code point from `first` to `last`, moved by `offset`. -/
structure Shift where
  first : Nat
  last : Nat
  step : Nat
  offset : Int
deriving Repr, DecidableEq

namespace Shift

def moves (shift : Shift) (code : Nat) : Bool :=
  shift.first <= code && code <= shift.last && (code - shift.first) % shift.step == 0

def target (shift : Shift) (code : Nat) : Nat :=
  (code + shift.offset).toNat

/-- Move a code point by the entry of an ascending table that covers it; one that no entry covers
stays where it is. -/
def apply : List Shift -> Nat -> Nat
  | [], code => code
  | shift :: rest, code =>
      if code < shift.first then code
      else if shift.moves code then shift.target code
      else apply rest code

def sources : List Shift -> Nat -> List Nat
  | [], _ => []
  | shift :: rest, code =>
      let source := (code - shift.offset).toNat
      if shift.moves source && shift.target source == code then
        source :: sources rest code
      else
        sources rest code

end Shift
end TreeQuery
