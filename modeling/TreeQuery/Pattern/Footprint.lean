import TreeQuery.Pattern.Draft
import TreeQuery.Pattern.Layout

/-!
# The memory of patterns

A pattern is drawn as two automata, one that reads forwards and one that reads backwards, and is
refused if either takes too much memory.  A repetition is drawn once for each time that it counts;
drawing stops early once the draft is too large.
-/

namespace TreeQuery
namespace Pattern

def sizeLimit : Nat := 10485760

namespace Draft

def isFull (draft : Draft) : Bool := sizeLimit < draft.size

def addMore (part : Draft -> Draft) : Nat -> Draft -> Draft
  | 0, draft => draft
  | count + 1, draft => if draft.isFull then draft else addMore part count (part draft.attach)

def addCopies (part : Draft -> Draft) : Nat -> Draft -> Draft
  | 0, draft => draft.add 1
  | count + 1, draft => addMore part count (part draft)

def addOptional (part : Draft -> Draft) : Nat -> Draft -> Draft
  | 0, draft => draft
  | count + 1, draft =>
      if draft.isFull then draft
      else addOptional part count (part (draft.attach.add 1 |>.fork 2))

def loopBack (draft : Draft) : Draft :=
  { (draft.attach.add 1).fork 1 with endsInFork := true }

def addRepeated (part : Draft -> Draft) (neverEmpty : Bool) (least : Nat) (most : Option Nat)
    (draft : Draft) : Draft :=
  match least, most with
  | 0, some 1 => (part (draft.add 1)).attach.add 1 |>.fork 2
  | 0, none =>
      if neverEmpty then { (part (draft.add 1)).attach.fork 1 with endsInFork := true }
      else (part draft).attach.add 3 |>.fork 4
  | least, none => (addCopies part least draft).loopBack
  | least, some most =>
      let first := addCopies part least draft
      if most <= least then first
      else
        let exit := { first.add 1 with endsInFork := first.endsInFork }
        { (addOptional part (most - least) exit).attach with endsInFork := false }

/-! # Choices between literals

Literals share states for what they begin with, as far as no literal ends there.
-/

def cutAtEmpty : List (List Nat) -> List (List (List Nat))
  | [] => [[]]
  | [] :: rest => [] :: cutAtEmpty rest
  | string :: rest =>
      match cutAtEmpty rest with
      | [] => [[string]]
      | first :: others => (string :: first) :: others

def tailAfter? (byte : Nat) : List Nat -> Option (List Nat)
  | [] => none
  | first :: rest => if first = byte then some rest else none

/-- Draw the strings that can follow a state, in the order in which they were written.  Strings that
end at the state before any goes on from it count once. -/
def addStrings : Nat -> List (List Nat) -> Draft -> Draft
  | 0, _, draft => draft
  | length + 1, strings, draft =>
      let longer := strings.dropWhile List.isEmpty
      let strings := if longer.length < strings.length then [] :: longer else longer
      let chunks := cutAtEmpty strings
      let draft := chunks.foldl (fun draft chunk =>
        let bytes := (chunk.filterMap List.head?).eraseDups
        let draft := bytes.foldl (fun draft byte =>
          let tails := chunk.filterMap (tailAfter? byte)
          if tails.all List.isEmpty then draft else addStrings length tails draft) draft
        match bytes with
        | [] => draft
        | [_] => (draft.add 1).fork 1
        | _ => (draft.addSwitch bytes.length).fork 1) draft
      (draft.add 1).fork (chunks.length - 1)

def addLiterals (backwards : Bool) (literals : List Text) (draft : Draft) : Draft :=
  let strings := literals.map (fun text => if backwards then (utf8 text).reverse else utf8 text)
  addStrings ((strings.map List.length).foldl max 0) strings (draft.add 1)

end Draft

/-! # Layouts -/

namespace Layout

def text? : Layout -> Option Text
  | .literal text => some text
  | _ => none

def isNeverEmpty (layout : Layout) : Bool :=
  match layout.shortest? with
  | some length => 0 < length
  | none => false

mutual
/-- Draw a layout.  Groups are marked only for reading forwards. -/
def draw (backwards : Bool) : Layout -> Draft -> Draft
  | .empty, draft => draft.add 1
  | .literal text, draft => draft.add (utf8 text).length
  | .oneOf set, draft => draft.addSet backwards set
  | .test _, draft => draft.add 1
  | .repeated least most _ body, draft =>
      draft.addRepeated (draw backwards body) body.isNeverEmpty least most
  | .group _ body, draft =>
      if backwards then draw backwards body draft
      else (draw backwards body (draft.add 1)).attach.add 1
  | .sequence parts, draft => drawAll backwards parts draft
  | .choice branches, draft =>
      match branches.mapM text? with
      | some literals => draft.addLiterals backwards literals
      | none => drawEach backwards 0 branches draft

def drawAll (backwards : Bool) : List Layout -> Draft -> Draft
  | [], draft => draft
  | [part], draft => draw backwards part draft
  | part :: rest, draft =>
      if backwards then draw backwards part (drawAll backwards rest draft).attach
      else drawAll backwards rest (draw backwards part draft).attach

/-- Draw branches.  The fork before them and the state behind them are drawn after the second. -/
def drawEach (backwards : Bool) (drawn : Nat) : List Layout -> Draft -> Draft
  | [], draft => draft
  | branch :: rest, draft =>
      let draft := (draw backwards branch draft).attach.fork 1
      drawEach backwards (drawn + 1) rest (draft.add (if drawn = 1 then 2 else 0))
end

/-- The automaton of a layout, with the loop that lets a match start anywhere, unless every match
starts at the edge of the text. -/
def automaton (backwards : Bool) (layout : Layout) : Draft :=
  let isFixed := if backwards then layout.endsWith .textEnd else layout.startsWith .textStart
  let start : Draft := ⟨0, 0, false⟩
  let start := if isFixed then start.add 1 else ((start.add 2).addSwitch 1).fork 2
  if backwards then (draw true layout start).attach.add 1
  else (draw false (.group 0 layout) start).add 1

def fits (layout : Layout) : Bool :=
  !(layout.automaton false).isFull && !(layout.automaton true).isFull

end Layout
end Pattern
end TreeQuery
