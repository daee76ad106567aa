import TreeQuery.Pattern.Basic
import TreeQuery.Pattern.Footprint
import TreeQuery.Pattern.Reader

/-!
# Searching

A search runs a program over all positions of a text at once.  A set of positions is a number
whose binary digits say which positions belong to it, so that one step of the program is a few
operations on numbers, and a repetition is complete when it adds no position.

This is an engine to run programs with.  It knows the properties of characters that the tables of
this library hold, and refuses an expression that names another one, such as a general category
or a script.
-/

namespace TreeQuery
namespace Pattern

/-- A set of positions in a text, one binary digit each. -/
abbrev Positions := Nat

namespace Positions

def upTo (count : Nat) : Positions := Nat.pow 2 count - 1

def ofTest {α : Type} (test : α -> Bool) : List α -> Positions
  | [] => 0
  | entry :: rest => (if test entry then 1 else 0) + 2 * ofTest test rest

end Positions

def surroundings (before : Option Char) : Text -> List (Option Char × Option Char)
  | [] => [(before, none)]
  | c :: rest => (before, some c) :: surroundings (some c) rest

def besideWord (unicode : Bool) (c : Option Char) : Bool :=
  c.any (fun c => if unicode then isWordChar c else isAsciiWordChar c)

def Anchor.holds : Anchor -> Option Char × Option Char -> Bool
  | .textStart, (before, _) => before.isNone
  | .textEnd, (_, after) => after.isNone
  | .lineStart false, (before, _) => before.isNone || before == some '\n'
  | .lineStart true, (before, after) =>
      before.isNone || before == some '\n' || (before == some '\r' && after != some '\n')
  | .lineEnd false, (_, after) => after.isNone || after == some '\n'
  | .lineEnd true, (before, after) =>
      after.isNone || after == some '\r' || (after == some '\n' && before != some '\r')
  | .boundary unicode, (before, after) => besideWord unicode before != besideWord unicode after
  | .notBoundary unicode, (before, after) => besideWord unicode before == besideWord unicode after
  | .wordStart unicode, (before, after) => !besideWord unicode before && besideWord unicode after
  | .wordEnd unicode, (before, after) => besideWord unicode before && !besideWord unicode after
  | .wordStartHalf unicode, (before, _) => !besideWord unicode before
  | .wordEndHalf unicode, (_, after) => !besideWord unicode after

namespace Program

mutual
/-- Replace the sets and anchors of a program by the positions of a text where they apply. -/
def place (text : Text) (around : List (Option Char × Option Char)) :
    Program Charset Anchor -> Program Positions Positions
  | .step set => .step (Positions.ofTest set.contains text)
  | .test anchor => .test (Positions.ofTest anchor.holds around)
  | .sequence parts => .sequence (placeAll text around parts)
  | .choice branches => .choice (placeAll text around branches)
  | .repeated least most isLazy body => .repeated least most isLazy (place text around body)
  | .group index body => .group index (place text around body)

def placeAll (text : Text) (around : List (Option Char × Option Char)) :
    List (Program Charset Anchor) -> List (Program Positions Positions)
  | [] => []
  | first :: rest => place text around first :: placeAll text around rest
end

def times (step : Positions -> Positions) : Nat -> Positions -> Positions
  | 0, current => current
  | count + 1, current =>
      let next := step current
      if next = current then current else times step count next

/-- Apply a step at most the given number of times, stopping early once it adds no position, and
collect the positions on the way. -/
def upToTimes (step : Positions -> Positions) : Nat -> Positions -> Positions -> Positions
  | 0, reached, _ => reached
  | count + 1, reached, current =>
      let next := step current
      if reached ||| next = reached then reached
      else upToTimes step count (reached ||| next) next

mutual
/-- The positions where a match that starts at one of the given positions can end. -/
def ends (count : Nat) : Program Positions Positions -> Positions -> Positions
  | .step set, starts => 2 * (starts &&& set)
  | .test anchor, starts => starts &&& anchor
  | .sequence parts, starts => endsOfAll count parts starts
  | .choice branches, starts => endsOfAny count branches starts
  | .repeated least most _ body, starts =>
      let reached := times (ends count body) least starts
      let more := match most with
        | none => count
        | some most => min count (most - least)
      upToTimes (ends count body) more reached reached
  | .group _ body, starts => ends count body starts

def endsOfAll (count : Nat) : List (Program Positions Positions) -> Positions -> Positions
  | [], starts => starts
  | part :: rest, starts => endsOfAll count rest (ends count part starts)

def endsOfAny (count : Nat) : List (Program Positions Positions) -> Positions -> Positions
  | [], _ => 0
  | branch :: rest, starts => ends count branch starts ||| endsOfAny count rest starts
end

def isMatch (program : Program Charset Anchor) (text : Text) : Bool :=
  let count := text.length + 1
  let placed := program.place text (surroundings none text)
  placed.ends count (Positions.upTo count) != 0

end Program

/-- The search for a regular expression.  Nothing is the answer if the expression is not well
formed, could match a part of a character, is too large, or names a property of characters that is
not known here. -/
def search? (source : Text) : Option (Text -> Bool) :=
  match read source with
  | none => none
  | some expression =>
      match expression.program? .initial with
      | none => none
      | some (program, _) => if program.layout.fits then some program.isMatch else none

instance : Engine := ⟨search?⟩

end Pattern
end TreeQuery
