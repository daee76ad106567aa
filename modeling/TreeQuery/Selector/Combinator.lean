import TreeQuery.Selector.Matcher
import TreeQuery.Text.Letter

/-!
# Combinators

A combinator relates two parts of a selector.  The result tests the element that the right part
stands for.
-/

namespace TreeQuery
namespace Selector

inductive Combinator where
  | child
  | descendant
  | nextSibling
  | subsequentSibling
  | group
deriving Repr, DecidableEq

namespace Combinator

/-- The characters that stand for a combinator.  White space does where none of them is. -/
def marks : List Char := [',', '>', '+', '~']

def ofChar? : Char -> Option Combinator
  | '>' => some .child
  | '+' => some .nextSibling
  | '~' => some .subsequentSibling
  | ',' => some .group
  | c => if Text.isWhitespace c then some .descendant else none

def join : Combinator -> Matcher -> Matcher -> Matcher
  | .child, left, right => .all [right, .parent left]
  | .descendant, left, right => .all [right, .ancestor left]
  | .nextSibling, left, right => .all [right, .previous left]
  | .subsequentSibling, left, right => .all [right, .before left]
  | .group, left, right => .any [left, right]

/-- Relate the right part to the last branch of several.  Without a branch the right part is the
only one. -/
def joinLast (combinator : Combinator) (right : Matcher) : List Matcher -> List Matcher
  | [] => [right]
  | [last] => [combinator.join last right]
  | branch :: next :: rest => branch :: joinLast combinator right (next :: rest)

/-- Relate the right part to everything read before it.  A comma adds a branch, and every other
combinator binds to the last branch only. -/
def attach : Combinator -> Matcher -> Matcher -> Matcher
  | .group, .any branches, right => .any (branches ++ [right])
  | combinator, .any branches, right => .any (joinLast combinator right branches)
  | combinator, left, right => combinator.join left right

end Combinator

def joinAll (first : Matcher) (links : List (Combinator × Matcher)) : Matcher :=
  links.foldl (fun left (combinator, right) => combinator.join left right) first

end Selector
end TreeQuery
