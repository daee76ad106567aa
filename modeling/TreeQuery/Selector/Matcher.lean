import TreeQuery.Pattern.Basic
import TreeQuery.Text.Numeral

/-!
# Matchers

A matcher is what a selector means: a test on an element, given the element that the query starts
from.  Leaves look at the element alone, the other forms combine tests or look at elements that
are reached from it.
-/

namespace TreeQuery
namespace Selector

inductive IndexComparison where
  | less
  | greater
  | equal
deriving Repr, DecidableEq

namespace IndexComparison

def name : IndexComparison -> Text
  | .less => "lt"
  | .greater => "gt"
  | .equal => "eq"

def holds : IndexComparison -> Int -> Int -> Bool
  | .less, position, argument => position < argument
  | .greater, position, argument => argument < position
  | .equal, position, argument => position = argument

end IndexComparison

inductive ValueComparison where
  | equals
  | differs
  | startsWith
  | endsWith
  | contains
deriving Repr, DecidableEq

namespace ValueComparison

def mark : ValueComparison -> Text
  | .equals => "="
  | .differs => "!="
  | .startsWith => "^="
  | .endsWith => "$="
  | .contains => "*="

/-- Whether a value, absent or present, compares to the expected one in this way.  Only
`differs` holds of an absent value. -/
def holds : ValueComparison -> Option Text -> Text -> Bool
  | .equals, value, expected => value == some expected
  | .differs, value, expected => value != some expected
  | .startsWith, value, expected => value.any (fun value => expected.isPrefixOf value)
  | .endsWith, value, expected => value.any (fun value => expected.isSuffixOf value)
  | .contains, value, expected => value.any (fun value => Text.occursIn expected value)

end ValueComparison

inductive AttributeTest where
  | present (key : Text)
  | nameStartsWith (start : Text)
  | compare (comparison : ValueComparison) (key value : Text)
  | matchesPattern (key : Text) (pattern : Pattern)
deriving Repr

inductive Matcher where
  | tag (name : Text)
  | id (value : Text)
  | className (name : Text)
  | attribute (test : AttributeTest)
  | universal
  | index (comparison : IndexComparison) (argument : Int)
  | containsText (needle : Text)
  | matchesText (pattern : Pattern)
  | all (tests : List Matcher)
  | any (tests : List Matcher)
  | root
  | has (inner : Matcher)
  | not (inner : Matcher)
  | parent (inner : Matcher)
  | ancestor (inner : Matcher)
  | previous (inner : Matcher)
  | before (inner : Matcher)
deriving Repr, Inhabited

/-! # Rendering -/

def AttributeTest.render : AttributeTest -> Text
  | .present key => "[" ++ key ++ "]"
  | .nameStartsWith start => "[^" ++ start ++ "]"
  | .compare comparison key value => "[" ++ key ++ comparison.mark ++ value ++ "]"
  | .matchesPattern key pattern => "[" ++ key ++ "~=" ++ pattern.source ++ "]"

mutual
/-- The text shown for a matcher: conjunctions with blanks, disjunctions with commas, and tests
on other elements as pseudo-classes. -/
def Matcher.render : Matcher -> Text
  | .tag name => name
  | .id value => "#" ++ value
  | .className name => "." ++ name
  | .attribute test => test.render
  | .universal => "*"
  | .index comparison argument =>
      ":" ++ comparison.name ++ "(" ++ Text.ofInt argument ++ ")"
  | .containsText needle => ":contains(" ++ needle ++ ")"
  | .matchesText pattern => ":matches(" ++ pattern.source ++ ")"
  | .all tests => Text.join " " (Matcher.renderAll tests)
  | .any tests => Text.join ", " (Matcher.renderAll tests)
  | .root => ":root"
  | .has inner => ":has(" ++ inner.render ++ ")"
  | .not inner => ":not(" ++ inner.render ++ ")"
  | .parent inner => ":parent(" ++ inner.render ++ ")"
  | .ancestor inner => ":ancestor(" ++ inner.render ++ ")"
  | .previous inner => ":prev(" ++ inner.render ++ ")"
  | .before inner => ":prev*(" ++ inner.render ++ ")"

def Matcher.renderAll : List Matcher -> List Text
  | [] => []
  | test :: rest => test.render :: Matcher.renderAll rest
end

namespace Matcher

/-- A disjunction of tests given one by one.  More than one are taken together as its only
branch. -/
def ofAny (tests : List Matcher) : Matcher :=
  if tests.length > 1 then .any [.all tests] else .any tests

def ofAll (tests : List Matcher) : Matcher :=
  .all tests

end Matcher
end Selector
end TreeQuery
