import TreeQuery.Document.Walk
import TreeQuery.Selector.Matcher

/-!
# Evaluating matchers

A matcher is evaluated at a candidate, for a query that starts at a root.  Nothing but an element
matches.  The root has no parent, ancestor or preceding sibling within its query, while walks
that start below it may go on above it.
-/

namespace TreeQuery
namespace Selector

/-- Values of attributes are compared trimmed and in lower case. -/
def normalized (value : Text) : Text :=
  Text.lower (Text.trim value)

def AttributeTest.holds (test : AttributeTest) (element : Element) : Bool :=
  match test with
  | .present key => element.attributes.contains key
  | .nameStartsWith start => element.attributes.names.any (fun name => start.isPrefixOf name)
  | .compare comparison key value =>
      comparison.holds ((element.attributes.get? key).map normalized) value
  | .matchesPattern key pattern => (element.attributes.get? key).any pattern.isMatch

/-- Whether a position compares to an argument.  Only positions that fit 32 bits do. -/
def IndexComparison.holdsAt (comparison : IndexComparison) (position : Option Nat)
    (argument : Int) : Bool :=
  position.any (fun position =>
    Text.fitsInt32 (Int.ofNat position) && comparison.holds (Int.ofNat position) argument)

namespace Matcher

mutual
/-- Whether the candidate matches, for a query that starts at the root. -/
def accepts (doc : Document) (root : NodeId) : Matcher -> NodeId -> Bool
  | .tag name, candidate => (doc.element? candidate).any (fun element => element.tag == name)
  | .id value, candidate => (doc.element? candidate).any (fun element => element.id? == some value)
  | .className name, candidate => (doc.element? candidate).any (fun element => element.hasClass name)
  | .attribute test, candidate => (doc.element? candidate).any test.holds
  | .universal, candidate => doc.isElement candidate
  | .index comparison argument, candidate =>
      doc.isElement candidate && comparison.holdsAt (doc.indexInParent? candidate) argument
  | .containsText needle, candidate =>
      doc.isElement candidate && Text.occursIn needle (Text.lower (doc.text candidate))
  | .matchesText pattern, candidate =>
      doc.isElement candidate && pattern.isMatch (doc.text candidate)
  | .all tests, candidate => doc.isElement candidate && acceptsAll doc root tests candidate
  | .any tests, candidate => doc.isElement candidate && acceptsAny doc root tests candidate
  | .root, candidate => doc.isElement candidate && candidate == root
  | .has inner, candidate =>
      doc.isElement candidate && (doc.descendants candidate).any (inner.accepts doc root)
  | .not inner, candidate => doc.isElement candidate && !inner.accepts doc root candidate
  | .parent inner, candidate =>
      doc.isElement candidate && candidate != root &&
        (doc.parent? candidate).any (inner.accepts doc root)
  | .ancestor inner, candidate =>
      doc.isElement candidate && candidate != root &&
        (doc.ancestors candidate).any (inner.accepts doc root)
  | .previous inner, candidate =>
      doc.isElement candidate && candidate != root &&
        ((doc.precedingSiblings candidate).find? doc.isElement).any (inner.accepts doc root)
  | .before inner, candidate =>
      doc.isElement candidate && candidate != root &&
        (doc.precedingSiblings candidate).any (inner.accepts doc root)

def acceptsAll (doc : Document) (root : NodeId) : List Matcher -> NodeId -> Bool
  | [], _ => true
  | test :: rest, candidate =>
      test.accepts doc root candidate && acceptsAll doc root rest candidate

def acceptsAny (doc : Document) (root : NodeId) : List Matcher -> NodeId -> Bool
  | [], _ => false
  | test :: rest, candidate =>
      test.accepts doc root candidate || acceptsAny doc root rest candidate
end

end Matcher
end Selector
end TreeQuery
