import TreeQuery.Text.Numeral

/-!
# Why a selector is not accepted

Each way in which reading a selector can fail, with the selector and the place where it failed.
-/

namespace TreeQuery
namespace Selector

inductive ParseError where
  | unexpectedToken (query remainder : Text)
  | expectedSequence (expected remainder : Text)
  | invalidIndex (query argument : Text)
  | emptyArgument (pseudo query remainder : Text)
  | nestingTooDeep (limit : Nat) (query remainder : Text)
  | emptyName (kind query remainder : Text)
  | emptyAttributeValue (key operator query : Text)
  | invalidRegex (pattern : Text)
deriving Repr, DecidableEq

def ParseError.message : ParseError -> Text
  | .unexpectedToken query remainder =>
      "could not parse query \"" ++ query ++ "\": unexpected token at \"" ++ remainder ++ "\""
  | .expectedSequence expected remainder =>
      "expected \"" ++ expected ++ "\" at \"" ++ remainder ++ "\""
  | .invalidIndex query argument =>
      "index must be numeric, found \"" ++ argument ++ "\" in \"" ++ query ++ "\""
  | .emptyArgument pseudo query remainder =>
      pseudo ++ "(...) must not be empty in \"" ++ query ++ "\" at \"" ++ remainder ++ "\""
  | .nestingTooDeep limit query remainder =>
      "selector nests deeper than " ++ Text.ofNat limit ++ " levels in \"" ++ query ++
        "\" at \"" ++ remainder ++ "\""
  | .emptyName kind query remainder =>
      kind ++ " must not be empty in \"" ++ query ++ "\" at \"" ++ remainder ++ "\""
  | .emptyAttributeValue key operator query =>
      "attribute [" ++ key ++ operator ++ "] needs a value in \"" ++ query ++ "\""
  | .invalidRegex pattern => "invalid regular expression \"" ++ pattern ++ "\""

end Selector
end TreeQuery
