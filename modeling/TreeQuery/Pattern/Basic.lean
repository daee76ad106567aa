import TreeQuery.Text.Basic

/-!
# Regular expressions

What a regular expression means is left to an engine, which is given from outside.  Selectors
only ask whether a text is a regular expression and whether it matches somewhere in a text.
-/

namespace TreeQuery

/-- A regular expression: its text, and the search for it. -/
structure Pattern where
  source : Text
  isMatch : Text -> Bool

namespace Pattern

instance : Repr Pattern := ⟨fun pattern => reprPrec pattern.source⟩

class Engine where
  /-- The search for a regular expression.  Nothing is the answer if the text is not one. -/
  search? : Text -> Option (Text -> Bool)

def compile? [Engine] (source : Text) : Option Pattern :=
  (Engine.search? source).map (fun isMatch => ⟨source, isMatch⟩)

end Pattern
end TreeQuery
