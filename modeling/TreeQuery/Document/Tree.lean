import TreeQuery.Document.Attributes
import TreeQuery.Warning

/-!
# Trees

A tree describes an element with everything below it, or a text, apart from any document.  Its
names are kept as they are given.
-/

namespace TreeQuery

inductive Tree where
  | text (payload : Text)
  | element (tag : Text) (attributes : Dictionary) (children : List Tree)
deriving Repr, Inhabited

namespace Tree

mutual
def equal : Tree -> Tree -> Bool
  | .text a, .text b => a == b
  | .element tag attributes children, .element tag' attributes' children' =>
      tag == tag' && attributes == attributes' && equalAll children children'
  | _, _ => false

def equalAll : List Tree -> List Tree -> Bool
  | [], [] => true
  | tree :: rest, tree' :: rest' => equal tree tree' && equalAll rest rest'
  | _, _ => false
end

/-! # Attributes that replace others -/

def replacing (seen : List Text) : List (Text × Text) -> List Text
  | [] => []
  | (name, _) :: rest =>
      let folded := Text.foldAscii name
      if seen.contains folded then name :: replacing seen rest
      else replacing (folded :: seen) rest

def replacement (tag name : Text) : Warning :=
  ⟨"DOM", "attribute `" ++ name ++ "` on <" ++ tag ++ "> replaces an earlier one"⟩

mutual
def warnings : Tree -> List Warning
  | .text _ => []
  | .element tag attributes children =>
      (replacing [] attributes.entries).map (replacement tag) ++ warningsOfAll children

def warningsOfAll : List Tree -> List Warning
  | [] => []
  | tree :: rest => warnings tree ++ warningsOfAll rest
end

end Tree
end TreeQuery
