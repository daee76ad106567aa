import TreeQuery.Pattern.Program

/-!
# Layouts

The layout of a program is what is left of it once it is put into the form from which an automaton
is drawn: neighbouring literals are joined, single characters are literals, choices between sets
are sets, what all branches begin with stands in front of them, and a repetition that changes
nothing is gone.
-/

namespace TreeQuery
namespace Pattern

/-- A program in the form from which an automaton is drawn. -/
inductive Layout where
  | empty
  | literal (text : Text)
  | oneOf (set : Charset)
  | test (anchor : Anchor)
  | repeated (least : Nat) (most : Option Nat) (isLazy : Bool) (body : Layout)
  | group (index : Nat) (body : Layout)
  | sequence (parts : List Layout)
  | choice (branches : List Layout)
deriving Repr

namespace Layout

mutual
def same : Layout -> Layout -> Bool
  | .empty, .empty => true
  | .literal text, .literal text' => text == text'
  | .oneOf set, .oneOf set' => set == set'
  | .test anchor, .test anchor' => anchor == anchor'
  | .repeated least most isLazy body, .repeated least' most' isLazy' body' =>
      least == least' && most == most' && isLazy == isLazy' && same body body'
  | .group index body, .group index' body' => index == index' && same body body'
  | .sequence parts, .sequence parts' => sameAll parts parts'
  | .choice branches, .choice branches' => sameAll branches branches'
  | _, _ => false

def sameAll : List Layout -> List Layout -> Bool
  | [], [] => true
  | first :: rest, first' :: rest' => same first first' && sameAll rest rest'
  | _, _ => false
end

/-! # Lengths -/

mutual
def isEmptyOnly : Layout -> Bool
  | .empty => true
  | .literal _ => false
  | .oneOf _ => false
  | .test _ => true
  | .repeated _ most _ body => most == some 0 || isEmptyOnly body
  | .group _ body => isEmptyOnly body
  | .sequence parts => areEmptyOnly parts
  | .choice branches => areEmptyOnly branches

def areEmptyOnly : List Layout -> Bool
  | [] => true
  | first :: rest => isEmptyOnly first && areEmptyOnly rest
end

mutual
/-- The least number of characters that the layout can match, if every part of it can match. -/
def shortest? : Layout -> Option Nat
  | .empty => some 0
  | .literal text => some text.length
  | .oneOf set => if set.spans.isEmpty then none else some 1
  | .test _ => some 0
  | .repeated least _ _ body => (shortest? body).map (least * ·)
  | .group _ body => shortest? body
  | .sequence parts => (shortestOfEach? parts).map List.sum
  | .choice branches => (shortestOfEach? branches).bind List.min?

def shortestOfEach? : List Layout -> Option (List Nat)
  | [] => some []
  | first :: rest =>
      match shortest? first, shortestOfEach? rest with
      | some length, some lengths => some (length :: lengths)
      | _, _ => none
end

/-! # Making layouts -/

def ofSet (set : Charset) : Layout :=
  match set.spans with
  | [⟨first, last⟩] => if first = last then .literal [Char.ofNat first] else .oneOf set
  | _ => .oneOf set

def parts : Layout -> List Layout
  | .empty => []
  | .sequence parts => parts
  | layout => [layout]

def branches : Layout -> List Layout
  | .choice branches => branches
  | layout => [layout]

def joinLiteral : Layout -> List Layout -> List Layout
  | .literal text, .literal more :: rest => .literal (text ++ more) :: rest
  | part, rest => part :: rest

def inSequence (layouts : List Layout) : Layout :=
  match (layouts.flatMap parts).foldr joinLiteral [] with
  | [] => .empty
  | [part] => part
  | parts => .sequence parts

def character? : Layout -> Option Char
  | .literal [c] => some c
  | _ => none

def set? : Layout -> Option Charset
  | .oneOf set => some set
  | _ => none

def anyOf (layouts : List Layout) : Layout :=
  match layouts.flatMap branches with
  | [] => .oneOf .empty
  | [branch] => branch
  | branches =>
      match branches.mapM character? with
      | some characters =>
          ofSet (Charset.empty.enterAll (characters.map (fun c => ⟨c.toNat, c.toNat⟩)))
      | none =>
          match branches.mapM set? with
          | some sets => ofSet (sets.foldl Charset.union .empty)
          | none => .choice branches

def sequence? : Layout -> Option (List Layout)
  | .sequence parts => some parts
  | _ => none

def sharedStart : List Layout -> List Layout -> List Layout
  | first :: rest, first' :: rest' => if same first first' then first :: sharedStart rest rest' else []
  | _, _ => []

/-- A choice between layouts, with what all of them begin with in front. -/
def inChoice (layouts : List Layout) : Layout :=
  match anyOf layouts with
  | .choice branches =>
      match branches.mapM sequence? with
      | some (first :: rest) =>
          let start := rest.foldl sharedStart first
          if start.isEmpty then .choice branches
          else
            let endings := (first :: rest).map (fun parts => inSequence (parts.drop start.length))
            inSequence (start ++ [anyOf endings])
      | _ => .choice branches
  | layout => layout

/-- A repetition.  Repeating the empty text more than once changes nothing. -/
def inRepetition (least : Nat) (most : Option Nat) (isLazy : Bool) (body : Layout) : Layout :=
  let least := if body.isEmptyOnly then min least 1 else least
  let most := if body.isEmptyOnly then some (min (most.getD 1) 1) else most
  if most = some 0 then .empty
  else if least = 1 && most = some 1 then body
  else .repeated least most isLazy body

end Layout

mutual
def Program.layout : Program Charset Anchor -> Layout
  | .step set => .ofSet set
  | .test anchor => .test anchor
  | .sequence parts => .inSequence (Program.layouts parts)
  | .choice branches => .inChoice (Program.layouts branches)
  | .repeated least most isLazy body => .inRepetition least most isLazy body.layout
  | .group index body => .group index body.layout

def Program.layouts : List (Program Charset Anchor) -> List Layout
  | [] => []
  | first :: rest => first.layout :: Program.layouts rest
end

/-! # Edges -/

mutual
def Layout.startsWith (anchor : Anchor) : Layout -> Bool
  | .test other => other == anchor
  | .repeated least _ _ body => 0 < least && body.startsWith anchor
  | .group _ body => body.startsWith anchor
  | .sequence parts => Layout.firstStartsWith anchor parts
  | .choice branches => Layout.eachStartsWith anchor branches
  | _ => false

def Layout.firstStartsWith (anchor : Anchor) : List Layout -> Bool
  | [] => false
  | part :: rest =>
      part.startsWith anchor || (part.isEmptyOnly && Layout.firstStartsWith anchor rest)

def Layout.eachStartsWith (anchor : Anchor) : List Layout -> Bool
  | [] => true
  | branch :: rest => branch.startsWith anchor && Layout.eachStartsWith anchor rest
end

mutual
def Layout.endsWith (anchor : Anchor) : Layout -> Bool
  | .test other => other == anchor
  | .repeated least _ _ body => 0 < least && body.endsWith anchor
  | .group _ body => body.endsWith anchor
  | .sequence parts => Layout.lastEndsWith anchor parts
  | .choice branches => Layout.eachEndsWith anchor branches
  | _ => false

def Layout.lastEndsWith (anchor : Anchor) : List Layout -> Bool
  | [] => false
  | part :: rest =>
      (part.endsWith anchor && Layout.areEmptyOnly rest) || Layout.lastEndsWith anchor rest

def Layout.eachEndsWith (anchor : Anchor) : List Layout -> Bool
  | [] => true
  | branch :: rest => branch.endsWith anchor && Layout.eachEndsWith anchor rest
end

end Pattern
end TreeQuery
