import TreeQuery.Text.Basic

/-!
# Syntax of patterns

The syntax tree of a regular expression as written, before flags are applied: literals,
character classes with set operations, assertions, groups and repetitions.
-/

namespace TreeQuery
namespace Pattern

/-- A literal character.  A character given by exactly two hexadecimal digits stands for a byte
where Unicode mode is off. -/
structure Literal where
  char : Char
  isByte : Bool
deriving Repr, DecidableEq

inductive Flag where
  | ignoreCase
  | multiLine
  | dotAll
  | swapGreed
  | unicode
  | crlf
  | verbose
deriving Repr, DecidableEq

abbrev Settings := List (Flag × Bool)

inductive Shorthand where
  | digit
  | space
  | word
deriving Repr, DecidableEq

inductive PosixName where
  | alnum
  | alpha
  | ascii
  | blank
  | cntrl
  | digit
  | graph
  | lower
  | print
  | punct
  | space
  | upper
  | word
  | xdigit
deriving Repr, DecidableEq

inductive SetOperation where
  | intersection
  | difference
  | symmetricDifference
deriving Repr, DecidableEq

inductive ClassExpression where
  | empty
  | literal (literal : Literal)
  | range (first last : Literal)
  | posix (negated : Bool) (name : PosixName)
  | shorthand (negated : Bool) (name : Shorthand)
  | property (negated : Bool) (name : Text)
  | bracketed (negated : Bool) (inner : ClassExpression)
  | union (items : List ClassExpression)
  | operation (kind : SetOperation) (left right : ClassExpression)
deriving Repr

inductive Assertion where
  | lineStart
  | lineEnd
  | textStart
  | textEnd
  | wordBoundary
  | notWordBoundary
  | wordStart
  | wordEnd
  | wordStartHalf
  | wordEndHalf
deriving Repr, DecidableEq

/-- A pattern as written.  Groups that capture are numbered in the order of their opening
parentheses. -/
inductive Expression where
  | empty
  | settings (settings : Settings)
  | literal (literal : Literal)
  | dot
  | assertion (assertion : Assertion)
  | shorthand (negated : Bool) (name : Shorthand)
  | property (negated : Bool) (name : Text)
  | bracketed (negated : Bool) (inner : ClassExpression)
  | repetition (least : Nat) (most : Option Nat) (isLazy : Bool) (inner : Expression)
  | group (index : Option Nat) (settings : Settings) (inner : Expression)
  | alternation (branches : List Expression)
  | concatenation (parts : List Expression)
deriving Repr

/-! # Depth -/

mutual
def ClassExpression.depth : ClassExpression -> Nat
  | .bracketed _ inner => inner.depth + 1
  | .union items => ClassExpression.deepest items + 1
  | .operation _ left right => max left.depth right.depth + 1
  | _ => 0

def ClassExpression.deepest : List ClassExpression -> Nat
  | [] => 0
  | item :: rest => max item.depth (ClassExpression.deepest rest)
end

mutual
def Expression.depth : Expression -> Nat
  | .bracketed _ inner => inner.depth + 1
  | .repetition _ _ _ inner => inner.depth + 1
  | .group _ _ inner => inner.depth + 1
  | .alternation branches => Expression.deepest branches + 1
  | .concatenation parts => Expression.deepest parts + 1
  | _ => 0

def Expression.deepest : List Expression -> Nat
  | [] => 0
  | part :: rest => max part.depth (Expression.deepest rest)
end

end Pattern
end TreeQuery
