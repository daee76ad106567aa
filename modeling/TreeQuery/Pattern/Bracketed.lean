import TreeQuery.Pattern.Lexical

/-!
# Bracketed classes

A bracketed class holds literals, ranges, named classes and further bracketed classes, which may
be combined by `&&`, `--` and `~~` from left to right.  Classes that are still open are kept on a
stack together with the operations that wait for their right side.
-/

namespace TreeQuery
namespace Pattern

inductive ClassFrame where
  | opened (outer : List ClassExpression) (negated : Bool)
  | operation (kind : SetOperation) (left : ClassExpression)

def ClassExpression.ofItems : List ClassExpression -> ClassExpression
  | [] => .empty
  | [item] => item
  | items => .union items.reverse

def posix? (name : Text) : Option PosixName :=
  if name = "alnum" then some .alnum
  else if name = "alpha" then some .alpha
  else if name = "ascii" then some .ascii
  else if name = "blank" then some .blank
  else if name = "cntrl" then some .cntrl
  else if name = "digit" then some .digit
  else if name = "graph" then some .graph
  else if name = "lower" then some .lower
  else if name = "print" then some .print
  else if name = "punct" then some .punct
  else if name = "space" then some .space
  else if name = "upper" then some .upper
  else if name = "word" then some .word
  else if name = "xdigit" then some .xdigit
  else none

def readPosix (rest : Text) : Option (ClassExpression × Text) :=
  match rest with
  | ':' :: rest =>
      let (negated, rest) :=
        match rest with
        | '^' :: inner => (true, inner)
        | _ => (false, rest)
      match rest.dropWhile (· != ':') with
      | ':' :: ']' :: after =>
          (posix? (rest.takeWhile (· != ':'))).map (fun name => (.posix negated name, after))
      | _ => none
  | _ => none

def readLeadingMinus (verbose : Bool) : Nat -> List ClassExpression -> Text ->
    List ClassExpression × Text
  | 0, items, rest => (items, rest)
  | fuel + 1, items, rest =>
      match rest with
      | '-' :: rest =>
          readLeadingMinus verbose fuel (.literal ⟨'-', false⟩ :: items) (settle verbose rest)
      | _ => (items, rest)

/-- Open a class; the text starts after its bracket.  Minus signs at the start are literal, and
so is a closing bracket that comes first. -/
def openClass (verbose : Bool) (rest : Text) : Option (Bool × List ClassExpression × Text) :=
  let rest := settle verbose rest
  let (negated, rest) :=
    match rest with
    | '^' :: inner => (true, settle verbose inner)
    | _ => (false, rest)
  let (items, rest) := readLeadingMinus verbose (rest.length + 1) [] rest
  let (items, rest) :=
    match items, rest with
    | [], ']' :: inner => ([ClassExpression.literal ⟨']', false⟩], settle verbose inner)
    | _, _ => (items, rest)
  if rest.isEmpty then none else some (negated, items, rest)

def applyOperation (right : ClassExpression) : List ClassFrame ->
    ClassExpression × List ClassFrame
  | .operation kind left :: stack => (.operation kind left right, stack)
  | stack => (right, stack)

def readClassItem (verbose : Bool) : Text -> Option (Expression × Text)
  | [] => none
  | '\\' :: rest => readEscape verbose rest
  | c :: rest => some (Expression.literal ⟨c, false⟩, rest)

def Expression.asClassItem : Expression -> Option ClassExpression
  | .literal value => some (.literal value)
  | .shorthand negated name => some (.shorthand negated name)
  | .property negated name => some (.property negated name)
  | _ => none

/-- The next character that counts after the current one.  In verbose mode the search does not
look past the first visible character of a comment. -/
def peekSettled (verbose : Bool) (rest : Text) : Option Char :=
  if verbose then
    match rest.dropWhile Text.isWhitespace with
    | [] => rest.head?
    | '#' :: inner =>
        match inner.dropWhile Text.isWhitespace with
        | [] => rest.head?
        | c :: _ => some c
    | c :: _ => some c
  else rest.head?

def readRange (verbose : Bool) (rest : Text) : Option (ClassExpression × Text) :=
  match readClassItem verbose rest with
  | none => none
  | some (first, rest) =>
      match settle verbose rest with
      | [] => none
      | c :: after =>
          let next := peekSettled verbose after
          if c != '-' || next == some ']' || next == some '-' then
            first.asClassItem.map (fun item => (item, c :: after))
          else
            match settle verbose after with
            | [] => none
            | after =>
                match first, readClassItem verbose after with
                | .literal low, some (.literal high, rest) =>
                    if low.char <= high.char then some (.range low high, rest) else none
                | _, _ => none

def setOperation? : Text -> Option (SetOperation × Text)
  | '&' :: '&' :: rest => some (.intersection, rest)
  | '-' :: '-' :: rest => some (.difference, rest)
  | '~' :: '~' :: rest => some (.symmetricDifference, rest)
  | _ => none

/-- Read the inside of a class up to the bracket that closes the outermost one. -/
def readClass (verbose : Bool) : Nat -> List ClassFrame -> List ClassExpression -> Text ->
    Option (Expression × Text)
  | 0, _, _, _ => none
  | fuel + 1, stack, items, rest =>
      match settle verbose rest with
      | [] => none
      | '[' :: inner =>
          match readPosix inner with
          | some (item, after) => readClass verbose fuel stack (item :: items) after
          | none =>
              match openClass verbose inner with
              | none => none
              | some (negated, first, after) =>
                  readClass verbose fuel (.opened items negated :: stack) first after
      | ']' :: after =>
          let (inner, stack) := applyOperation (.ofItems items) stack
          match stack with
          | [.opened _ negated] => some (.bracketed negated inner, after)
          | .opened outer negated :: stack =>
              readClass verbose fuel stack (.bracketed negated inner :: outer) after
          | _ => none
      | rest =>
          match setOperation? rest with
          | some (kind, after) =>
              let (left, stack) := applyOperation (.ofItems items) stack
              readClass verbose fuel (.operation kind left :: stack) [] after
          | none =>
              match readRange verbose rest with
              | none => none
              | some (item, after) => readClass verbose fuel stack (item :: items) after

def readBracketed (verbose : Bool) (rest : Text) : Option (Expression × Text) :=
  match openClass verbose rest with
  | none => none
  | some (negated, first, after) =>
      readClass verbose (after.length + 1) [.opened [] negated] first after

end Pattern
end TreeQuery
