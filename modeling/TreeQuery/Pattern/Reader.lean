import TreeQuery.Pattern.Bracketed

/-!
# Reading patterns

The reader goes through the text once and keeps the groups that are still open on a stack.
-/

namespace TreeQuery
namespace Pattern

/-- A group that is still open: what stood before it, its number if it captures, how it is written,
and the mode to return to when it closes. -/
structure GroupFrame where
  before : List Expression
  branches : List Expression
  index : Option Nat
  settings : Settings
  verbose : Bool

/-- The state between two elements: open groups, finished branches of the current group and parts
of its current branch, both most recent first, the names of groups so far and the number of groups
that capture. -/
structure ReaderState where
  groups : List GroupFrame
  branches : List Expression
  parts : List Expression
  verbose : Bool
  names : List Text
  captures : Nat

def Expression.ofParts : List Expression -> Expression
  | [] => .empty
  | [part] => part
  | parts => .concatenation parts.reverse

def Expression.ofBranches (branches parts : List Expression) : Expression :=
  match branches with
  | [] => .ofParts parts
  | _ => .alternation (Expression.ofParts parts :: branches).reverse

namespace ReaderState

def push (state : ReaderState) (part : Expression) : ReaderState :=
  { state with parts := part :: state.parts }

def openGroup (state : ReaderState) (index : Option Nat) (settings : Settings) : ReaderState :=
  { state with
    groups := ⟨state.parts, state.branches, index, settings, state.verbose⟩ :: state.groups
    branches := []
    parts := []
    verbose := (settings.value? .verbose).getD state.verbose }

def openCapture (state : ReaderState) : ReaderState :=
  { state with captures := state.captures + 1 }.openGroup (some (state.captures + 1)) []

def closeGroup (state : ReaderState) : Option ReaderState :=
  match state.groups with
  | [] => none
  | frame :: groups =>
      let inner := Expression.ofBranches state.branches state.parts
      some { state with
        groups := groups
        branches := frame.branches
        parts := .group frame.index frame.settings inner :: frame.before
        verbose := frame.verbose }

def repeatLast (state : ReaderState) (least : Nat) (most : Option Nat) (isLazy : Bool) :
    Option ReaderState :=
  match state.parts with
  | [] => none
  | .empty :: _ => none
  | .settings _ :: _ => none
  | part :: parts => some { state with parts := .repetition least most isLazy part :: parts }

def set (state : ReaderState) (settings : Settings) : ReaderState :=
  { state with
    parts := .settings settings :: state.parts
    verbose := (settings.value? .verbose).getD state.verbose }

end ReaderState

def isLookAround (rest : Text) : Bool :=
  (["?=", "?!", "?<=", "?<!"] : List Text).any (fun mark => mark.isPrefixOf rest)

def groupName? (rest : Text) : Option Text :=
  match rest with
  | '?' :: 'P' :: '<' :: rest => some rest
  | '?' :: '<' :: rest => some rest
  | _ => none

def readGroupStart (state : ReaderState) (rest : Text) : Option (ReaderState × Text) :=
  let rest := settle state.verbose rest
  if isLookAround rest then none
  else
    match groupName? rest with
    | some rest =>
        match readGroupName rest with
        | none => none
        | some (name, after) =>
            if state.names.contains name then none
            else some ({ state with names := name :: state.names }.openCapture, after)
    | none =>
        match rest with
        | '?' :: rest =>
            match readFlags [] false false rest with
            | some (settings, ':' :: after) => some (state.openGroup none settings, after)
            | some (settings, _ :: after) =>
                if settings.isEmpty then none else some (state.set settings, after)
            | _ => none
        | rest => some (state.openCapture, rest)

def readLazy : Text -> Bool × Text
  | '?' :: rest => (true, rest)
  | rest => (false, rest)

def readRepeated (state : ReaderState) (least : Nat) (most : Option Nat) (rest : Text) :
    Option (ReaderState × Text) :=
  let (isLazy, rest) := readLazy rest
  (state.repeatLast least most isLazy).map (fun state => (state, rest))

def readRepetition (state : ReaderState) (rest : Text) : Option (ReaderState × Text) :=
  let verbose := state.verbose
  let (low, rest) := readCount verbose (settle verbose rest)
  match low, rest with
  | some low, '\x7d' :: after => readRepeated state low (some low) (settle verbose after)
  | some low, ',' :: after =>
      match settle verbose after with
      | '\x7d' :: after => readRepeated state low none (settle verbose after)
      | after =>
          match readCount verbose after with
          | (some high, '\x7d' :: after) =>
              if low <= high then readRepeated state low (some high) (settle verbose after)
              else none
          | _ => none
  | _, _ => none

def readElement (state : ReaderState) (c : Char) (rest : Text) : Option (ReaderState × Text) :=
  match c with
  | '(' => readGroupStart state rest
  | ')' => state.closeGroup.map (fun state => (state, rest))
  | '|' =>
      some ({ state with branches := .ofParts state.parts :: state.branches, parts := [] }, rest)
  | '[' => (readBracketed state.verbose rest).map (fun (part, rest) => (state.push part, rest))
  | '?' => readRepeated state 0 (some 1) rest
  | '*' => readRepeated state 0 none rest
  | '+' => readRepeated state 1 none rest
  | '\x7b' => readRepetition state rest
  | '\\' => (readEscape state.verbose rest).map (fun (part, rest) => (state.push part, rest))
  | '.' => some (state.push .dot, rest)
  | '^' => some (state.push (.assertion .lineStart), rest)
  | '$' => some (state.push (.assertion .lineEnd), rest)
  | c => some (state.push (.literal ⟨c, false⟩), rest)

def readElements : Nat -> ReaderState -> Text -> Option ReaderState
  | 0, _, _ => none
  | fuel + 1, state, rest =>
      match settle state.verbose rest with
      | [] => some state
      | c :: rest =>
          match readElement state c rest with
          | none => none
          | some (state, rest) => readElements fuel state rest

def maxDepth : Nat := 250

def read (source : Text) : Option Expression :=
  match readElements (source.length + 1) ⟨[], [], [], false, [], 0⟩ source with
  | none => none
  | some state =>
      let result := Expression.ofBranches state.branches state.parts
      if state.groups.isEmpty && result.depth <= maxDepth then some result else none

end Pattern
end TreeQuery
