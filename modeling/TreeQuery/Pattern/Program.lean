import TreeQuery.Pattern.Charset

/-!
# Programs

A program is a pattern with its flags worked in: every part says by itself what it matches.  A
pattern that could match a part of a character is refused; outside Unicode mode that is every
negated class, the dot, and bytes beyond ASCII.
-/

namespace TreeQuery
namespace Pattern

structure Mode where
  ignoreCase : Bool
  multiLine : Bool
  dotAll : Bool
  swapGreed : Bool
  unicode : Bool
  crlf : Bool
deriving Repr, DecidableEq

def Mode.initial : Mode := ⟨false, false, false, false, true, false⟩

/-- Change one flag.  The flag on layout has done its work when the pattern was read. -/
def Mode.with (mode : Mode) : Flag -> Bool -> Mode
  | .ignoreCase, on => { mode with ignoreCase := on }
  | .multiLine, on => { mode with multiLine := on }
  | .dotAll, on => { mode with dotAll := on }
  | .swapGreed, on => { mode with swapGreed := on }
  | .unicode, on => { mode with unicode := on }
  | .crlf, on => { mode with crlf := on }
  | .verbose, _ => mode

def Mode.apply (mode : Mode) (settings : Settings) : Mode :=
  settings.foldl (fun mode (flag, on) => mode.with flag on) mode

inductive Anchor where
  | textStart
  | textEnd
  | lineStart (crlf : Bool)
  | lineEnd (crlf : Bool)
  | boundary (unicode : Bool)
  | notBoundary (unicode : Bool)
  | wordStart (unicode : Bool)
  | wordEnd (unicode : Bool)
  | wordStartHalf (unicode : Bool)
  | wordEndHalf (unicode : Bool)
deriving Repr, DecidableEq

/-- A pattern whose single-character sets and anchors are of the given kinds. -/
inductive Program (σ α : Type) where
  | step (set : σ)
  | test (anchor : α)
  | sequence (parts : List (Program σ α))
  | choice (branches : List (Program σ α))
  | repeated (least : Nat) (most : Option Nat) (isLazy : Bool) (body : Program σ α)
  | group (index : Nat) (body : Program σ α)
deriving Repr

/-! # Classes -/

def Mode.close (mode : Mode) (set : Charset) : Charset :=
  if mode.ignoreCase then set.allCases mode.unicode else set

def Mode.negate? (mode : Mode) (negated : Bool) (set : Charset) : Option Charset :=
  if negated then (if mode.unicode then some set.complement else none) else some set

/-- The character of a literal, which outside Unicode mode must not be a byte beyond ASCII. -/
def Mode.char? (mode : Mode) (literal : Literal) : Option Char :=
  if !mode.unicode && literal.isByte && literal.char.toNat >= 128 then none else some literal.char

def Mode.classChar? (mode : Mode) (literal : Literal) : Option Char :=
  if !mode.unicode && literal.char.toNat >= 128 then none else some literal.char

/-- Names of properties are compared without letter case, blanks, underscores and hyphens. -/
def looseName (name : Text) : Text :=
  Text.foldAscii (name.filter (fun c => c != ' ' && c != '_' && c != '-'))

/-- The set of a named property, for the properties that the tables of characters hold. -/
def property? (name : Text) : Option Charset :=
  match String.ofList (looseName name) with
  | "alphabetic" | "alpha" => some ⟨Text.alphabeticSpans⟩
  | "whitespace" | "wspace" | "space" => some ⟨Text.whitespaceSpans⟩
  | "decimalnumber" | "nd" | "digit" => some ⟨digitSpans⟩
  | "othernumber" | "no" => some ⟨Text.numeralSpans⟩
  | "cased" => some ⟨Text.casedSpans⟩
  | "caseignorable" | "ci" => some ⟨Text.caseIgnorableSpans⟩
  | "any" => some Charset.empty.complement
  | "ascii" => some PosixName.ascii.charset
  | _ => none

/-- A property, closed under case before it is negated; there are none outside Unicode mode. -/
def Mode.property? (mode : Mode) (negated : Bool) (name : Text) : Option Charset :=
  if mode.unicode then
    (Pattern.property? name).bind (fun set => mode.negate? negated (mode.close set))
  else none

mutual
def ClassExpression.charset? (mode : Mode) : ClassExpression -> Option Charset
  | .empty => some .empty
  | .literal value => (mode.classChar? value).map (fun c => .span c c)
  | .range first last =>
      match mode.classChar? first, mode.classChar? last with
      | some low, some high => some (.span low high)
      | _, _ => none
  | .posix negated name => mode.negate? negated (mode.close name.charset)
  | .shorthand negated name => mode.negate? negated (name.charset mode.unicode)
  | .property negated name => mode.property? negated name
  | .bracketed negated inner =>
      (inner.charset? mode).bind (fun set => mode.negate? negated (mode.close set))
  | .union items => ClassExpression.unionOf? mode items
  | .operation kind left right =>
      match left.charset? mode, right.charset? mode with
      | some left, some right => some (.combine kind (mode.close left) (mode.close right))
      | _, _ => none

def ClassExpression.unionOf? (mode : Mode) : List ClassExpression -> Option Charset
  | [] => some .empty
  | item :: rest =>
      match item.charset? mode, ClassExpression.unionOf? mode rest with
      | some set, some sets => some (.union set sets)
      | _, _ => none
end

/-! # Patterns -/

def Mode.anchor (mode : Mode) : Assertion -> Anchor
  | .lineStart => if mode.multiLine then .lineStart mode.crlf else .textStart
  | .lineEnd => if mode.multiLine then .lineEnd mode.crlf else .textEnd
  | .textStart => .textStart
  | .textEnd => .textEnd
  | .wordBoundary => .boundary mode.unicode
  | .notWordBoundary => .notBoundary mode.unicode
  | .wordStart => .wordStart mode.unicode
  | .wordEnd => .wordEnd mode.unicode
  | .wordStartHalf => .wordStartHalf mode.unicode
  | .wordEndHalf => .wordEndHalf mode.unicode

def Mode.dot? (mode : Mode) : Option Charset :=
  if !mode.unicode then none
  else if mode.dotAll then some Charset.empty.complement
  else if mode.crlf then some (Charset.union (.span '\n' '\n') (.span '\r' '\r')).complement
  else some (Charset.span '\n' '\n').complement

mutual
/-- The program of a pattern and the mode that the pattern leaves behind for what follows it in
the same group. -/
def Expression.program? (mode : Mode) :
    Expression -> Option (Program Charset Anchor × Mode)
  | .empty => some (.sequence [], mode)
  | .settings changes => some (.sequence [], mode.apply changes)
  | .literal value =>
      (mode.char? value).map (fun c => (.step (mode.close (.span c c)), mode))
  | .dot => mode.dot?.map (fun set => (.step set, mode))
  | .assertion kind => some (.test (mode.anchor kind), mode)
  | .shorthand negated name =>
      (mode.negate? negated (name.charset mode.unicode)).map (fun set => (.step set, mode))
  | .property negated name => (mode.property? negated name).map (fun set => (.step set, mode))
  | .bracketed negated inner =>
      (inner.charset? mode).bind (fun set =>
        (mode.negate? negated (mode.close set)).map (fun set => (.step set, mode)))
  | .repetition least most isLazy inner =>
      (inner.program? mode).map (fun (body, mode) =>
        (.repeated least most (isLazy != mode.swapGreed) body, mode))
  | .group index changes inner =>
      (inner.program? (mode.apply changes)).map (fun (body, _) =>
        match index with
        | none => (body, mode)
        | some index => (.group index body, mode))
  | .alternation branches =>
      (Expression.programs? mode branches).map (fun (branches, mode) => (.choice branches, mode))
  | .concatenation parts =>
      (Expression.programs? mode parts).map (fun (parts, mode) => (.sequence parts, mode))

def Expression.programs? (mode : Mode) :
    List Expression -> Option (List (Program Charset Anchor) × Mode)
  | [] => some ([], mode)
  | first :: rest =>
      match first.program? mode with
      | none => none
      | some (program, mode) =>
          (Expression.programs? mode rest).map (fun (programs, mode) => (program :: programs, mode))
end

end Pattern
end TreeQuery
