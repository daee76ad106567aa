import TreeQuery.Pattern.Expression
import TreeQuery.Pattern.Word
import TreeQuery.Text.Casefold

/-!
# Sets of characters

The sets that a pattern can match one character of.  A set is a table of spans, and the usual
operations turn tables into tables.  A set can be closed under letter case, over Unicode or over
the basic Latin letters only.
-/

namespace TreeQuery
namespace Pattern

/-- A set of characters: a table of spans that neither meet nor touch, in ascending order. -/
structure Charset where
  spans : List Span
deriving Repr, DecidableEq

namespace Charset

def contains (set : Charset) (c : Char) : Bool :=
  Span.covers set.spans c.toNat

def empty : Charset := ⟨[]⟩

def span (first last : Char) : Charset := ⟨[⟨first.toNat, last.toNat⟩]⟩

def enterAll (set : Charset) (spans : List Span) : Charset :=
  ⟨spans.foldl (fun table span => Span.enter span table) set.spans⟩

def union (left right : Charset) : Charset :=
  left.enterAll right.spans

def complement (set : Charset) : Charset :=
  ⟨Span.inverted set.spans⟩

def intersection (left right : Charset) : Charset :=
  ⟨left.spans.flatMap (fun entry => right.spans.filterMap entry.overlap?)⟩

def difference (left right : Charset) : Charset :=
  ⟨right.spans.foldl (fun table span => table.flatMap (fun entry => entry.without span)) left.spans⟩

def symmetricDifference (left right : Charset) : Charset :=
  (left.union right).difference (left.intersection right)

def combine : SetOperation -> Charset -> Charset -> Charset
  | .intersection => intersection
  | .difference => difference
  | .symmetricDifference => symmetricDifference

end Charset

/-! # Named classes -/

def PosixName.charset : PosixName -> Charset
  | .alnum => ⟨[⟨0x30, 0x39⟩, ⟨0x41, 0x5A⟩, ⟨0x61, 0x7A⟩]⟩
  | .alpha => ⟨[⟨0x41, 0x5A⟩, ⟨0x61, 0x7A⟩]⟩
  | .ascii => ⟨[⟨0x0, 0x7F⟩]⟩
  | .blank => ⟨[⟨0x9, 0x9⟩, ⟨0x20, 0x20⟩]⟩
  | .cntrl => ⟨[⟨0x0, 0x1F⟩, ⟨0x7F, 0x7F⟩]⟩
  | .digit => ⟨[⟨0x30, 0x39⟩]⟩
  | .graph => ⟨[⟨0x21, 0x7E⟩]⟩
  | .lower => ⟨[⟨0x61, 0x7A⟩]⟩
  | .print => ⟨[⟨0x20, 0x7E⟩]⟩
  | .punct => ⟨[⟨0x21, 0x2F⟩, ⟨0x3A, 0x40⟩, ⟨0x5B, 0x60⟩, ⟨0x7B, 0x7E⟩]⟩
  | .space => ⟨[⟨0x9, 0xD⟩, ⟨0x20, 0x20⟩]⟩
  | .upper => ⟨[⟨0x41, 0x5A⟩]⟩
  | .word => ⟨[⟨0x30, 0x39⟩, ⟨0x41, 0x5A⟩, ⟨0x5F, 0x5F⟩, ⟨0x61, 0x7A⟩]⟩
  | .xdigit => ⟨[⟨0x30, 0x39⟩, ⟨0x41, 0x46⟩, ⟨0x61, 0x66⟩]⟩

def Shorthand.charset (unicode : Bool) (name : Shorthand) : Charset :=
  match unicode, name with
  | true, .digit => ⟨digitSpans⟩
  | true, .space => ⟨Text.whitespaceSpans⟩
  | true, .word => ⟨wordSpans⟩
  | false, .digit => PosixName.digit.charset
  | false, .space => PosixName.space.charset
  | false, .word => PosixName.word.charset

/-! # Letter case -/

/-- All forms of a letter that patterns know, or its two basic Latin forms. -/
def formsOf (unicode : Bool) (c : Char) : List Char :=
  if !unicode then [c, c.toLower, c.toUpper]
  else if isRecent c then [c]
  else (Text.caseForms c).filter (!isRecent ·)

def multiformSpans (unicode : Bool) : List Span :=
  if unicode then
    (Text.lowercaseShifts ++ Text.variantShifts).flatMap (fun shift =>
      [⟨shift.first, shift.last⟩, ⟨shift.target shift.first, shift.target shift.last⟩])
  else PosixName.alpha.charset.spans

def Charset.allCases (unicode : Bool) (set : Charset) : Charset :=
  let letters := (multiformSpans unicode).flatMap (fun span => set.spans.filterMap span.overlap?)
  let forms := letters.flatMap (fun span =>
    span.codes.flatMap (fun code => formsOf unicode (Char.ofNat code)))
  set.enterAll ((forms.filter (!set.contains ·)).map (fun c => ⟨c.toNat, c.toNat⟩))

end Pattern
end TreeQuery
