import TreeQuery.Text.Basic
import TreeQuery.Text.Span

/-!
# Sets of characters as bytes

A span of code points, as spans of the bytes that encode them: the span is cut until the characters
of each piece have encodings of one length that differ in no byte except the last ones.
-/

namespace TreeQuery
namespace Pattern

def utf8 (text : Text) : List Nat :=
  text.flatMap (fun c => (String.utf8EncodeChar c).map UInt8.toNat)

def cutBehind (code : Nat) (span : Span) : List Span :=
  if span.first <= code && code < span.last then [⟨span.first, code⟩, ⟨code + 1, span.last⟩]
  else [span]

def besideSurrogates (span : Span) : List Span :=
  if span.first <= 0xDFFF && 0xD800 <= span.last then
    [⟨span.first, 0xD7FF⟩, ⟨0xE000, span.last⟩].filter (fun part => part.first <= part.last)
  else [span]

/-- Cut a span at multiples of the given sizes, each a multiple of the one before, so that no
more than its ends cover a part of a block. -/
def cutAtBlocks : List Nat -> Span -> List Span
  | [], span => [span]
  | size :: sizes, span =>
      if span.first / size = span.last / size then [span]
      else
        let start := (span.first + size - 1) / size * size
        let stop := (span.last + 1) / size * size
        (if span.first < start then [⟨span.first, start - 1⟩] else []) ++
          (if start < stop then cutAtBlocks sizes ⟨start, stop - 1⟩ else []) ++
          (if stop <= span.last then [⟨stop, span.last⟩] else [])

def byteRow (piece : Span) : List Span :=
  (utf8 [Char.ofNat piece.first]).zipWith Span.mk (utf8 [Char.ofNat piece.last])

/-- The rows of spans of bytes that make up the encodings of the code points in a span. -/
def byteRows (span : Span) : List (List Span) :=
  let pieces := (besideSurrogates span).flatMap (cutBehind 0x7F)
  let pieces := (pieces.flatMap (cutBehind 0x7FF)).flatMap (cutBehind 0xFFFF)
  let pieces := pieces.flatMap (fun piece =>
    if piece.last <= 0x7F then [piece] else cutAtBlocks [0x40, 0x1000, 0x40000] piece)
  pieces.map byteRow

end Pattern
end TreeQuery
