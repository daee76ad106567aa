import TreeQuery.Selector.Error
import TreeQuery.Text.Letter
import TreeQuery.Text.Lowercase

/-!
# Scanning

The steps by which a selector is taken apart.  The state is the text that has not been consumed;
a step that consumes answers with what it took and what is left.  Past the end every look ahead
sees the end mark, so that no step can fail there.
-/

namespace TreeQuery
namespace Selector
namespace Scan

def endMark : Char := '\x00'

/-- The character that takes the meaning from the delimiter after it. -/
def escapeMark : Char := '\\'

/-! # Looking ahead -/

def peek (rest : Text) : Char :=
  rest.headD endMark

def peekNext (rest : Text) : Char :=
  rest.tail.headD endMark

def startsWith : Text -> Text -> Bool
  | [], _ => true
  | _ :: _, [] => false
  | c :: mark, r :: rest => Text.sameLetter r c && startsWith mark rest

def startsWithAny (marks : List Text) (rest : Text) : Bool :=
  marks.any (fun mark => startsWith mark rest)

def nextIs (test : Char -> Bool) (rest : Text) : Bool :=
  rest.head?.any test

/-! # Consuming -/

def next (rest : Text) : Char × Text :=
  (peek rest, rest.tail)

def run (test : Char -> Bool) (rest : Text) : Text × Text :=
  (rest.takeWhile test, rest.dropWhile test)

def skip (mark rest : Text) : Bool × Text :=
  if startsWith mark rest then (true, rest.drop mark.length) else (false, rest)

def expect (mark rest : Text) : Except ParseError Text :=
  if startsWith mark rest then .ok (rest.drop mark.length)
  else .error (.expectedSequence mark rest)

def skipWhitespace (rest : Text) : Bool × Text :=
  (nextIs Text.isWhitespace rest, rest.dropWhile Text.isWhitespace)

def upTo (found : Text -> Bool) : Text -> Text × Text
  | [] => ([], [])
  | c :: rest =>
      if found (c :: rest) then ([], c :: rest)
      else
        let (taken, left) := upTo found rest
        (c :: taken, left)

def upToMark (mark : Text) : Text -> Text × Text :=
  upTo mark.isPrefixOf

def upToMarkIgnoringCase (mark : Text) : Text -> Text × Text :=
  upTo (startsWith mark)

def upToAny (marks : List Text) : Text -> Text × Text :=
  upTo (startsWithAny marks)

/-- Take everything up to the first exact copy of the mark and drop the mark. -/
def past (mark rest : Text) : Text × Text :=
  let (taken, left) := upToMark mark rest
  (taken, (skip mark left).2)

/-- Take everything up to the first copy of the mark in any letter case and drop that copy. -/
def pastIgnoringCase (mark rest : Text) : Text × Text :=
  let (taken, left) := upToMarkIgnoringCase mark rest
  (taken, (skip mark left).2)

/-! # Names -/

def isNameChar (c : Char) : Bool :=
  Text.isAlphanumeric c || c == '-' || c == '_'

/-- A character of a tag name, which may carry a namespace before a bar. -/
def isTagChar (c : Char) : Bool :=
  Text.isAlphanumeric c || c == '|' || c == '_' || c == '-'

def isKeyChar (c : Char) : Bool :=
  Text.isAlphanumeric c || c == '-' || c == '_' || c == ':'

/-! # Groups -/

/-- The number of open groups after a character, which does not count after the escape mark. -/
def depthAfter (opening closing : Char) (depth : Nat) (last c : Char) : Nat :=
  if last = escapeMark then depth
  else if c = opening then depth + 1
  else if c = closing then depth - 1
  else depth

def balancedFrom (opening closing : Char) (depth : Nat) (last : Char) : Text -> Text × Text
  | [] => ([], [])
  | c :: rest =>
      let depth := depthAfter opening closing depth last c
      if depth = 0 then ([], rest)
      else
        let (inside, left) := balancedFrom opening closing depth c rest
        (if last = endMark then inside else c :: inside, left)

/-- Take a balanced group and answer with what is between its delimiters.  Delimiters after the
escape mark do not count.  A group that is not closed reaches to the end. -/
def balanced (opening closing : Char) (rest : Text) : Text × Text :=
  balancedFrom opening closing 0 endMark rest

end Scan

/-! # Escapes -/

def unescapeAfter (last : Char) : Text -> Text
  | [] => []
  | c :: rest =>
      if c = Scan.escapeMark && last ≠ Scan.escapeMark then unescapeAfter c rest
      else c :: unescapeAfter c rest

/-- Drop escape marks.  A mark right after another mark stays. -/
def unescape (text : Text) : Text :=
  unescapeAfter Scan.endMark text

end Selector
end TreeQuery
