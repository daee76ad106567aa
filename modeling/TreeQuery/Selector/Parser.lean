import TreeQuery.Selector.Combinator
import TreeQuery.Selector.Report
import TreeQuery.Selector.Scan

/-!
# Reading selectors

A selector is a group of sequences, a sequence is compounds joined by combinators, and a compound
is one or more simple selectors.  The first compound is read where it stands.  Every later one is
cut out up to the next combinator, with what stands in parentheses or brackets kept whole, and is
read as a selector of its own, as is the argument of `:has` and `:not`.  Selectors within
selectors use up levels, of which there is a fixed number.
-/

namespace TreeQuery
namespace Selector

open Scan

variable [Pattern.Engine]

def maxNesting : Nat := 128

/-- What has been read of a selector: the parts of the current compound, most recent first, and
the text that is left. -/
structure Progress where
  parts : List Matcher
  rest : Text

def collapse : List Matcher -> Matcher
  | [part] => part
  | parts => .all parts.reverse

/-! # Attributes -/

def patternMark : Text := "~="

/-- The comparisons, in the order in which their operators are tried. -/
def comparisons : List ValueComparison :=
  [.equals, .differs, .startsWith, .endsWith, .contains]

def attributeMarks : List Text :=
  comparisons.map ValueComparison.mark ++ [patternMark]

def dropQuotes? (quote : Char) (text : Text) : Option Text :=
  match Text.dropStart? [quote] text with
  | none => none
  | some inner => Text.dropEnd? [quote] inner

def dropQuotes (text : Text) : Text :=
  match dropQuotes? '"' text with
  | some inner => inner
  | none => (dropQuotes? '\'' text).getD text

/-- The value that an attribute is compared with: unescaped, trimmed, without quotes and in lower
case. -/
def attributeValue (raw : Text) : Text :=
  Text.lower (Text.trim (dropQuotes (Text.trim (unescape raw))))

def compilePattern (source : Text) : Except ParseError Pattern :=
  match Pattern.compile? source with
  | some pattern => .ok pattern
  | none => .error (.invalidRegex source)

/-- The test without an operator: on the presence of an attribute, or, after `^`, on the start of
some attribute's name. -/
def presenceTest (query rest key : Text) : Except ParseError AttributeTest :=
  match key with
  | ['^'] => .error (.emptyName "attribute name prefix" query rest)
  | '^' :: start => .ok (.nameStartsWith start)
  | key => .ok (.present key)

def operatorTest (query key after : Text) : Except ParseError AttributeTest :=
  if startsWith patternMark after then do
    let pattern ← compilePattern (after.drop patternMark.length)
    .ok (.matchesPattern key pattern)
  else
    match comparisons.find? (fun comparison => startsWith comparison.mark after) with
    | none => .error (.unexpectedToken query after)
    | some comparison =>
        let value := attributeValue (after.drop comparison.mark.length)
        if value.isEmpty then .error (.emptyAttributeValue key comparison.mark query)
        else .ok (.compare comparison key value)

/-- The test written between brackets.  The text after the brackets shows in errors. -/
def attributeTest (query rest clause : Text) : Except ParseError AttributeTest :=
  let (name, after) := upToAny attributeMarks clause
  let key := Text.foldAscii (Text.trim name)
  let after := (skipWhitespace after).2
  if key.isEmpty then .error (.emptyName "attribute name" query rest)
  else if after.isEmpty then presenceTest query rest key
  else operatorTest query key after

/-! # Simple selectors -/

inductive PseudoClass where
  | index (comparison : IndexComparison)
  | has
  | not
  | contains
  | matchesPattern
deriving Repr, DecidableEq

namespace PseudoClass

def name : PseudoClass -> Text
  | .index comparison => ":" ++ comparison.name
  | .has => ":has"
  | .not => ":not"
  | .contains => ":contains"
  | .matchesPattern => ":matches"

def list : List PseudoClass :=
  [.index .less, .index .greater, .index .equal, .has, .not, .contains, .matchesPattern]

def find? (rest : Text) : Option PseudoClass :=
  list.find? (fun pseudo => startsWith (pseudo.name ++ "(") rest)

end PseudoClass

def neverMatches (comparison : IndexComparison) (argument : Int) : Warning :=
  ⟨"Selector", ":" ++ comparison.name ++ "(" ++ Text.ofInt argument ++ ") can never match"⟩

/-- Whether an index test holds of no position, positions being counted from zero. -/
def isNever : IndexComparison -> Int -> Bool
  | .less, argument => argument <= 0
  | .equal, argument => argument < 0
  | .greater, _ => false

def indexTest (query : Text) (comparison : IndexComparison) (rest : Text) :
    Report (Matcher × Text) :=
  let (raw, left) := past ")" rest
  let argument := Text.trim raw
  match Text.readInt32? argument with
  | none => .fail (.invalidIndex query argument)
  | some value =>
      let warnings := if isNever comparison value then [neverMatches comparison value] else []
      ⟨warnings, .ok (.index comparison value, left)⟩

/-- The argument of a pseudo-class, from the text that the pseudo-class starts, and what is left. -/
def argumentOf (pseudo : PseudoClass) (rest : Text) : Report (Text × Text) := do
  let after ← Report.ofExcept (expect pseudo.name rest)
  pure (balanced '(' ')' after)

/-- A pseudo-class, from the text that it starts.  The function reads a selector one level
below. -/
def pseudoTest (inner : Text -> Report Matcher) (query : Text) (pseudo : PseudoClass)
    (rest : Text) : Report (Matcher × Text) :=
  let empty := ParseError.emptyArgument pseudo.name query rest
  match pseudo with
  | .index comparison => indexTest query comparison (rest.drop pseudo.name.length).tail
  | .has => do
      let (argument, left) ← argumentOf pseudo rest
      if (Text.trim argument).isEmpty then .fail empty
      else do
        let test ← inner argument
        pure (.has test, left)
  | .not => do
      let (argument, left) ← argumentOf pseudo rest
      if (Text.trim argument).isEmpty then .fail empty
      else do
        let test ← inner argument
        pure (.not test, left)
  | .contains => do
      let (argument, left) ← argumentOf pseudo rest
      let needle := unescape argument
      if needle.isEmpty then .fail empty else pure (.containsText (Text.lower needle), left)
  | .matchesPattern => do
      let (argument, left) ← argumentOf pseudo rest
      if argument.isEmpty then .fail empty
      else do
        let pattern ← Report.ofExcept (compilePattern argument)
        pure (.matchesText pattern, left)

def idTest (query rest : Text) : Except ParseError (Matcher × Text) :=
  let (name, left) := run isNameChar rest
  if name.isEmpty then .error (.emptyName "id" query left) else .ok (.id name, left)

def classTest (query rest : Text) : Except ParseError (Matcher × Text) :=
  let (name, left) := run isNameChar rest
  if name.isEmpty then .error (.emptyName "class name" query left)
  else .ok (.className (Text.lower name), left)

/-- A tag name.  A bar stands for the colon after a namespace. -/
def tagTest (query rest : Text) : Except ParseError (Matcher × Text) :=
  let (raw, left) := run isTagChar rest
  let name := Text.lower ((Text.trim raw).map (fun c => if c = '|' then ':' else c))
  if name.isEmpty then .error (.emptyName "tag name" query left) else .ok (.tag name, left)

def simpleTest (inner : Text -> Report Matcher) (query : Text) (rest : Text) :
    Report (Matcher × Text) :=
  match rest with
  | [] => .fail (.unexpectedToken query [])
  | c :: after =>
      if c = '#' then .ofExcept (idTest query after)
      else if c = '.' then .ofExcept (classTest query after)
      else if Text.isAlphanumeric c then .ofExcept (tagTest query rest)
      else if c = '[' then do
        let (clause, left) := balanced '[' ']' rest
        let test ← Report.ofExcept (attributeTest query left clause)
        pure (.attribute test, left)
      else if c = '*' then pure (.universal, after)
      else
        match PseudoClass.find? rest with
        | some pseudo => pseudoTest inner query pseudo rest
        | none => .fail (.unexpectedToken query rest)

/-! # Combinators -/

def isSeparator (c : Char) : Bool :=
  Combinator.marks.contains c || Text.isWhitespace c

/-- Take the text up to the next combinator, keeping groups in parentheses and brackets whole.  A
group that is not closed is closed at the end. -/
def subSelectorWithin : Nat -> Text -> Text × Text
  | 0, rest => ([], rest)
  | _ + 1, [] => ([], [])
  | fuel + 1, c :: rest =>
      if c = '(' then
        let (inside, left) := balanced '(' ')' (c :: rest)
        let (more, left) := subSelectorWithin fuel left
        ('(' :: inside ++ ')' :: more, left)
      else if c = '[' then
        let (inside, left) := balanced '[' ']' (c :: rest)
        let (more, left) := subSelectorWithin fuel left
        ('[' :: inside ++ ']' :: more, left)
      else if isSeparator c then ([], c :: rest)
      else
        let (more, left) := subSelectorWithin fuel rest
        (c :: more, left)

def subSelector (rest : Text) : Text × Text :=
  subSelectorWithin rest.length rest

def atMark (rest : Text) : Bool :=
  nextIs Combinator.marks.contains rest

def relate (inner : Text -> Report Matcher) (combinator : Combinator) (parts : List Matcher)
    (rest : Text) : Report Progress :=
  let (text, left) := subSelector (skipWhitespace rest).2
  do
    let right ← inner text
    pure ⟨[combinator.attach (collapse parts) right], left⟩

def combine (inner : Text -> Report Matcher) (query : Text) (mark : Char) (parts : List Matcher)
    (rest : Text) : Report Progress :=
  match Combinator.ofChar? mark with
  | none => .fail (.unexpectedToken query rest)
  | some combinator => relate inner combinator parts rest

/-! # Sequences -/

/-- Read what comes first: a combinator, which relates to the root of the query, or a simple
selector. -/
def start (inner : Text -> Report Matcher) (query : Text) : Report Progress :=
  let rest := (skipWhitespace query).2
  if atMark rest then
    let (mark, after) := next rest
    combine inner query mark [.root] after
  else do
    let (test, left) ← simpleTest inner query rest
    pure ⟨[test], left⟩

def step (inner : Text -> Report Matcher) (query : Text) (progress : Progress) :
    Report Progress :=
  let (isSpaced, rest) := skipWhitespace progress.rest
  if atMark rest then
    let (mark, after) := next rest
    combine inner query mark progress.parts after
  else if isSpaced then combine inner query ' ' progress.parts rest
  else do
    let (test, left) ← simpleTest inner query rest
    pure ⟨test :: progress.parts, left⟩

def follow (inner : Text -> Report Matcher) (query : Text) : Nat -> Progress -> Report Matcher
  | 0, progress =>
      if progress.rest.isEmpty then pure (collapse progress.parts)
      else .fail (.unexpectedToken query progress.rest)
  | fuel + 1, progress =>
      if progress.rest.isEmpty then pure (collapse progress.parts)
      else do
        let next ← step inner query progress
        follow inner query fuel next

/-- Read a selector, given how the selectors within it are read.  Every step takes a character,
so the length of the text bounds their number. -/
def parseWith (inner : Text -> Report Matcher) (query : Text) : Report Matcher := do
  let first ← start inner query
  follow inner query query.length first

/-- Read a selector with the given number of levels left for selectors within it. -/
def parseWithin : Nat -> Text -> Report Matcher
  | 0, text =>
      let query := Text.trim text
      parseWith (fun sub => .fail (.nestingTooDeep maxNesting query sub)) query
  | levels + 1, text => parseWith (parseWithin levels) (Text.trim text)

def parse (text : Text) : Report Matcher :=
  parseWithin maxNesting text

end Selector
end TreeQuery
