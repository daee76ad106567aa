import TreeQuery.Selector.Parser

/-!
# The grammar of selectors

A selector as a syntax tree, apart from any text: a group of sequences, a sequence of compounds,
a compound of simple selectors, some of which have a group as their argument.  The words in a
tree carry the conditions on their characters, and the tree also says where white space stands
that means nothing.  Every tree has a text, a meaning and a number of levels.
-/

namespace TreeQuery
namespace Selector
namespace Grammar

open Scan

variable [Pattern.Engine]

/-! # Words -/

structure Blank where
  text : Text
  spaces : forall c, c ∈ text -> Text.isWhitespace c = true

def Blank.none : Blank := ⟨[], by simp⟩

omit [Pattern.Engine] in
@[simp] theorem Blank.text_none : Blank.none.text = [] := rfl

structure Gap extends Blank where
  nonempty : text ≠ []

structure Name where
  text : Text
  nonempty : text ≠ []
  characters : forall c, c ∈ text -> isNameChar c = true

/-- A tag name, which starts with a letter or a digit. -/
structure TagName where
  first : Char
  rest : Text
  start : Text.isAlphanumeric first = true
  characters : forall c, c ∈ rest -> isTagChar c = true

structure Key where
  text : Text
  nonempty : text ≠ []
  characters : forall c, c ∈ text -> isKeyChar c = true

/-- The character neither takes the meaning from the next one nor counts as the end. -/
def IsOrdinary (c : Char) : Prop :=
  c ≠ escapeMark ∧ c ≠ endMark

instance (c : Char) : Decidable (IsOrdinary c) :=
  inferInstanceAs (Decidable (_ ∧ _))

/-- The value of an attribute, which is not blank. -/
structure Value where
  text : Text
  visible : exists c, c ∈ text ∧ Text.isWhitespace c = false
  clean : forall c, c ∈ text -> IsOrdinary c

structure Needle where
  text : Text
  nonempty : text ≠ []
  clean : forall c, c ∈ text -> IsOrdinary c

/-- An integer that fits 32 bits. -/
structure Index where
  value : Int
  fits : Text.fitsInt32 value = true

/-- Whether every closing delimiter closes an open one and none is open in the end, given how many
are open and the last character.  A delimiter right after the escape mark does not count. -/
def closes (opening closing : Char) : Nat -> Char -> Text -> Bool
  | depth, _, [] => depth == 0
  | depth, last, c :: rest =>
      if last = escapeMark then closes opening closing depth c rest
      else if c = opening then closes opening closing (depth + 1) c rest
      else if c = closing then decide (0 < depth) && closes opening closing (depth - 1) c rest
      else closes opening closing depth c rest

/-- A regular expression with delimiters that match, in parentheses and in brackets. -/
structure Expression where
  source : Text
  pattern : Pattern
  compiles : Pattern.compile? source = some pattern
  nonempty : source ≠ []
  parentheses : closes '(' ')' 0 endMark source = true
  brackets : closes '[' ']' 0 endMark source = true
  marked : forall c, c ∈ source -> c ≠ endMark
  unescaped : source.getLast? ≠ some escapeMark

/-! # Escapes -/

def isDelimiter (c : Char) : Bool :=
  c == '(' || c == ')' || c == '[' || c == ']'

def escape (text : Text) : Text :=
  text.flatMap (fun c => if isDelimiter c then [escapeMark, c] else [c])

/-! # Simple selectors without a selector inside -/

inductive Clause where
  | present (before : Blank) (key : Key) (after : Blank)
  | nameStartsWith (before : Blank) (start : Key) (after : Blank)
  | compare (before : Blank) (key : Key) (between : Blank) (comparison : ValueComparison)
      (inner : Blank) (value : Value) (after : Blank)
  | matchesPattern (before : Blank) (key : Key) (between : Blank) (expression : Expression)

namespace Clause

def write : Clause -> Text
  | .present before key after => before.text ++ (key.text ++ after.text)
  | .nameStartsWith before start after => before.text ++ ('^' :: start.text ++ after.text)
  | .compare before key between comparison inner value after =>
      before.text ++ (key.text ++ (between.text ++ (comparison.mark ++
        (inner.text ++ ('"' :: escape value.text ++ ['"'] ++ after.text)))))
  | .matchesPattern before key between expression =>
      before.text ++ (key.text ++ (between.text ++ (patternMark ++ expression.source)))

/-- Names are folded, and values trimmed and in lower case. -/
def meaning : Clause -> AttributeTest
  | .present _ key _ => .present (Text.foldAscii key.text)
  | .nameStartsWith _ start _ => .nameStartsWith (Text.foldAscii start.text)
  | .compare _ key _ comparison _ value _ =>
      .compare comparison (Text.foldAscii key.text) (Text.lower (Text.trim value.text))
  | .matchesPattern _ key _ expression =>
      .matchesPattern (Text.foldAscii key.text) expression.pattern

end Clause

inductive Leaf where
  | id (name : Name)
  | className (name : Name)
  | bracketed (clause : Clause)
  | universal
  | index (comparison : IndexComparison) (before : Blank) (argument : Index) (after : Blank)
  | containsText (needle : Needle)
  | matchesText (expression : Expression)

namespace Leaf

def write : Leaf -> Text
  | .id name => '#' :: name.text
  | .className name => '.' :: name.text
  | .bracketed clause => '[' :: clause.write ++ [']']
  | .universal => ['*']
  | .index comparison before argument after =>
      (PseudoClass.index comparison).name ++
        ('(' :: (before.text ++ (Text.ofInt argument.value ++ after.text)) ++ [')'])
  | .containsText needle => PseudoClass.contains.name ++ ('(' :: escape needle.text ++ [')'])
  | .matchesText expression =>
      PseudoClass.matchesPattern.name ++ ('(' :: expression.source ++ [')'])

def meaning : Leaf -> Matcher
  | .id name => .id name.text
  | .className name => .className (Text.lower name.text)
  | .bracketed clause => .attribute clause.meaning
  | .universal => .universal
  | .index comparison _ argument _ => .index comparison argument.value
  | .containsText needle => .containsText (Text.lower needle.text)
  | .matchesText expression => .matchesText expression.pattern

end Leaf

def TagName.write (name : TagName) : Text :=
  name.first :: name.rest

def TagName.meaning (name : TagName) : Matcher :=
  .tag (Text.lower (name.write.map (fun c => if c = '|' then ':' else c)))

/-! # What stands between compounds -/

/-- The combinators that a character stands for, without the comma. -/
inductive Mark where
  | child
  | nextSibling
  | subsequentSibling
deriving DecidableEq

namespace Mark

def character : Mark -> Char
  | .child => '>'
  | .nextSibling => '+'
  | .subsequentSibling => '~'

def combinator : Mark -> Combinator
  | .child => .child
  | .nextSibling => .nextSibling
  | .subsequentSibling => .subsequentSibling

end Mark

/-- A combinator within a sequence: white space alone, or a mark with white space around it. -/
inductive Joint where
  | space (gap : Gap)
  | marked (before : Blank) (mark : Mark) (after : Blank)

namespace Joint

def write : Joint -> Text
  | .space gap => gap.text
  | .marked before mark after => before.text ++ mark.character :: after.text

def combinator : Joint -> Combinator
  | .space _ => .descendant
  | .marked _ mark _ => mark.combinator

end Joint

/-- The combinator at the start of a group, which has the root of the query on its left. -/
structure Lead where
  mark : Mark
  after : Blank

structure Comma where
  before : Blank
  after : Blank

def Lead.write (lead : Lead) : Text :=
  lead.mark.character :: lead.after.text

def Comma.write (comma : Comma) : Text :=
  comma.before.text ++ ',' :: comma.after.text

/-! # Trees -/

mutual
inductive Item where
  | leaf (leaf : Leaf)
  | has (argument : Group)
  | not (argument : Group)

/-- Simple selectors side by side, at least one; a tag comes first. -/
inductive Compound where
  | tagged (tag : TagName) (items : List Item)
  | untagged (first : Item) (rest : List Item)

inductive Sequence where
  | mk (first : Compound) (links : List (Joint × Compound))

inductive Group where
  | mk (before : Blank) (lead : Option Lead) (first : Sequence) (others : List (Comma × Sequence))
      (after : Blank)
end

/-! # Texts -/

mutual
def Item.write : Item -> Text
  | .leaf leaf => leaf.write
  | .has argument => PseudoClass.has.name ++ ('(' :: argument.write ++ [')'])
  | .not argument => PseudoClass.not.name ++ ('(' :: argument.write ++ [')'])

def Item.writeAll : List Item -> Text
  | [] => []
  | item :: rest => item.write ++ Item.writeAll rest

def Compound.write : Compound -> Text
  | .tagged tag items => tag.write ++ Item.writeAll items
  | .untagged first rest => first.write ++ Item.writeAll rest

def Compound.writeLinks : List (Joint × Compound) -> Text
  | [] => []
  | (joint, right) :: rest => joint.write ++ (right.write ++ Compound.writeLinks rest)

def Sequence.write : Sequence -> Text
  | .mk first links => first.write ++ Compound.writeLinks links

def Sequence.writeOthers : List (Comma × Sequence) -> Text
  | [] => []
  | (comma, sequence) :: rest => comma.write ++ (sequence.write ++ Sequence.writeOthers rest)

def Group.write : Group -> Text
  | .mk before lead first others after =>
      before.text ++ ((lead.elim [] Lead.write ++ (first.write ++ Sequence.writeOthers others)) ++
        after.text)
end

/-! # Meanings -/

def conjunction (first : Matcher) : List Matcher -> Matcher
  | [] => first
  | second :: rest => .all (first :: second :: rest)

def disjunction (first : Matcher) : List Matcher -> Matcher
  | [] => first
  | second :: rest => .any (first :: second :: rest)

mutual
def Item.meaning : Item -> Matcher
  | .leaf leaf => leaf.meaning
  | .has argument => .has argument.meaning
  | .not argument => .not argument.meaning

def Item.meanings : List Item -> List Matcher
  | [] => []
  | item :: rest => item.meaning :: Item.meanings rest

def Compound.meaning : Compound -> Matcher
  | .tagged tag items => conjunction tag.meaning (Item.meanings items)
  | .untagged first rest => conjunction first.meaning (Item.meanings rest)

def Compound.meanings : List (Joint × Compound) -> List (Combinator × Matcher)
  | [] => []
  | (joint, right) :: rest => (joint.combinator, right.meaning) :: Compound.meanings rest

/-- The compounds are joined from the left, the first of them to the root after a lead. -/
def Sequence.meaning (lead : Option Lead) : Sequence -> Matcher
  | .mk first links =>
      let start := match lead with
        | none => first.meaning
        | some lead => lead.mark.combinator.join .root first.meaning
      joinAll start (Compound.meanings links)

def Sequence.meanings : List (Comma × Sequence) -> List Matcher
  | [] => []
  | (_, sequence) :: rest => sequence.meaning none :: Sequence.meanings rest

def Group.meaning : Group -> Matcher
  | .mk _ lead first others _ => disjunction (first.meaning lead) (Sequence.meanings others)
end

/-! # Levels

An argument is one level below the selector that it stands in, and so is a compound after a
combinator or a comma.
-/

mutual
def Item.levels : Item -> Nat
  | .leaf _ => 0
  | .has argument => argument.levels + 1
  | .not argument => argument.levels + 1

def Item.levelsOfAll : List Item -> Nat
  | [] => 0
  | item :: rest => max item.levels (Item.levelsOfAll rest)

def Compound.levels : Compound -> Nat
  | .tagged _ items => Item.levelsOfAll items
  | .untagged first rest => max first.levels (Item.levelsOfAll rest)

def Compound.levelsOfLinks : List (Joint × Compound) -> Nat
  | [] => 0
  | (_, right) :: rest => max (right.levels + 1) (Compound.levelsOfLinks rest)

/-- Whether or not the first compound is one level below. -/
def Sequence.levels (isBelow : Bool) : Sequence -> Nat
  | .mk first links =>
      max (if isBelow then first.levels + 1 else first.levels) (Compound.levelsOfLinks links)

def Sequence.levelsOfOthers : List (Comma × Sequence) -> Nat
  | [] => 0
  | (_, sequence) :: rest => max (sequence.levels true) (Sequence.levelsOfOthers rest)

def Group.levels : Group -> Nat
  | .mk _ lead first others _ => max (first.levels lead.isSome) (Sequence.levelsOfOthers others)
end

end Grammar
end Selector
end TreeQuery
