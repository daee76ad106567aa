import TreeQuery.Pattern.Expression
import TreeQuery.Text.Letter
import TreeQuery.Text.Numeral

/-!
# Lexical elements of patterns

Escapes, shorthand classes, numbers and flags: the parts of a pattern that are read without
looking at what surrounds them.  In verbose mode white space and comments between the characters
are skipped.  Each reader answers with what it read and the rest of the text, or with nothing if
the text is not well formed.
-/

namespace TreeQuery
namespace Pattern

def skipBlank : Bool -> Text -> Text
  | _, [] => []
  | true, c :: rest => skipBlank (c != '\n') rest
  | false, c :: rest =>
      if Text.isWhitespace c then skipBlank false rest
      else if c = '#' then skipBlank true rest
      else c :: rest

def settle (verbose : Bool) (rest : Text) : Text :=
  if verbose then skipBlank false rest else rest

def isMeta (c : Char) : Bool :=
  "\\.+*?()|[]\x7b\x7d^$#&-~".toList.contains c

def isEscapable (c : Char) : Bool :=
  isMeta c || (c.toNat < 128 && !c.isAlphanum && c != '<' && c != '>')

/-! # Numbers -/

def scalar? (code : Nat) : Option Char :=
  if code.isValidChar then some (Char.ofNat code) else none

def readHexDigits (verbose : Bool) : Nat -> Nat -> Text -> Option (Nat × Text)
  | 0, value, rest => some (value, rest)
  | _ + 1, _, [] => none
  | count + 1, value, c :: rest =>
      match Text.hexDigit? c with
      | none => none
      | some digit => readHexDigits verbose count (16 * value + digit) (settle verbose rest)

def readHexBraced (verbose : Bool) : Nat -> Option Nat -> Text -> Option (Nat × Text)
  | 0, _, _ => none
  | fuel + 1, value, rest =>
      match settle verbose rest with
      | [] => none
      | c :: rest =>
          if c = '\x7d' then value.map (fun code => (code, settle verbose rest))
          else
            match Text.hexDigit? c with
            | none => none
            | some digit => readHexBraced verbose fuel (some (16 * value.getD 0 + digit)) rest

def readHexLiteral (verbose : Bool) (kind : Char) (rest : Text) : Option (Literal × Text) :=
  match settle verbose rest with
  | [] => none
  | c :: rest =>
      if c = '\x7b' then
        match readHexBraced verbose (rest.length + 1) none rest with
        | none => none
        | some (code, rest) => (scalar? code).map (fun char => (⟨char, false⟩, rest))
      else
        let count := if kind = 'x' then 2 else if kind = 'u' then 4 else 8
        match readHexDigits verbose count 0 (c :: rest) with
        | none => none
        | some (code, rest) => (scalar? code).map (fun char => (⟨char, kind == 'x'⟩, rest))

def readDigits (verbose : Bool) : Nat -> Option Nat -> Text -> Option Nat × Text
  | 0, value, rest => (value, rest)
  | _ + 1, value, [] => (value, [])
  | fuel + 1, value, c :: rest =>
      if c.isDigit then
        readDigits verbose fuel (some (10 * value.getD 0 + Text.digitValue c))
          (settle verbose rest)
      else (value, c :: rest)

/-- A repetition count, with white space around it.  It must fit 32 bits. -/
def readCount (verbose : Bool) (rest : Text) : Option Nat × Text :=
  let rest := rest.dropWhile Text.isWhitespace
  let (value, rest) := readDigits verbose (rest.length + 1) none rest
  let rest := rest.dropWhile Text.isWhitespace
  (value.filter (· < Nat.pow 2 32), settle verbose rest)

/-! # Escapes -/

def shorthand? : Char -> Option (Bool × Shorthand)
  | 'd' => some (false, .digit)
  | 'D' => some (true, .digit)
  | 's' => some (false, .space)
  | 'S' => some (true, .space)
  | 'w' => some (false, .word)
  | 'W' => some (true, .word)
  | _ => none

def control? : Char -> Option Char
  | 'a' => some '\x07'
  | 'f' => some '\x0c'
  | 't' => some '\t'
  | 'n' => some '\n'
  | 'r' => some '\r'
  | 'v' => some '\x0b'
  | _ => none

def assertion? : Char -> Option Assertion
  | 'A' => some .textStart
  | 'z' => some .textEnd
  | 'b' => some .wordBoundary
  | 'B' => some .notWordBoundary
  | '<' => some .wordStart
  | '>' => some .wordEnd
  | _ => none

def isBoundaryLetter (c : Char) : Bool :=
  c.isAlpha || c == '-'

def readBoundaryName (verbose : Bool) : Nat -> Text -> Text × Text
  | 0, rest => ([], rest)
  | _ + 1, [] => ([], [])
  | fuel + 1, c :: rest =>
      if isBoundaryLetter c then
        let (name, rest) := readBoundaryName verbose fuel (settle verbose rest)
        (c :: name, rest)
      else ([], c :: rest)

def boundary? (name : Text) : Option Assertion :=
  if name = "start" then some .wordStart
  else if name = "end" then some .wordEnd
  else if name = "start-half" then some .wordStartHalf
  else if name = "end-half" then some .wordEndHalf
  else none

/-- The assertion after `\b`: a boundary named between braces, or the plain word boundary.  A
brace that does not open a name is left for the repetition that it may open. -/
def readBoundary (verbose : Bool) (rest : Text) : Option (Assertion × Text) :=
  match rest with
  | '\x7b' :: inner =>
      match settle verbose inner with
      | [] => none
      | c :: inner =>
          if isBoundaryLetter c then
            match readBoundaryName verbose (inner.length + 1) (c :: inner) with
            | (name, '\x7d' :: after) => (boundary? name).map (fun kind => (kind, after))
            | _ => none
          else some (.wordBoundary, rest)
  | _ => some (.wordBoundary, rest)

def readPropertyName (verbose : Bool) (rest : Text) : Option (Text × Text) :=
  match settle verbose rest with
  | [] => none
  | '\x7b' :: rest =>
      let name := rest.takeWhile (· != '\x7d')
      match rest.dropWhile (· != '\x7d') with
      | [] => none
      | _ :: after => some (if verbose then name.filter (!Text.isWhitespace ·) else name, after)
  | c :: rest => if c = '\\' then none else some ([c], settle verbose rest)

def readEscape (verbose : Bool) (rest : Text) : Option (Expression × Text) :=
  match rest with
  | [] => none
  | c :: rest =>
      if c.isDigit then none
      else if c = 'x' || c = 'u' || c = 'U' then
        (readHexLiteral verbose c rest).map (fun (literal, rest) => (.literal literal, rest))
      else if c = 'p' || c = 'P' then
        (readPropertyName verbose rest).map
          (fun (name, rest) => (.property (c == 'P') name, rest))
      else
        match shorthand? c with
        | some (negated, name) => some (.shorthand negated name, rest)
        | none =>
            if isEscapable c then some (.literal ⟨c, false⟩, rest)
            else
              match control? c, assertion? c with
              | some char, _ => some (.literal ⟨char, false⟩, rest)
              | none, some .wordBoundary =>
                  (readBoundary verbose rest).map (fun (kind, rest) => (.assertion kind, rest))
              | none, some kind => some (.assertion kind, rest)
              | none, none => none

/-! # Flags -/

def flag? : Char -> Option Flag
  | 'i' => some .ignoreCase
  | 'm' => some .multiLine
  | 's' => some .dotAll
  | 'U' => some .swapGreed
  | 'u' => some .unicode
  | 'R' => some .crlf
  | 'x' => some .verbose
  | _ => none

/-- Read flags up to the colon or parenthesis that ends them, which stays in the rest.  A flag
may be named once, and a minus sign must be followed by a flag. -/
def readFlags : Settings -> Bool -> Bool -> Text -> Option (Settings × Text)
  | _, _, _, [] => none
  | settings, negated, dangling, c :: rest =>
      if c = ':' || c = ')' then
        if dangling then none else some (settings, c :: rest)
      else if c = '-' then
        if negated then none else readFlags settings true true rest
      else
        match flag? c with
        | none => none
        | some flag =>
            if settings.any (·.1 == flag) then none
            else readFlags (settings ++ [(flag, !negated)]) negated false rest

def Settings.value? (settings : Settings) (flag : Flag) : Option Bool :=
  (settings.find? (·.1 == flag)).map (·.2)

/-! # Names of groups -/

def isNameChar (atStart : Bool) (c : Char) : Bool :=
  if atStart then c == '_' || Text.isAlphabetic c
  else c == '_' || c == '.' || c == '[' || c == ']' || Text.isAlphanumeric c

def readGroupName (rest : Text) : Option (Text × Text) :=
  let name := rest.takeWhile (· != '>')
  match name, rest.dropWhile (· != '>') with
  | first :: others, _ :: after =>
      if isNameChar true first && others.all (isNameChar false) then some (name, after) else none
  | _, _ => none

end Pattern
end TreeQuery
