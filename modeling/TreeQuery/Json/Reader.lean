import TreeQuery.Json.Number
import TreeQuery.Json.Value

/-!
# Reading JSON

A strict reader: one value with white space around it, no trailing commas, no control characters
in strings, surrogates only in pairs, and arrays and objects nested to a fixed depth.
-/

namespace TreeQuery
namespace Json

def maxDepth : Nat := 127

def isBlank (c : Char) : Bool :=
  c == ' ' || c == '\n' || c == '\t' || c == '\r'

def skipBlank (rest : Text) : Text :=
  rest.dropWhile isBlank

/-! # Strings -/

def fourDigits? (a b c d : Char) : Option Nat :=
  match Text.hexDigit? a, Text.hexDigit? b, Text.hexDigit? c, Text.hexDigit? d with
  | some a, some b, some c, some d => some (((a * 16 + b) * 16 + c) * 16 + d)
  | _, _, _, _ => none

def isLeadSurrogate (code : Nat) : Bool :=
  0xD800 <= code && code <= 0xDBFF

def isTrailSurrogate (code : Nat) : Bool :=
  0xDC00 <= code && code <= 0xDFFF

def escaped? : Char -> Option Char
  | '"' => some '"'
  | '\\' => some '\\'
  | '/' => some '/'
  | 'b' => some '\x08'
  | 'f' => some '\x0c'
  | 'n' => some '\n'
  | 'r' => some '\r'
  | 't' => some '\t'
  | _ => none

def ofSurrogates (lead trail : Nat) : Char :=
  Char.ofNat (0x10000 + (lead - 0xD800) * 0x400 + (trail - 0xDC00))

def prepend (c : Char) (result : Option (Text × Text)) : Option (Text × Text) :=
  result.map (fun (text, rest) => (c :: text, rest))

def readString : Text -> Option (Text × Text)
  | [] => none
  | c :: rest =>
      if c = '"' then some ([], rest)
      else if c = '\\' then
        match rest with
        | 'u' :: a :: b :: c :: d :: rest =>
            match fourDigits? a b c d with
            | none => none
            | some code =>
                if isTrailSurrogate code then none
                else if isLeadSurrogate code then
                  match rest with
                  | '\\' :: 'u' :: a :: b :: c :: d :: rest =>
                      match fourDigits? a b c d with
                      | none => none
                      | some trail =>
                          if isTrailSurrogate trail then
                            prepend (ofSurrogates code trail) (readString rest)
                          else none
                  | _ => none
                else prepend (Char.ofNat code) (readString rest)
        | e :: rest =>
            match escaped? e with
            | none => none
            | some char => prepend char (readString rest)
        | [] => none
      else if c.toNat < 32 then none
      else prepend c (readString rest)

def readWord (word rest : Text) (value : Json) : Option (Json × Text) :=
  (Text.dropStart? word rest).map (fun rest => (value, rest))

/-! # Values -/

mutual
/-- Read a value.  The first number bounds the steps, the second the depth. -/
def readValue : Nat -> Nat -> Text -> Option (Json × Text)
  | 0, _, _ => none
  | fuel + 1, depth, rest =>
      match skipBlank rest with
      | [] => none
      | '"' :: rest => (readString rest).map (fun (text, rest) => (.string text, rest))
      | '[' :: rest =>
          match depth with
          | 0 => none
          | depth + 1 =>
              match skipBlank rest with
              | ']' :: rest => some (.array [], rest)
              | rest => (readItems fuel depth rest).map (fun (items, rest) => (.array items, rest))
      | '\x7b' :: rest =>
          match depth with
          | 0 => none
          | depth + 1 =>
              match skipBlank rest with
              | '\x7d' :: rest => some (.object [], rest)
              | rest =>
                  (readMembers fuel depth rest).map
                    (fun (members, rest) => (.object members, rest))
      | 'n' :: rest => readWord "ull" rest .null
      | 't' :: rest => readWord "rue" rest (.bool true)
      | 'f' :: rest => readWord "alse" rest (.bool false)
      | rest => (readNumber rest).map (fun rest => (.number, rest))

def readItems : Nat -> Nat -> Text -> Option (List Json × Text)
  | 0, _, _ => none
  | fuel + 1, depth, rest =>
      match readValue fuel depth rest with
      | none => none
      | some (item, rest) =>
          match skipBlank rest with
          | ',' :: rest =>
              (readItems fuel depth rest).map (fun (items, rest) => (item :: items, rest))
          | ']' :: rest => some ([item], rest)
          | _ => none

def readMembers : Nat -> Nat -> Text -> Option (List (Text × Json) × Text)
  | 0, _, _ => none
  | fuel + 1, depth, rest =>
      match skipBlank rest with
      | '"' :: rest =>
          match readString rest with
          | none => none
          | some (name, rest) =>
              match skipBlank rest with
              | ':' :: rest =>
                  match readValue fuel depth rest with
                  | none => none
                  | some (value, rest) =>
                      match skipBlank rest with
                      | ',' :: rest =>
                          (readMembers fuel depth rest).map
                            (fun (members, rest) => ((name, value) :: members, rest))
                      | '\x7d' :: rest => some ([(name, value)], rest)
                      | _ => none
              | _ => none
      | _ => none
end

/-- Read a text that is one value.  Each character takes at most two steps. -/
def read (text : Text) : Option Json :=
  match readValue (2 * text.length + 2) maxDepth text with
  | some (value, rest) => if (skipBlank rest).isEmpty then some value else none
  | none => none

end Json
end TreeQuery
