import TreeQuery.Json.Value
import TreeQuery.Text.Quoted

/-!
# Writing JSON

Values are written on one line without blanks, or with two blanks of indentation for each level.
In strings, quotes, backslashes and control characters are escaped, and nothing else is.
-/

namespace TreeQuery
namespace Json

def escapeChar (c : Char) : Text :=
  if c = '"' then ['\\', '"']
  else if c = '\\' then ['\\', '\\']
  else if c = '\x08' then ['\\', 'b']
  else if c = '\x0c' then ['\\', 'f']
  else if c = '\n' then ['\\', 'n']
  else if c = '\r' then ['\\', 'r']
  else if c = '\t' then ['\\', 't']
  else if c.toNat < 32 then
    ['\\', 'u', '0', '0', Nat.digitChar (c.toNat / 16), Nat.digitChar (c.toNat % 16)]
  else [c]

def writeString (text : Text) : Text :=
  '"' :: text.flatMap escapeChar ++ ['"']

mutual
def compact : Json -> Text
  | .null => "null"
  | .bool true => "true"
  | .bool false => "false"
  | .number => "0"
  | .string text => writeString text
  | .array items => '[' :: Text.join "," (compactItems items) ++ [']']
  | .object members => '\x7b' :: Text.join "," (compactMembers members) ++ ['\x7d']

def compactItems : List Json -> List Text
  | [] => []
  | item :: rest => compact item :: compactItems rest

def compactMembers : List (Text × Json) -> List Text
  | [] => []
  | (name, value) :: rest => (writeString name ++ ':' :: compact value) :: compactMembers rest
end

def newLine (level : Nat) : Text :=
  '\n' :: List.replicate (2 * level) ' '

def block (level : Nat) (opening closing : Char) (parts : List Text) : Text :=
  if parts.isEmpty then [opening, closing]
  else
    let start := newLine (level + 1)
    opening :: start ++ Text.join (',' :: start) parts ++ newLine level ++ [closing]

mutual
def prettyAt (level : Nat) : Json -> Text
  | .array items => block level '[' ']' (prettyItems (level + 1) items)
  | .object members => block level '\x7b' '\x7d' (prettyMembers (level + 1) members)
  | .null => compact .null
  | .bool value => compact (.bool value)
  | .number => compact .number
  | .string text => writeString text

def prettyItems (level : Nat) : List Json -> List Text
  | [] => []
  | item :: rest => prettyAt level item :: prettyItems level rest

def prettyMembers (level : Nat) : List (Text × Json) -> List Text
  | [] => []
  | (name, value) :: rest =>
      (writeString name ++ ": " ++ prettyAt level value) :: prettyMembers level rest
end

def pretty (value : Json) : Text :=
  prettyAt 0 value

end Json
end TreeQuery
