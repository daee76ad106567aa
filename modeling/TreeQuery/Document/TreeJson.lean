import TreeQuery.Document.Tree
import TreeQuery.Json.Reader
import TreeQuery.Json.Writer

/-!
# Trees as JSON

A text is a JSON string.  An element is an object with its tag name under `tag`, its attributes
under `attrs` and its children under `children`; the latter two may be missing.  Other members
are ignored, but these three must not repeat.
-/

namespace TreeQuery
namespace Tree

def valuesOf (name : Text) (members : List (Text × Json)) : List Json :=
  (members.filter (fun member => member.1 == name)).map Prod.snd

/-- The attributes written in an object; of a repeated name the last counts. -/
def attributes? : List (Text × Json) -> Dictionary -> Option Dictionary
  | [], attributes => some attributes
  | (name, .string value) :: rest, attributes => attributes? rest (attributes.insert name value)
  | _ :: _, _ => none

mutual
def ofJson? : Json -> Option Tree
  | .string payload => some (.text payload)
  | .object members =>
      let attributes := match valuesOf "attrs" members with
        | [] => some .empty
        | [.object pairs] => attributes? pairs .empty
        | _ => none
      let children := match (valuesOf "children" members).length with
        | 0 => some []
        | 1 => childrenOf? members
        | _ => none
      match valuesOf "tag" members, attributes, children with
      | [.string tag], some attributes, some children => some (.element tag attributes children)
      | _, _, _ => none
  | _ => none

def childrenOf? : List (Text × Json) -> Option (List Tree)
  | [] => none
  | (name, .array items) :: rest =>
      if name == "children".toList then ofJsonAll? items else childrenOf? rest
  | (name, _) :: rest => if name == "children".toList then none else childrenOf? rest

def ofJsonAll? : List Json -> Option (List Tree)
  | [] => some []
  | item :: rest =>
      match ofJson? item, ofJsonAll? rest with
      | some tree, some trees => some (tree :: trees)
      | _, _ => none
end

mutual
/-- The JSON value that describes a tree.  Attributes and children are left out if there are
none. -/
def toJson : Tree -> Json
  | .text payload => .string payload
  | .element tag attributes children =>
      let pairs := attributes.entries.map (fun (name, value) => (name, Json.string value))
      let items := toJsonAll children
      .object <|
        ("tag".toList, Json.string tag) ::
          ((if pairs.isEmpty then [] else [("attrs".toList, Json.object pairs)]) ++
            (if items.isEmpty then [] else [("children".toList, Json.array items)]))

def toJsonAll : List Tree -> List Json
  | [] => []
  | tree :: rest => toJson tree :: toJsonAll rest
end

def read (text : Text) : Option Tree :=
  (Json.read text).bind ofJson?

end Tree
end TreeQuery
