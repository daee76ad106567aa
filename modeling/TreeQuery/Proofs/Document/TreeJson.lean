import TreeQuery.Document.TreeJson
import TreeQuery.Proofs.Document.Attributes
import TreeQuery.Proofs.Json.Writers

/-!
# Trees are read back

The JSON value of a tree leaves out what is empty, and what is left out is taken to be empty.  So
every tree is the one that its value describes, and a tree or a list of trees that was written is
read back unless its value nests too deep.
-/

namespace TreeQuery
namespace Tree

/-! # Values -/

theorem attributes?_strings (pairs : List (Text × Text)) (attributes : Dictionary) :
    attributes? (pairs.map (fun (name, value) => (name, Json.string value))) attributes =
      some (pairs.foldl (fun dictionary (name, value) => dictionary.insert name value)
        attributes) := by
  induction pairs generalizing attributes with
  | nil => rfl
  | cons pair rest ih => exact ih _

theorem attributes?_entries (attributes : Dictionary) :
    attributes? (attributes.entries.map (fun (name, value) => (name, Json.string value))) .empty =
      some attributes := by
  rw [attributes?_strings]
  exact congrArg some attributes.ofList_entries

/-- An object is read as an element whether or not its empty members are left out. -/
theorem ofJson?_object {tag : Text} {pairs : List (Text × Json)} {items : List Json}
    {attributes : Dictionary} {children : List Tree}
    (hpairs : attributes? pairs .empty = some attributes)
    (hitems : ofJsonAll? items = some children) :
    ofJson? (.object (("tag".toList, Json.string tag) ::
      ((if pairs.isEmpty then [] else [("attrs".toList, Json.object pairs)]) ++
        (if items.isEmpty then [] else [("children".toList, Json.array items)])))) =
      some (.element tag attributes children) := by
  cases pairs with
  | nil =>
      cases hpairs
      cases items with
      | nil =>
          cases hitems
          rfl
      | cons item items => simp [ofJson?, valuesOf, childrenOf?, hitems]
  | cons pair pairs =>
      cases items with
      | nil =>
          cases hitems
          simp [ofJson?, valuesOf, hpairs]
      | cons item items => simp [ofJson?, valuesOf, childrenOf?, hpairs, hitems]

mutual

theorem ofJson?_toJson : forall tree : Tree, ofJson? tree.toJson = some tree
  | .text payload => rfl
  | .element _ attributes children => by
      rw [toJson]
      exact ofJson?_object (attributes?_entries attributes) (ofJsonAll?_toJsonAll children)

theorem ofJsonAll?_toJsonAll :
    forall trees : List Tree, ofJsonAll? (toJsonAll trees) = some trees
  | [] => rfl
  | tree :: rest => by
      rw [toJsonAll, ofJsonAll?, ofJson?_toJson tree, ofJsonAll?_toJsonAll rest]

end

theorem toJsonAll_eq (trees : List Tree) : toJsonAll trees = trees.map toJson := by
  induction trees with
  | nil => rfl
  | cons tree rest ih => rw [toJsonAll, ih, List.map_cons]

/-! # Texts -/

def readAll (text : Text) : Option (List Tree) :=
  match Json.read text with
  | some (.array items) => ofJsonAll? items
  | _ => none

theorem read_compact {tree : Tree} (h : tree.toJson.depth <= Json.maxDepth) :
    read (Json.compact tree.toJson) = some tree := by
  rw [read, Json.read_compact h]
  exact ofJson?_toJson tree

theorem readAll_pretty {trees : List Tree}
    (h : (Json.array (trees.map toJson)).depth <= Json.maxDepth) {ending : Text}
    (hending : Json.Blank ending) :
    readAll (Json.pretty (.array (trees.map toJson)) ++ ending) = some trees := by
  rw [readAll, Json.read_pretty h hending, ← toJsonAll_eq]
  exact ofJsonAll?_toJsonAll trees

end Tree
end TreeQuery
