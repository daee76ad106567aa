import TreeQuery.Document.Dictionary

/-!
# Attributes

The attributes of an element.  The letters `A` to `Z` in a name count as the small ones, so names
are folded when an attribute is set and when it is looked up.
-/

namespace TreeQuery

/-- The values of attributes under their names, all of which are folded. -/
structure Attributes where
  values : Dictionary
  folded : forall entry, entry ∈ values.entries -> Text.foldAscii entry.1 = entry.1
deriving DecidableEq, Repr

namespace Attributes

def empty : Attributes := ⟨.empty, by simp [Dictionary.empty]⟩

instance : Inhabited Attributes := ⟨empty⟩

def set (attributes : Attributes) (name value : Text) : Attributes where
  values := attributes.values.insert (Text.foldAscii name) value
  folded := by
    intro entry member
    rcases mem_enter member with rfl | member
    · exact Text.foldAscii_foldAscii name
    · exact attributes.folded entry member

def get? (attributes : Attributes) (name : Text) : Option Text :=
  attributes.values.get? (Text.foldAscii name)

def contains (attributes : Attributes) (name : Text) : Bool :=
  (attributes.get? name).isSome

def toList (attributes : Attributes) : List (Text × Text) :=
  attributes.values.entries

def names (attributes : Attributes) : List Text :=
  attributes.toList.map Prod.fst

def size (attributes : Attributes) : Nat :=
  attributes.toList.length

def isEmpty (attributes : Attributes) : Bool :=
  attributes.toList.isEmpty

def ofList (pairs : List (Text × Text)) : Attributes :=
  pairs.foldl (fun attributes (name, value) => attributes.set name value) empty

end Attributes
end TreeQuery
