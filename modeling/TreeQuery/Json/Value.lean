import TreeQuery.Text.Basic

/-!
# JSON values

Values as they are written: the members of an object keep their order and may repeat a name.
Numbers are read but not kept, because no description uses one.
-/

namespace TreeQuery

inductive Json where
  | null
  | bool (value : Bool)
  | number
  | string (value : Text)
  | array (items : List Json)
  | object (members : List (Text × Json))
deriving Repr, Inhabited

end TreeQuery
