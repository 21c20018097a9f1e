import ComposeCluster.SortedMap
import ComposeCluster.Decimal.Binary64

/-!
# JSON values

The value model that compose documents, settings and cluster objects share. A number is a whole
number or a finite floating-point one, and the two are told apart by how they were written. The
members of an object are listed by ascending key; `Json.object` is the way to build one.
-/

set_option autoImplicit false

namespace ComposeCluster

/-- A JSON value. -/
inductive Json where
  | null
  | bool (value : Bool)
  | int (value : Int)
  | float (value : Binary64)
  | str (value : String)
  | arr (items : List Json)
  | obj (members : List (String × Json))
  deriving Inhabited

namespace Json

/-- The object with the given members; of two with one key the later one stays. -/
def object (members : List (String × Json)) : Json :=
  .obj (sortEntries members)

/-- The object that lists the entries of a map. -/
def ofMap {α : Type} (value : α → Json) (map : SortedMap String α) : Json :=
  .obj (map.entries.map fun entry => (entry.1, value entry.2))

/-- The member of an object. -/
def get? (key : String) : Json → Option Json
  | .obj members => findEntry key members
  | _ => none

/-- The word for the kind of a value in messages. -/
def kind : Json → String
  | .null => "null"
  | .bool _ => "bool"
  | .int _ => "number"
  | .float _ => "number"
  | .str _ => "string"
  | .arr _ => "list"
  | .obj _ => "mapping"

end Json

end ComposeCluster
