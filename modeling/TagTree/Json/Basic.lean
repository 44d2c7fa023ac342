import TagTree.Decimal.Binary64
import TagTree.Table

/-!
# JSON values

Documents of the JSON data format. Whole numbers are kept apart from numbers written with a point or
an exponent, and the members of an object keep their order.
-/

namespace TagTree

/-- A JSON document. -/
inductive Json
  | null
  | bool (b : Bool)
  | int (n : Int)
  | float (x : Binary64)
  | str (s : String)
  | arr (items : List Json)
  | obj (members : List (String × Json))
  deriving Repr, Inhabited

namespace Json

/-- The value of a member of an object. -/
def member? (key : String) : Json → Option Json
  | .obj members => Table.get? members key
  | _ => none

end Json

end TagTree
