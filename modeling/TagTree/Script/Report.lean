import TagTree.Fault
import TagTree.Heap
import TagTree.Json.Basic

/-!
# Reports

What is shown of values and objects after a step. Objects with attributes are shown by name, and
their attributes are shown once for each time they change.
-/

namespace TagTree.Script

/-- What is shown of a value. -/
inductive Shown
  | null
  | bool (b : Bool)
  | int (n : Int)
  | float (x : Binary64)
  | str (s : String)
  | list (items : List Shown)
  | tuple (items : List Shown)
  | set (items : List Shown)
  | dict (entries : List (Shown × Shown))
  | pattern (source : String)
  | ref (name : String)
  | settings (fields : List (String × Shown))
  | callback (id : Json)
  | handler
  | maker (m : Maker)
  /-- Anything else, by the name of its type. -/
  | other (typeName : String)
  deriving Inhabited

/-- The kinds of objects that have names. -/
inductive NamedKind
  | smart
  | plain
  | record
  | nesting
  | slot
  deriving DecidableEq, Repr

/-- What is shown of a named object. -/
inductive Rendering
  | entity (kind : NamedKind) (attrs : List (String × Shown))
  | plain (shown : Shown)
  deriving Inhabited

/-- A call of a scripted function. -/
structure CallReport where
  id : Json
  args : List Shown
  named : List (String × Shown)

/-- A failure; of an argument that is to blame its name is shown. -/
structure Failure where
  fault : Fault
  argument : Shown

/-- What is shown after a step. -/
structure Answer where
  outcome : Except Failure Shown
  calls : List CallReport
  changes : List (String × Rendering)
  log : List String

/-! ## Comparing what is shown -/

/-- Whether two documents are the same. -/
def sameJson : Json → Json → Bool
  | .null, .null => true
  | .bool a, .bool b => a == b
  | .int a, .int b => a == b
  | .float a, .float b => a == b
  | .str a, .str b => a == b
  | .arr as, .arr bs => sameItems as bs
  | .obj as, .obj bs => sameMembers as bs
  | _, _ => false
where
  sameItems : List Json → List Json → Bool
    | [], [] => true
    | a :: as, b :: bs => sameJson a b && sameItems as bs
    | _, _ => false
  sameMembers : List (String × Json) → List (String × Json) → Bool
    | [], [] => true
    | (k, a) :: as, (l, b) :: bs => k == l && sameJson a b && sameMembers as bs
    | _, _ => false

/-- Whether the same is shown of two values. -/
def Shown.same : Shown → Shown → Bool
  | .null, .null => true
  | .bool a, .bool b => a == b
  | .int a, .int b => a == b
  | .float a, .float b => a == b
  | .str a, .str b => a == b
  | .list as, .list bs => sameAll as bs
  | .tuple as, .tuple bs => sameAll as bs
  | .set as, .set bs => sameAll as bs
  | .dict as, .dict bs => samePairs as bs
  | .pattern a, .pattern b => a == b
  | .ref a, .ref b => a == b
  | .settings as, .settings bs => sameFields as bs
  | .callback a, .callback b => sameJson a b
  | .handler, .handler => true
  | .maker a, .maker b => a == b
  | .other a, .other b => a == b
  | _, _ => false
where
  sameAll : List Shown → List Shown → Bool
    | [], [] => true
    | a :: as, b :: bs => a.same b && sameAll as bs
    | _, _ => false
  samePairs : List (Shown × Shown) → List (Shown × Shown) → Bool
    | [], [] => true
    | (k, a) :: as, (l, b) :: bs => k.same l && a.same b && samePairs as bs
    | _, _ => false
  sameFields : List (String × Shown) → List (String × Shown) → Bool
    | [], [] => true
    | (k, a) :: as, (l, b) :: bs => k == l && a.same b && sameFields as bs
    | _, _ => false

def Rendering.same : Rendering → Rendering → Bool
  | .entity k as, .entity l bs => k == l && Shown.same.sameFields as bs
  | .plain a, .plain b => a.same b
  | _, _ => false

end TagTree.Script
