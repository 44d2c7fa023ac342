import TagTree.Attribute

/-!
# Guards

Checks of arguments. Each operation makes them before it changes anything, and a check that fails
says which argument it is about.
-/

namespace TagTree.Op

variable {σ : Type}

/-- Requires a condition on the argument of the given name. -/
def require (condition : Bool) (label : String) (shape : Shape) : Op σ Unit :=
  if condition then pure () else throw (.argument (.expected label shape) (.str label))

def requireNode (v : Value) (label : String) : Op σ Unit := do
  require ((← heap).isNode v) label .node

def requireFunction (v : Value) (label : String) : Op σ Unit := do
  require ((← heap).callable v) label .function

def requireState (v : Value) (label : String) : Op σ Unit := do
  require ((← heap).isState v) label .object

/-- Requires a list, or null where that is allowed. -/
def requireList (v : Value) (label : String) (orNull : Bool) : Op σ Unit := do
  require (((← heap).list? v).isSome || (orNull && v == .null)) label .array

/-- Requires a list or tuple, or null where that is allowed. -/
def requireSequence (v : Value) (label : String) (orNull : Bool) : Op σ Unit := do
  require (((← heap).sequence? v).isSome || (orNull && v == .null)) label .array

def isText : Value → Bool
  | .str _ => true
  | _ => false

/-- Requires the type of a node to be a text. -/
def requireTypeName (v : Value) (label : String) : Op σ Unit := do
  require (isText ((← heap).attrOrNull v "type")) label .string

end TagTree.Op
