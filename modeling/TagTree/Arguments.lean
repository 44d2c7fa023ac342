import TagTree.World

/-!
# Arguments

Matching the arguments of a call to the parameters of what is called.
-/

namespace TagTree

/-- The parameters of a function, in order. A parameter with a default may be left out. -/
structure Signature where
  parameters : List (String × Option Value)
  deriving Inhabited

namespace Signature

/-- Parameters that must all be given. -/
def required (names : List String) : Signature :=
  ⟨names.map fun name ↦ (name, none)⟩

/-- Adds parameters that are null if they are left out. -/
def orNull (s : Signature) (names : List String) : Signature :=
  ⟨s.parameters ++ names.map fun name ↦ (name, some .null)⟩

/-- Adds a parameter with a default. -/
def orElse (s : Signature) (name : String) (default : Value) : Signature :=
  ⟨s.parameters ++ [(name, some default)]⟩

/-- Puts a parameter that must be given in front. -/
def after (s : Signature) (name : String) : Signature :=
  ⟨(name, none) :: s.parameters⟩

/-- Gives each parameter its argument, positional ones first. Too many arguments, unknown names and
parameters given twice or not at all are refused. -/
def assign : List (String × Option Value) → List Value → Table Value →
    Except Fault (List Value)
  | [], [], [] => .ok []
  | [], _, _ => .error .unsupported
  | (name, _) :: rest, arg :: args, named =>
    if Table.contains named name then .error .unsupported
    else do return arg :: (← assign rest args named)
  | (name, default) :: rest, [], named =>
    match Table.get? named name, default with
    | some arg, _ => do return arg :: (← assign rest [] (Table.erase named name))
    | none, some v => do return v :: (← assign rest [] named)
    | none, none => .error .unsupported

/-- The arguments of a call in the order of the parameters. -/
def bind (s : Signature) (args : List Value) (named : Table Value) : Except Fault (List Value) :=
  assign s.parameters args named

end Signature

end TagTree
