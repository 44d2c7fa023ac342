import TagTree.Guard

/-!
# Linking children to parents

A child that can be told about its parent is told; the parent of any other child is an attribute
that is assigned.
-/

namespace TagTree.Op

variable {σ : Type}

/-- Makes a value the parent of a child. -/
def linkParent (call : Caller σ) (child parent : Value) : Op σ Unit := do
  match ← capability child "define" with
  | some define => let _ ← call define [.str "parent", parent] []
  | none => setAttr child "parent" parent

end TagTree.Op
