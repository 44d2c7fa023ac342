import TagTree.Equality
import TagTree.Fault

/-!
# Numbers as values

Whole numbers and floating point numbers in each other's place. Truth values count as zero and one.
-/

namespace TagTree.Value

/-- The floating point number that a value stands for. -/
def toFloating (v : Value) : Except Fault Binary64 :=
  match v with
  | .float x => .ok x
  | _ =>
    match v.toInt? with
    | none => .error .unsupported
    | some n =>
      let x := Binary64.ofDecimal (n < 0) n.natAbs 0
      if x.isInfinite then .error .hugeNumber else .ok x

/-- The sum of two numbers of which at least one need not be whole. -/
def floatingSum (v w : Value) : Except Fault Value := do
  let x ← v.toFloating
  let y ← w.toFloating
  return .float (Binary64.ofFloat (x.toFloat + y.toFloat))

end TagTree.Value
