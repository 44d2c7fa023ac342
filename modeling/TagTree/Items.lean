import TagTree.Collection
import TagTree.Guard
import TagTree.Settings.Active

/-!
# Items and texts

Small conversions between values, lists and texts.
-/

namespace TagTree.Items

open Op

variable {σ : Type}

/-- The items that a value stands for: a text that is not empty, the items of a list or tuple, or
none. -/
def itemsOf (h : Heap) : Value → List Value
  | .str s => if s.isEmpty then [] else [.str s]
  | v => (h.sequence? v).getD []

/-- A new list of the items that a value stands for. -/
def arrayify (v : Value) : Op σ Value := do
  new (.list (itemsOf (← heap) v))

/-- The texts of the items that a value stands for, with the configured separator between them. A
separator that is no text is asked to join them itself, one by one as it needs them. -/
def stringify (call : Caller σ) (v : Value) : Op σ Value := do
  match ← setting "join_separator" with
  | .str separator =>
    let texts ← (itemsOf (← heap) v).mapM text
    return .str (Heap.joinTexts separator texts)
  | separator => callAttr call separator "join" [.inert "generator"]

/-- A text without the blanks at its ends; the empty text for anything else. -/
def trim : Value → Value
  | .str s => .str (Text.trim s)
  | _ => .str ""

/-- The `n`-th item of a list or tuple from the end, or null. A count that counts as false is
one. -/
def last (v n : Value) : Op σ Value := do
  let h ← heap
  match h.sequence? v with
  | none => return .null
  | some items =>
    let n := if h.truthy n then n else .int 1
    match n with
    | .float x =>
      let place := Float.ofNat items.length - x.toFloat
      if 0 ≤ place && place < Float.ofNat items.length then throw .unsupported else return .null
    | _ =>
      match n.toInt? with
      | none => throw .unsupported
      | some k =>
        let place := (items.length : Int) - k
        return if 0 ≤ place then items[place.toNat]?.getD .null else .null

/-- The last child of a node whose children are a list, or null. -/
def lastNode (node : Value) : Op σ Value := do
  requireNode node "node"
  let h ← heap
  return ((h.list? (h.attrOrNull node "nodes")).bind (·.getLast?)).getD .null

end TagTree.Items
