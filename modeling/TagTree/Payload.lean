import TagTree.Guard
import TagTree.Invoke

/-!
# Payloads and output sinks

The payload of a node is its value, or an older attribute that takes its place. A sink receives
texts together with the nodes they come from.
-/

namespace TagTree.Payload

open Op

variable {σ : Type}

/-- The payload of a node. -/
def value (node : Value) : Op σ Value := do
  requireNode node "node"
  let h ← heap
  let v := h.attrOrNull node "value"
  return if h.truthy v then v else h.attrOrNull node "val"

/-- Sends the payload of a node to a sink. -/
def identity (call : Caller σ) (sink node : Value) : Op σ Value := do
  let v ← value node
  sendTo call sink (if (← heap).truthy v then v else .str "") node

/-- Sends the empty text to a sink on behalf of a node. -/
def noop (call : Caller σ) (sink node : Value) : Op σ Value := do
  requireNode node "node"
  sendTo call sink (.str "") node

/-- A function that sends a fixed text to a sink, whatever the node. -/
def handler (text : Value) : Op σ Value :=
  new (.entity ⟨.handler text, [], .absent⟩)

/-- Replaces the children of a node if a list is given. Otherwise turns the node into an empty text
node in place. -/
def neutralise (node nodes : Value) : Op σ Unit := do
  requireNode node "node"
  if nodes ≠ .null then
    requireList nodes "nodes" false
    setAttr node "nodes" nodes
  else
    if ((← heap).attr? node "nodes").isSome then setAttr node "nodes" .null
    setAttr node "type" (.str "text")
    setAttr node "value" (.str "")
    if ((← heap).attr? node "val").isSome then setAttr node "val" (.str "")

end TagTree.Payload
