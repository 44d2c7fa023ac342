import TagTree.Edit
import TagTree.Node.Ability

/-!
# Sentinels

A block is a node whose children are enclosed by two sentinels: nodes whose types are the type of
the block with the open suffix and with the close suffix. Here sentinels are made, and nodes are
asked whether they are sentinels or blocks.
-/

namespace TagTree.Sentinel

open Op

variable {σ : Type}

def sentinelLogger : String := "node_utils.tree.brackets"

/-- The payload and the filter: a function in place of the payload is the filter. -/
def payloadAndFilter (h : Heap) (value filter : Value) : Value × Value :=
  if h.callable value then (.str "", value)
  else (if value = .null then .str "" else value, filter)

/-- Makes a sentinel with the given suffix for a node, unless the filter rejects the node. -/
def make (call : Caller σ) (node factory suffix value filter : Value) : Op σ Value := do
  requireNode node "node"
  requireFunction factory "factory"
  requireTypeName node "node.type"
  let (payload, filter) := payloadAndFilter (← heap) value filter
  let accepted ←
    if filter = .null then pure true
    else do
      let answer ← call filter [node] []
      pure ((← heap).truthy answer)
  if accepted then
    let type ← Smart.joinSuffix (← getAttr node "type") suffix
    call factory [] [("type", type), ("value", payload)]
  else
    let type ← literal (← getAttr node "type")
    debug sentinelLogger ("Filter skipped " ++ (← text suffix) ++ " sentinel for " ++ type)
    return .null

/-- Adds an open sentinel in front of the children and returns it, or null if the filter rejected
the node. -/
def addOpen (call : Caller σ) (node factory value filter : Value) : Op σ Value := do
  let sentinel ← make call node factory (← openSuffix) value filter
  if sentinel ≠ .null then
    let _ ← Tree.unshift call node sentinel
  return sentinel

/-- Adds a close sentinel behind the children and returns it, or null if the filter rejected the
node. -/
def addClose (call : Caller σ) (node factory value filter : Value) : Op σ Value := do
  let sentinel ← make call node factory (← closeSuffix) value filter
  if sentinel ≠ .null then
    let _ ← Tree.push call node sentinel
  return sentinel

/-- Encloses the children of a node by sentinels and returns the node. -/
def wrap (call : Caller σ) (node factory filter : Value) : Op σ Value := do
  requireNode node "node"
  requireFunction factory "factory"
  let _ ← addOpen call node factory .null filter
  let _ ← addClose call node factory .null filter
  return node

/-! ## Classification -/

/-- The capability of the parent of a node, or else of the node itself. -/
def judge? (h : Heap) (node : Value) (name : String) : Option Value :=
  (h.capability (h.attrOrNull node "parent") name).or (h.capability node name)

/-- Whether a node is a sentinel with the given suffix, as its parent or the node itself sees it,
and by its type where neither has a view. -/
def classify (call : Caller σ) (node : Value) (name : String) (suffix : Value) : Op σ Bool := do
  requireNode node "node"
  match judge? (← heap) node name with
  | some ability =>
    let answer ← call ability [node] []
    return (← heap).truthy answer
  | none =>
    let type := (← heap).attrOrNull node "type"
    require (type = .null || isText type) "node.type" .string
    if (← heap).truthy type then Smart.endsWith type suffix else return false

def isOpen (call : Caller σ) (node : Value) : Op σ Bool := do
  classify call node "is_open" (← openSuffix)

def isClose (call : Caller σ) (node : Value) : Op σ Bool := do
  classify call node "is_close" (← closeSuffix)

/-- The first or last child of a node, or null. -/
def edgeChild (node : Value) (atEnd : Bool) : Op σ Value := do
  let name := if atEnd then "last" else "first"
  let known ← getAttrOrNull node name
  let child ←
    if known ≠ .null then pure known
    else do
      let h ← heap
      let nodes := h.attrOrNull node "nodes"
      requireSequence nodes "node.nodes" true
      if h.truthy nodes then fromExcept (h.edgeItem atEnd nodes) else pure .null
  if child ≠ .null then requireNode child name
  return child

/-- Whether the first or last child is the node's sentinel with the given suffix. -/
def hasSentinel (call : Caller σ) (node : Value) (atEnd : Bool) (name : String)
    (suffix : Op σ Value) : Op σ Bool := do
  requireNode node "node"
  let child ← edgeChild node atEnd
  if child = .null then return false
  match ← capability node name with
  | some ability =>
    let answer ← call ability [child] []
    return (← heap).truthy answer
  | none =>
    let type ← text (← getAttr node "type")
    let suffix ← text (← suffix)
    Smart.hasTypeEqual child (.str (type ++ suffix))

def hasOpen (call : Caller σ) (node : Value) : Op σ Bool :=
  hasSentinel call node false "is_open" openSuffix

def hasClose (call : Caller σ) (node : Value) : Op σ Bool :=
  hasSentinel call node true "is_close" closeSuffix

def hasOpenAndClose (call : Caller σ) (node : Value) : Op σ Bool := do
  if ← hasOpen call node then hasClose call node else return false

/-- Whether a node is a block, as its parent or the node itself sees it, and by its children where
neither has a view. -/
def isBlock (call : Caller σ) (node : Value) : Op σ Bool := do
  requireNode node "node"
  requireSequence ((← heap).attrOrNull node "nodes") "node.nodes" true
  match judge? (← heap) node "is_block" with
  | some ability =>
    let answer ← call ability [node] []
    return (← heap).truthy answer
  | none => hasOpenAndClose call node

end TagTree.Sentinel
