import TagTree.Collection
import TagTree.Node.Link

/-!
# Editing children

Adding and removing the children of a node. A node with an ability of its own for an operation is
asked to do it; the list of children of any other node is edited here. Whoever is added to a node
gets that node as its parent, and whoever is removed keeps its parent.
-/

namespace TagTree.Tree

open Op

variable {σ : Type}

def editLogger : String := "node_utils.tree.mutator"

/-- The type of a node as messages show it. -/
def typeText (node : Value) : Op σ String := do
  literal ((← heap).attrOrNull node "type")

/-- The first of several capabilities that a value has. -/
def firstCapability (h : Heap) (v : Value) (names : List String) : Option Value :=
  names.findSome? (h.capability v)

/-- Links a node to its new parent and makes sure that the parent has a list of children. -/
def attach (call : Caller σ) (parent node : Value) : Op σ Unit := do
  requireList ((← heap).attrOrNull parent "nodes") "parent.nodes" true
  linkParent call node parent
  if (← heap).attrOrNull parent "nodes" = .null then setAttr parent "nodes" (← new (.list []))

/-- Adds a last child and returns the number of children. -/
def push (call : Caller σ) (parent node : Value) : Op σ Value := do
  requireNode parent "parent"
  requireNode node "node"
  match firstCapability (← heap) parent ["push", "push_node"] with
  | some ability => call ability [node] []
  | none =>
    attach call parent node
    append call (← getAttr parent "nodes") node
    debug editLogger ("Pushed " ++ (← typeText node) ++ " onto " ++ (← typeText parent))
    return .int (← size (← getAttr parent "nodes"))

/-- Adds a first child and returns the number of children. -/
def unshift (call : Caller σ) (parent node : Value) : Op σ Value := do
  requireNode parent "parent"
  requireNode node "node"
  match firstCapability (← heap) parent ["unshift", "unshift_node"] with
  | some ability => call ability [node] []
  | none =>
    attach call parent node
    prepend call (← getAttr parent "nodes") node
    debug editLogger ("Unshifted " ++ (← typeText node) ++ " onto " ++ (← typeText parent))
    return .int (← size (← getAttr parent "nodes"))

/-- Removes and returns the last child, if there is one. -/
def pop (call : Caller σ) (node : Value) : Op σ Value := do
  requireNode node "node"
  match ← capability node "pop" with
  | some ability => call ability [] []
  | none =>
    let nodes := (← heap).attrOrNull node "nodes"
    requireList nodes "node.nodes" true
    if (← heap).truthy nodes then popLast call nodes else return .null

/-- Removes and returns the first child, if there is one. -/
def shift (call : Caller σ) (node : Value) : Op σ Value := do
  requireNode node "node"
  match ← capability node "shift" with
  | some ability => call ability [] []
  | none =>
    let nodes := (← heap).attrOrNull node "nodes"
    requireList nodes "node.nodes" true
    if (← heap).truthy nodes then popAt call nodes 0 else return .null

/-- Removes the first occurrence of a node among the children and returns it, if it is there. -/
def remove (call : Caller σ) (parent node : Value) : Op σ Value := do
  requireNode parent "parent"
  requireNode node "node"
  requireList ((← heap).attrOrNull parent "nodes") "parent.nodes" true
  match ← capability parent "remove" with
  | some ability => call ability [node] []
  | none =>
    let nodes := (← heap).attrOrNull parent "nodes"
    if !(← heap).truthy nodes then return .null
    match (← iterate nodes).idxOf? node with
    | none => return .null
    | some index =>
      debug editLogger ("Removed " ++ (← typeText node) ++ " from " ++ (← typeText parent) ++
        " at " ++ toString index)
      popAt call nodes index

/-- Whether a node is among the children. -/
def has (call : Caller σ) (node child : Value) : Op σ Bool := do
  requireNode node "node"
  requireNode child "child"
  match ← capability node "has" with
  | some ability =>
    let answer ← call ability [child] []
    return (← heap).truthy answer
  | none =>
    let nodes := (← heap).attrOrNull node "nodes"
    if nodes = .null then return false
    requireSequence nodes "node.nodes" false
    return (← iterate nodes).contains child

end TagTree.Tree
