import TagTree.Collection
import TagTree.Guard
import TagTree.Payload

/-!
# Walks

Going through a tree from a node to its children, left to right. A walk looks at the children after
it has dealt with the node, and goes through a list of children as it is at each moment, so what
happens to nodes during the walk has its effect on the rest of it.
-/

namespace TagTree.Walk

open Op

variable {σ : Type}

mutual

/-- Calls a function on a node and then on all nodes below it; returns the node. -/
def visit (call : Caller σ) (fn : Value) : Nat → Value → Op σ Value
  | 0, _ => throw .exhausted
  | fuel + 1, node => do
    requireNode node "node"
    requireFunction fn "fn"
    let _ ← call fn [node] []
    if (← heap).attrOrNull node "nodes" = .null then return node
    else visitChildren call fn fuel node

/-- Calls a function on all nodes below a node; returns the node. -/
def visitChildren (call : Caller σ) (fn : Value) : Nat → Value → Op σ Value
  | 0, _ => throw .exhausted
  | fuel + 1, node => do
    requireNode node "node"
    requireFunction fn "fn"
    let nodes := (← heap).attrOrNull node "nodes"
    if nodes = .null then return node
    requireSequence nodes "node.nodes" false
    visitItems call fn fuel nodes 0
    return node

/-- Visits the items of a sequence from an index on. -/
def visitItems (call : Caller σ) (fn : Value) : Nat → Value → Nat → Op σ Unit
  | 0, _, _ => throw .exhausted
  | fuel + 1, nodes, index => do
    match ← itemAt? nodes index with
    | none => return ()
    | some child =>
      let _ ← visit call fn fuel child
      visitItems call fn fuel nodes (index + 1)

end

mutual

/-- Whether a node carries no content: all its children carry none or, for a node without children
to speak of, the predicate holds. Without a predicate a payload that counts as false will do. -/
def isEmpty (call : Caller σ) (predicate : Value) : Nat → Value → Op σ Bool
  | 0, _ => throw .exhausted
  | fuel + 1, node => do
    requireNode node "node"
    if predicate ≠ .null then requireFunction predicate "predicate"
    let nodes := (← heap).attrOrNull node "nodes"
    requireSequence nodes "node.nodes" true
    if nodes ≠ .null then allEmpty call predicate fuel nodes 0
    else if predicate ≠ .null then
      let answer ← call predicate [node] []
      return (← heap).truthy answer
    else
      let v ← Payload.value node
      return !(← heap).truthy v

/-- Whether the items of a sequence from an index on all carry no content. -/
def allEmpty (call : Caller σ) (predicate : Value) : Nat → Value → Nat → Op σ Bool
  | 0, _, _ => throw .exhausted
  | fuel + 1, nodes, index => do
    match ← itemAt? nodes index with
    | none => return true
    | some child =>
      if ← isEmpty call predicate fuel child then allEmpty call predicate fuel nodes (index + 1)
      else return false

end

end TagTree.Walk
