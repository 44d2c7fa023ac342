import TagTree.Collection
import TagTree.Node.Link
import TagTree.Number
import TagTree.Settings.Active

/-!
# Abilities of smart nodes

What a smart node does when it is asked itself: editing its children, and telling whether a node is
one of its sentinels. All functions take the node that they belong to.
-/

namespace TagTree.Smart

open Op

variable {σ : Type}

/-- The children, as they are: null, or usually a list. -/
def children (self : Value) : Op σ Value :=
  getAttr self "nodes"

/-- Assigns an attribute of the node; its parent too can be assigned this way. -/
def define (self : Value) (name x : Value) : Op σ Value := do
  match name with
  | .str name =>
    setAttr self name x
    return self
  | _ => throw .unsupported

/-- Becomes the parent of a node and makes sure that there is a list of children. -/
def adopt (call : Caller σ) (self : Value) (node : Value) : Op σ Unit := do
  requireNode node "node"
  linkParent call node self
  if (← children self) = .null then setAttr self "nodes" (← new (.list []))

/-- Adds a last child and returns their number. -/
def push (call : Caller σ) (self : Value) (node : Value) : Op σ Value := do
  adopt call self node
  append call (← children self) node
  return .int (← size (← children self))

/-- Adds a first child and returns their number. -/
def unshift (call : Caller σ) (self : Value) (node : Value) : Op σ Value := do
  adopt call self node
  prepend call (← children self) node
  return .int (← size (← children self))

/-- Removes and returns the last child, if there is one. -/
def pop (call : Caller σ) (self : Value) : Op σ Value := do
  let nodes ← children self
  if (← heap).truthy nodes then popLast call nodes else return .null

/-- Removes and returns the first child, if there is one. -/
def shift (call : Caller σ) (self : Value) : Op σ Value := do
  let nodes ← children self
  if (← heap).truthy nodes then popAt call nodes 0 else return .null

/-- Removes and returns the first occurrence of a node among the children. -/
def remove (call : Caller σ) (self : Value) (node : Value) : Op σ Value := do
  let nodes ← children self
  if !(← heap).truthy nodes then return .null
  match (← iterate nodes).findIdx? node.identical with
  | some index => popAt call nodes index
  | none => return .null

/-- Whether a node is among the children. -/
def has (self : Value) (node : Value) : Op σ Bool := do
  let nodes ← children self
  if !(← heap).truthy nodes then return false
  return (← iterate nodes).any node.identical

/-! ## Sentinels -/

/-- Whether a type ends in a suffix; several suffixes may be given in a tuple. -/
def endsWith (type suffix : Value) : Op σ Bool := do
  match type with
  | .str t =>
    match suffix with
    | .str s => return s.toList.isSuffixOf t.toList
    | _ =>
      match (← heap).object? suffix with
      | some (.tuple items) =>
        items.anyM fun item ↦
          match item with
          | .str s => return s.toList.isSuffixOf t.toList
          | _ => throw .unsupported
      | _ => throw .unsupported
  | _ => throw .missingAttribute

/-- A type with a suffix behind it. What is no text is added in its own way: numbers are summed up,
and the items of a list or tuple follow those of another one. -/
def joinSuffix (type suffix : Value) : Op σ Value := do
  match type, suffix with
  | .str t, .str s => return .str (t ++ s)
  | .float _, _ | _, .float _ => fromExcept (type.floatingSum suffix)
  | _, _ =>
    match type.toInt?, suffix.toInt? with
    | some m, some n => return .int (m + n)
    | _, _ =>
      let h ← heap
      match h.object? type, h.object? suffix with
      | some (.list items), some (.list others) => new (.list (items ++ others))
      | some (.tuple items), some (.tuple others) => new (.tuple (items ++ others))
      | _, _ => throw .unsupported

/-- Whether the type of a value equals another value. -/
def hasTypeEqual (v type : Value) : Op σ Bool := do
  let h ← heap
  return h.equal walkDepth (h.attrOrNull v "type") type

/-- Whether a node is this node's sentinel with the given suffix; of itself a node tells whether it
is such a sentinel of any node. -/
def isSentinel (self : Value) (node suffix : Value) : Op σ Bool := do
  let type ← getAttr self "type"
  if node = self then endsWith type suffix
  else hasTypeEqual node (← joinSuffix type suffix)

/-- What a node answers when it is asked for its sentinel with the given suffix. A type that is no
text is asked itself. -/
def answer (call : Caller σ) (self : Value) (node suffix : Value) : Op σ Value := do
  let type ← getAttr self "type"
  if node = self ∧ !isText type then callAttr call type "endswith" [suffix]
  else return .bool (← isSentinel self node suffix)

def isOpen (call : Caller σ) (self : Value) (node : Value) : Op σ Value := do
  answer call self node (← openSuffix)

def isClose (call : Caller σ) (self : Value) (node : Value) : Op σ Value := do
  answer call self node (← closeSuffix)

/-- Whether the children of a node begin with its open sentinel and end with its close sentinel. -/
def isBlock (node : Value) : Op σ Bool := do
  let h ← heap
  let nodes := h.attrOrNull node "nodes"
  if !h.truthy nodes then return false
  let first ← fromExcept (h.edgeItem false nodes)
  if ← hasTypeEqual first (← joinSuffix (← getAttr node "type") (← openSuffix)) then
    let last ← fromExcept (h.edgeItem true nodes)
    hasTypeEqual last (← joinSuffix (← getAttr node "type") (← closeSuffix))
  else return false

end TagTree.Smart
