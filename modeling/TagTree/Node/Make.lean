import TagTree.Arguments
import TagTree.Node.Ability

/-!
# Making nodes

A smart node takes its children from a list, one after the other, and becomes the parent of each.
Names beyond those it knows become attributes of its own and are remembered as such, unless they
would hide something that every smart node has. A plain node keeps what it is given.
-/

namespace TagTree.Node

open Op

variable {σ : Type}

/-- What a smart node is made from. -/
structure Parts where
  type : Value
  value : Value := .null
  val : Value := .null
  nodes : Value := .null
  parent : Value := .null
  extra : Table Value := []

/-- The names that no extra attribute of a smart node can have, besides those that begin with a low
line. -/
def reservedNames : List String :=
  ["is_node", "parent", "children", "first", "last", "define", "push", "unshift", "pop", "shift",
   "remove", "has", "is_open", "is_close", "is_block", "to_dict", "from_dict", "mro"]

def isReserved (name : String) : Bool :=
  name.toList.head? == some '_' || reservedNames.contains name

/-- Adds the items of a list, as it is at each moment, to the children of a node. -/
def addChildren (call : Caller σ) (self nodes : Value) : Nat → Nat → Op σ Unit
  | 0, _ => throw .exhausted
  | fuel + 1, index => do
    match ← itemAt? nodes index with
    | none => return ()
    | some child =>
      let _ ← Smart.push call self child
      addChildren call self nodes fuel (index + 1)

/-- Makes a smart node. Nothing is made if the type is no text or an extra name is reserved. -/
def smart (call : Caller σ) (parts : Parts) : Op σ Value := do
  if !isText parts.type then throw (.argument (.expected "type" .string) (.str "type"))
  match parts.extra.find? fun entry ↦ isReserved entry.1 with
  | some (name, _) => throw (.argument (.reserved name) (.str name))
  | none => pure ()
  let keys ← new (.list (parts.extra.map fun entry ↦ .str entry.1))
  let attrs : Table Value :=
    [("type", parts.type), ("value", if parts.value = .null then parts.val else parts.value),
     ("nodes", .null), ("_extra_keys", keys)] ++ parts.extra
  let self ← new (.entity ⟨.smart, attrs, .absent⟩)
  if parts.nodes ≠ .null then
    requireList parts.nodes "nodes" false
    setAttr self "nodes" (← new (.list []))
    -- What is asked on the way may change the list.
    addChildren call self parts.nodes ((← size parts.nodes) + walkDepth) 0
  if parts.parent ≠ .null then setAttr self "parent" parts.parent
  return self

/-- The named arguments of a smart node that are not extra. -/
def knownNames : List String :=
  ["type", "value", "nodes", "val", "parent"]

/-- What a smart node is to be made from, by the arguments of a call. -/
def smartParts (args : List Value) (named : Table Value) : Except Fault Parts := do
  if Table.contains named "self" ∨ 2 < args.length then .error .unsupported
  let known := named.filter fun entry ↦ knownNames.contains entry.1
  let extra := named.filter fun entry ↦ !knownNames.contains entry.1
  let bound ←
    ((Signature.required ["type"]).orNull ["value", "nodes", "val", "parent"]).bind args known
  match bound with
  | [type, value, nodes, val, parent] => return { type, value, val, nodes, parent, extra }
  | _ => .error .unsupported

/-- Makes a plain node from the arguments of a call. -/
def plain (args : List Value) (named : Table Value) : Op σ Value := do
  if 2 < args.length then throw .unsupported
  let signature := (Signature.required ["type"]).orNull ["value", "val", "nodes", "parent"]
  let names := signature.parameters.map Prod.fst
  let bound ← fromExcept (signature.bind args named)
  new (.entity ⟨.plain, names.zip bound, .absent⟩)

/-- Makes a nesting state from the arguments of a call. -/
def nestingState (args : List Value) (named : Table Value) : Op σ Value := do
  let bound ← fromExcept (((Signature.required []).orNull ["inside"]).bind args named)
  new (.entity ⟨.nesting, ["inside"].zip bound, .absent⟩)

end TagTree.Node
