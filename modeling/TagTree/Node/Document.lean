import TagTree.Node.Make

/-!
# Trees as documents

A tree of nodes can be turned into nested mappings and lists and back. A mapping has the type of a
node, its payload unless that is null, the extra attributes, and the children unless there are
none to speak of.
-/

namespace TagTree.Document

open Op

variable {σ : Type}

/-- Applies an operation to the items of a list, as it is at each moment, and collects the
results. -/
def mapItems (f : Value → Op σ Value) (nodes : Value) : Nat → Nat → Op σ (List Value)
  | 0, _ => throw .exhausted
  | fuel + 1, index => do
    match ← itemAt? nodes index with
    | none => return []
    | some item =>
      let first ← f item
      return first :: (← mapItems f nodes fuel (index + 1))

/-- Applies an operation to everything that is met when going through a value. -/
def mapAll (fuel : Nat) (f : Value → Op σ Value) (nodes : Value) : Op σ (List Value) := do
  match (← heap).sequence? nodes with
  | some _ => mapItems f nodes fuel 0
  | none => (← iterate nodes).mapM f

/-- Gives a key a value: it keeps its place if it has one, and comes last otherwise. -/
def putEntry (key v : Value) : List (Value × Value) → List (Value × Value)
  | [] => [(key, v)]
  | (k, x) :: rest => if k = key then (k, v) :: rest else (k, x) :: putEntry key v rest

/-- The mapping with the given entries and, if there are any, the children. -/
def withNodes (entries : List (Value × Value)) (nodes : Option (List Value)) : Op σ Value := do
  match nodes with
  | none => new (.dict entries)
  | some items =>
    let list ← new (.list items)
    new (.dict (putEntry (.str "nodes") list entries))

/-- The mapping of a child: its own, if it can make one, and otherwise one of its type, payload and
children. -/
def ofChild (call : Caller σ) : Nat → Value → Op σ Value
  | 0, _ => throw .exhausted
  | fuel + 1, child => do
    match ← capability child "to_dict" with
    | some toDict => call toDict [] []
    | none =>
      let type ← getAttr child "type"
      let h ← heap
      let value := h.attrOrNull child "value"
      let payload := if h.truthy value then value else h.attrOrNull child "val"
      let entries :=
        (.str "type", type) :: if payload = .null then [] else [(.str "value", payload)]
      let nodes := h.attrOrNull child "nodes"
      if nodes = .null then withNodes entries none
      else withNodes entries (some (← mapAll fuel (ofChild call fuel) nodes))

/-- An extra attribute of a smart node, as an entry. -/
def extraEntry (self name : Value) : Op σ (Value × Value) := do
  match name with
  | .str text => return (name, ← getAttr self text)
  | _ => throw .unsupported

/-- The mapping of a smart node. -/
def ofSmart (call : Caller σ) (fuel : Nat) (self : Value) : Op σ Value := do
  let type ← getAttr self "type"
  let value ← getAttr self "value"
  let names ← iterate (← getAttr self "_extra_keys")
  let extras ← names.mapM (extraEntry self)
  let entries :=
    extras.foldl (fun entries (key, v) ↦ putEntry key v entries)
      ((.str "type", type) :: if value = .null then [] else [(.str "value", value)])
  let nodes ← getAttr self "nodes"
  if nodes = .null then withNodes entries none
  else withNodes entries (some (← mapAll fuel (ofChild call fuel) nodes))

/-- The keys of a mapping that have a meaning of their own. -/
def knownKeys : List Value :=
  [.str "type", .str "value", .str "val", .str "nodes"]

/-- The extra attributes that a mapping asks for. -/
def extras (entries : List (Value × Value)) : Except Fault (Table Value) :=
  (entries.filter fun entry ↦ !knownKeys.contains entry.1).mapM fun (key, v) ↦
    match key with
    | .str name => .ok (name, v)
    | _ => .error .unsupported

/-- Builds a tree of smart nodes from a mapping. -/
def toSmart (call : Caller σ) : Nat → Value → Op σ Value
  | 0, _ => throw .exhausted
  | fuel + 1, data => do
    match (← heap).dict? data with
    | none => throw (.argument (.expected "data" .dict) (.str "data"))
    | some entries =>
      let field (name : String) : Value := (entries.lookup (.str name)).getD .null
      if !isText (field "type") then
        throw (.argument (.expected "data.type" .string) (.str "data"))
      let nodes ←
        if field "nodes" = .null then pure .null
        else do
          requireList (field "nodes") "data.nodes" false
          let children ← (← iterate (field "nodes")).mapM (toSmart call fuel)
          new (.list children)
      let extra ← fromExcept (extras entries)
      if Table.contains extra "self" then throw .unsupported
      Node.smart call
        { type := field "type"
          value := field "value"
          val := field "val"
          nodes
          parent := (Table.get? extra "parent").getD .null
          extra := Table.erase extra "parent" }

end TagTree.Document
