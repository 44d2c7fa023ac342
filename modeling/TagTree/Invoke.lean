import TagTree.Node.Document

/-!
# Calling

What happens when something is called. Makers make objects, abilities act on the node they belong
to, handlers send their text to a sink, and functions supplied from outside are asked. What is
called may call other things in turn; the first argument bounds how deep this goes.
-/

namespace TagTree

open Op

variable {σ : Type}

/-- The parameters of an ability. -/
def Method.signature : Method → Signature
  | .define => .required ["name", "value"]
  | .push | .unshift | .remove | .has | .isOpen | .isClose | .isBlock => .required ["node"]
  | .pop | .shift | .toDict | .listClear => .required []
  | .listAppend => .required ["object"]
  | .listInsert => .required ["index", "object"]
  | .listPop => (Signature.required []).orElse "index" (.int (-1))

/-- The index that a number from the end or the front stands for in a list of the given length. -/
def indexOf? (length : Nat) (n : Int) : Option Nat :=
  let i := if n < 0 then n + length else n
  if 0 ≤ i ∧ i < length then some i.toNat else none

/-- Gives a list other items. -/
def replaceItems (list : Value) (items : List Value) : Op σ Unit := do
  match list with
  | .ref a => store a (.list items)
  | _ => throw .unsupported

/-- Calls an ability of an object with arguments in order. -/
def Method.run (call : Caller σ) (fuel : Nat) (self : Value) : Method → List Value → Op σ Value
  | .define, [name, x] => Smart.define self name x
  | .push, [node] => Smart.push call self node
  | .unshift, [node] => Smart.unshift call self node
  | .pop, [] => Smart.pop call self
  | .shift, [] => Smart.shift call self
  | .remove, [node] => Smart.remove call self node
  | .has, [node] => do return .bool (← Smart.has self node)
  | .isOpen, [node] => Smart.isOpen call self node
  | .isClose, [node] => Smart.isClose call self node
  | .isBlock, [node] => do return .bool (← Smart.isBlock node)
  | .toDict, [] => Document.ofSmart call fuel self
  | .listAppend, [item] => do
    append call self item
    return .null
  | .listClear, [] => do
    replaceItems self []
    return .null
  | .listInsert, [index, item] => do
    match index.toInt?, (← heap).list? self with
    | some n, some items =>
      let i := if n < 0 then n + items.length else n
      replaceItems self (items.insertIdx (min i.toNat items.length) item)
      return .null
    | _, _ => throw .unsupported
  | .listPop, [index] => do
    match index.toInt?, (← heap).list? self with
    | some n, some items =>
      match indexOf? items.length n with
      | some i => popAt call self i
      | none => throw (.missingIndex items.isEmpty)
    | _, _ => throw .unsupported
  | _, _ => throw .unsupported

/-- Sends a text to an output sink. -/
def sendTo (call : Caller σ) (sink text node : Value) : Op σ Value := do
  match ← capability sink "append" with
  | some append => call append [text, node] []
  | none =>
    match ← capability sink "emit" with
    | some emit => call emit [text, node] []
    | none => throw (.argument .noSink (.str "compiler"))

/-- Calls something, with `foreign` for the functions supplied from outside. -/
def invoke (foreign : Caller σ) : Nat → Caller σ
  | 0, _, _, _ => throw .exhausted
  | fuel + 1, callee, args, named => do
    let call := invoke foreign fuel
    match callee with
    | .callback _ => foreign callee args named
    | .maker .smart => Node.smart call (← fromExcept (Node.smartParts args named))
    | .maker .plain => Node.plain args named
    | .maker .nesting => Node.nestingState args named
    | .maker .settings =>
      if args.isEmpty then makeConfiguration named else throw .unsupported
    | .loader =>
      match ← fromExcept ((Signature.required ["data"]).bind args named) with
      | [data] => Document.toSmart call fuel data
      | _ => throw .unsupported
    | .method self m => m.run call fuel (.ref self) (← fromExcept (m.signature.bind args named))
    | .unbound m =>
      match ← fromExcept ((m.signature.after "self").bind args named) with
      | self :: rest => m.run call fuel self rest
      | [] => throw .unsupported
    | _ =>
      match (← heap).entity? callee with
      | some ⟨.ability ability, _, _⟩ => call ability args named
      | some ⟨.handler text, _, _⟩ =>
        match ← fromExcept ((Signature.required ["compiler", "node"]).bind args named) with
        | [sink, node] =>
          requireNode node "node"
          sendTo call sink text node
        | _ => throw .unsupported
      | _ => throw .unsupported

end TagTree
