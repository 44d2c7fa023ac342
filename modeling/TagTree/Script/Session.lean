import TagTree.Collect
import TagTree.Equality
import TagTree.Script.Report
import TagTree.Script.Syntax

/-!
# Sessions

The state of a running script: what names are bound to, which objects have names of their own, what
was last shown of them, and the scripted functions. An object that is to be shown and has no name
gets one.
-/

namespace TagTree.Script

open Op

/-- What a name is bound to. -/
structure Binding where
  value : Value
  /-- The number of the term that made the value anew, if it is known to come from one. -/
  origin : Option Nat := none

/-- Whether two values are the same: the same object, or equal shared values. There is only one
empty tuple. Other texts and numbers are told apart by where they come from, as far as that is
known. -/
def Binding.same (h : Heap) (b c : Binding) : Bool :=
  match b.value, c.value with
  | .ref v, .ref w => v == w || (isEmptyTuple v && isEmptyTuple w)
  | v, w =>
    v.identical w ||
      (v == w && (b.origin.isNone || c.origin.isNone || b.origin == c.origin))
where
  isEmptyTuple (a : Addr) : Bool :=
    match h.get? a with
    | some (.tuple items) => items.isEmpty
    | _ => false

/-- The state of a running script. -/
structure Session where
  /-- What names are bound to, the names of objects included. -/
  names : Table Binding := []
  /-- The objects with names of their own, in the order in which they got them. -/
  registry : List (String × Addr) := []
  /-- What was last shown of each named object. -/
  shown : List (String × Rendering) := []
  /-- The number of names made up so far. -/
  counter : Nat := 0
  /-- The calls of scripted functions during the step. -/
  calls : List CallReport := []
  callbacks : Array Callback := #[]
  /-- The number of values that terms have made anew so far. -/
  made : Nat := 0
  /-- The first arguments of the running scripted functions, that of the innermost one first. -/
  subjects : List Value := []

/-- A computation of a running script. -/
abbrev Run := Op Session

namespace Run

def session : Run Session := do
  return (← get).client

def modifySession (f : Session → Session) : Run Unit :=
  modify fun w ↦ { w with client := f w.client }

/-! ## Names -/

/-- The kind of a named object that an entity can be. -/
def namedKind? : Kind → Option NamedKind
  | .smart => some .smart
  | .plain => some .plain
  | .record => some .record
  | .nesting => some .nesting
  | .slot => some .slot
  | _ => none

/-- Whether a value is an object that is shown by name. -/
def isNameable (h : Heap) (v : Value) : Bool :=
  ((h.entity? v).bind fun e ↦ namedKind? e.kind).isSome

/-- The name of an object. -/
def nameOf? (s : Session) (a : Addr) : Option String :=
  (s.registry.find? fun entry ↦ entry.2 == a).map Prod.fst

/-- Binds a name. -/
def bind (name : String) (b : Binding) : Run Unit :=
  modifySession fun s ↦ { s with names := Table.put name b s.names }

/-- What a name is bound to. -/
def bindingOf (name : String) : Run Binding := do
  match Table.get? (← session).names name with
  | some b => return b
  | none => throw (.missingKey (Text.quote name))

/-- Gives an object a name of its own. -/
def register (name : String) (a : Addr) : Run Unit := do
  modifySession fun s ↦ { s with registry := s.registry ++ [(name, a)] }
  bind name ⟨.ref a, none⟩

/-- The name of an object, which is made up now if it has none. -/
def ensureName (a : Addr) : Run String := do
  let s ← session
  match nameOf? s a with
  | some name => return name
  | none =>
    let name := "#" ++ toString (s.counter + 1)
    modifySession fun s ↦ { s with counter := s.counter + 1 }
    register name a
    return name

/-- Makes sure that an object that is shown by name has one. -/
def ensureNamed (v : Value) : Run Unit := do
  match v with
  | .ref a =>
    if isNameable (← heap) v then
      let _ ← ensureName a
  | _ => return ()

/-! ## Showing values -/

/-- What is shown of a value. -/
def describe : Nat → Value → Run Shown
  | 0, _ => throw .exhausted
  | fuel + 1, v => do
    let h ← heap
    match v with
    | .null => return .null
    | .bool b => return .bool b
    | .int n => return .int n
    | .float x => return .float x
    | .str s => return .str s
    | .pattern p => return .pattern p.source
    | .maker m => return .maker m
    | .callback id =>
      return .callback (((← session).callbacks[id]?.map Callback.id).getD .null)
    | .ref a =>
      match h.get? a with
      | some (.list items) => return .list (← items.mapM (describe fuel))
      | some (.tuple items) => return .tuple (← items.mapM (describe fuel))
      | some (.set _ items) => return .set (← items.mapM (describe fuel))
      | some (.dict entries) =>
        return .dict (← entries.mapM fun (k, x) ↦ do
          let key ← describe fuel k
          return (key, ← describe fuel x))
      | some (.entity e) =>
        match e.kind with
        | .settings =>
          let fields ← dumpFields e.attrs
          return .settings (← fields.mapM fun (name, x) ↦ return (name, ← describe fuel x))
        | .handler _ => return .handler
        | .sealed | .bare | .ability _ => return .other (h.typeName v)
        | _ => return .ref (← ensureName a)
      | none => return .null
    | .method _ _ | .unbound _ | .loader | .inert _ => return .other (h.typeName v)

/-- The attributes of an entity that are shown. -/
def shownAttrs (h : Heap) (e : Entity) : Table Value :=
  match e.kind with
  | .smart => ("parent", e.parent.target h) :: e.attrs
  | _ => e.attrs

/-- The place of an attribute among those shown: the children, the parent, then the others by
name. -/
def attrBefore (a b : String × Value) : Bool :=
  let rank (name : String) : Nat := if name = "nodes" then 0 else if name = "parent" then 1 else 2
  rank a.1 < rank b.1 || (rank a.1 == rank b.1 && a.1 ≤ b.1)

/-- What is shown of a named object. -/
def render (a : Addr) : Run Rendering := do
  let h ← heap
  match h.get? a with
  | some (.entity e) =>
    match namedKind? e.kind with
    | some kind =>
      let attrs := (shownAttrs h e).mergeSort attrBefore
      return .entity kind (← attrs.mapM fun (name, v) ↦ return (name, ← describe walkDepth v))
    | none => return .plain (← describe walkDepth (.ref a))
  | _ => return .plain (← describe walkDepth (.ref a))

/-- Shows the named objects that have changed since they were last shown. Objects that get their
name while this goes on are shown too. -/
def sweepFrom : Nat → Nat → Run (List (String × Rendering))
  | 0, _ => throw .exhausted
  | fuel + 1, index => do
    match (← session).registry[index]? with
    | none => return []
    | some (name, a) =>
      let now ← render a
      let before := (← session).shown.lookup name
      if (before.map now.same).getD false then sweepFrom fuel (index + 1)
      else
        modifySession fun s ↦
          { s with shown := (name, now) :: s.shown.filter fun entry ↦ entry.1 != name }
        return (name, now) :: (← sweepFrom fuel (index + 1))

def sweep : Run (List (String × Rendering)) :=
  sweepFrom walkDepth 0

/-! ## Forgetting -/

/-- Unbinds every name of what a name is bound to. -/
def forget (name : String) : Run Unit := do
  let b ← bindingOf name
  let h ← heap
  let gone (a : Addr) : Bool := b.value == .ref a
  modifySession fun s ↦
    { s with
      names := s.names.filter fun entry ↦ !entry.2.same h b
      shown := s.shown.filter fun entry ↦
        !(s.registry.any fun named ↦ named.1 == entry.1 && gone named.2)
      registry := s.registry.filter fun entry ↦ !gone entry.2 }

/-- The objects that are kept: those that names are bound to, those with names of their own, the
configuration in force, and the first arguments of running functions. -/
def roots (w : World Session) : List Addr :=
  w.client.names.filterMap (·.2.value.target?) ++ w.client.registry.map Prod.snd ++
    w.active.toList ++ w.client.subjects.filterMap Value.target?

/-- Collects the objects that cannot be reached. -/
def collectGarbage : Run Unit :=
  modify fun w ↦ { w with heap := w.heap.collect (roots w) }

/-- Cuts the links to fleeting objects that nothing holds, apart from a value in use. -/
def releaseUnheld (v : Value) : Run Unit :=
  modify fun w ↦ { w with heap := w.heap.release (v.target?.toList ++ roots w) }

end Run

end TagTree.Script
