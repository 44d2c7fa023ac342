import TagTree.Script.Session
import TagTree.Slots

/-!
# Terms

Terms are turned into values, their parts from left to right. Nodes and records that a term makes
get their names as soon as they are made.
-/

namespace TagTree.Script

open Op Run

/-- Whether a value equals one of several others. -/
def isAmong (h : Heap) (v : Value) (others : List Value) : Bool :=
  others.any fun other ↦ h.equal walkDepth v other

/-- Adds a value to others unless it equals one of them. -/
def insertNew (h : Heap) (kept : List Value) (v : Value) : List Value :=
  if isAmong h v kept then kept else kept ++ [v]

/-- Gives a key a value: an equal key keeps its place, and a new one comes last. -/
def putEqual (h : Heap) (entries : List (Value × Value)) (entry : Value × Value) :
    List (Value × Value) :=
  if isAmong h entry.1 (entries.map Prod.fst) then
    entries.map fun (k, v) ↦ if h.equal walkDepth k entry.1 then (k, entry.2) else (k, v)
  else entries ++ [entry]

/-- The value of a document. -/
def ofDocument {σ : Type} : Nat → Json → Op σ Value
  | 0, _ => throw .exhausted
  | _ + 1, .null => return .null
  | _ + 1, .bool b => return .bool b
  | _ + 1, .int n => return .int n
  | _ + 1, .float x => return .float x
  | _ + 1, .str s => return .str s
  | fuel + 1, .arr items => do new (.list (← items.mapM (ofDocument fuel)))
  | fuel + 1, .obj members => do
    let entries ← members.mapM fun (name, j) ↦ return (.str name, ← ofDocument fuel j)
    new (.dict entries)

/-- Requires a value that can be an element of a set or a key of a mapping. -/
def requireHashable (v : Value) : Run Unit := do
  if !(← heap).hashable walkDepth v then throw .unsupported

/-- An ability becomes an object of its own when it is taken from the object it belongs to. -/
def takeOff (v : Value) : Run Value := do
  match v with
  | .method _ _ | .loader => new (.entity ⟨.ability v, [], .absent⟩)
  | _ => return v

/-- The value of a term. -/
def eval (call : Caller Session) : Nat → Term → Run Value
  | 0, _ => throw .exhausted
  | fuel + 1, t => do
    match t with
    | .null => return .null
    | .bool b => return .bool b
    | .int n => return .int n
    | .float x => return .float x
    | .str s => return .str s
    | .list items => new (.list (← items.mapM (eval call fuel)))
    | .tuple items => new (.tuple (← items.mapM (eval call fuel)))
    | .set frozen items =>
      let values ← items.foldlM (fun kept item ↦ do
        let v ← eval call fuel item
        requireHashable v
        return insertNew (← heap) kept v) []
      new (.set frozen (Slots.order values))
    | .dict entries =>
      let pairs ← entries.foldlM (fun kept (k, x) ↦ do
        let key ← eval call fuel k
        let v ← eval call fuel x
        requireHashable key
        return putEqual (← heap) kept (key, v)) []
      new (.dict pairs)
    | .document j => ofDocument walkDepth j
    | .ref name =>
      if name = "$" then return (← session).subjects.head?.getD .null
      return (← bindingOf name).value
    | .attr t name => takeOff (← getAttr (← eval call fuel t) name)
    | .pattern source =>
      match Pattern.compile source with
      | .ok p => return .pattern p
      | .error reason => throw (.unusablePattern source reason)
    | .parsed expression => Matcher.ofExpression (← eval call fuel expression)
    | .maker m => return .maker m
    | .bare => new (.entity ⟨.bare, [], .absent⟩)
    | .made m args named =>
      let args ← args.mapM (eval call fuel)
      let named ← named.mapM fun (name, t) ↦ return (name, ← eval call fuel t)
      let v ← call (.maker m) args named
      ensureNamed v
      releaseUnheld v
      return v
    | .record fields =>
      let attrs ← fields.mapM fun (name, t) ↦ return (name, ← eval call fuel t)
      let v ← new (.entity ⟨.record, attrs, .absent⟩)
      ensureNamed v
      return v
    | .callback c =>
      let id := (← session).callbacks.size
      modifySession fun s ↦ { s with callbacks := s.callbacks.push c }
      return .callback id

/-- Whether a term makes its value anew each time. -/
def Term.makesAnew : Term → Bool
  | .int _ | .float _ | .str _ | .document _ | .parsed _ => true
  | _ => false

/-- The value of a term, and where it comes from. -/
def evalBinding (call : Caller Session) (t : Term) : Run Binding := do
  match t with
  | .ref name => if name = "$" then return ⟨← eval call walkDepth t, none⟩ else bindingOf name
  | _ =>
    let v ← eval call walkDepth t
    if t.makesAnew then
      let n := (← session).made
      modifySession fun s ↦ { s with made := n + 1 }
      return ⟨v, some n⟩
    else return ⟨v, none⟩

end TagTree.Script
