import TagTree.Heap

/-!
# Collection

Objects that cannot be reached any more are collected. Every value in an attribute or a collection
keeps the object alive that it refers to; the weak link of a smart node to its parent does not.
-/

namespace TagTree

/-- The object that a value keeps alive. -/
def Value.target? : Value → Option Addr
  | .ref a => some a
  | .method a _ => some a
  | _ => none

/-- The objects that a link keeps alive. -/
def Link.targets : Link → List Addr
  | .strong v => v.target?.toList
  | .weak _ | .absent => []

/-- The objects that an object keeps alive. -/
def Object.targets : Object → List Addr
  | .entity e =>
    let own :=
      match e.kind with
      | .handler text => text.target?.toList
      | .ability callee => callee.target?.toList
      | _ => []
    own ++ e.attrs.filterMap (·.2.target?) ++ e.parent.targets
  | .list items | .tuple items | .set _ items => items.filterMap Value.target?
  | .dict entries => entries.flatMap fun (k, v) ↦ k.target?.toList ++ v.target?.toList

namespace Heap

/-- The objects that the object at an address keeps alive. -/
def targets (h : Heap) (a : Addr) : List Addr :=
  ((h.get? a).map Object.targets).getD []

/-- The addresses among `unseen` that can be reached from `frontier` through addresses among
`unseen`, in at most so many rounds. Every round but the last meets one of them, so as many rounds
as there are unseen addresses are enough. -/
def reachFrom (h : Heap) : Nat → List Addr → List Addr → List Addr
  | 0, _, _ => []
  | rounds + 1, unseen, frontier =>
    let met := unseen.filter fun a ↦ frontier.contains a
    if met.isEmpty then []
    else
      let rest := unseen.filter fun a ↦ !frontier.contains a
      met ++ reachFrom h rounds rest (met.flatMap h.targets)

/-- The addresses that hold an object. -/
def live (h : Heap) : List Addr :=
  (List.range h.cells.size).filter fun a ↦ (h.get? a).isSome

/-- The objects that can be reached from the roots. -/
def reachable (h : Heap) (roots : List Addr) : List Addr :=
  h.reachFrom h.live.length h.live roots

/-- The heap without the objects that cannot be reached. -/
def collect (h : Heap) (roots : List Addr) : Heap :=
  let kept := h.reachable roots
  ⟨h.cells.mapIdx fun a cell ↦ if kept.contains a then cell else none⟩

/-- Whether an object goes as soon as nothing holds it, and not only when objects are collected. -/
def isFleeting : Object → Bool
  | .set _ _ | .entity ⟨.ability _, _, _⟩ => true
  | _ => false

/-- Whether an object has a weak link to a fleeting one. -/
def linksToFleeting (h : Heap) : Object → Bool
  | .entity ⟨_, _, .weak a⟩ => ((h.get? a).map isFleeting).getD false
  | _ => false

/-- The heap without the weak links to fleeting objects that cannot be reached. -/
def release (h : Heap) (roots : List Addr) : Heap :=
  if h.cells.any fun cell ↦ (cell.map h.linksToFleeting).getD false then
    let kept := h.reachable roots
    let cut : Object → Object
      | .entity ⟨kind, attrs, .weak a⟩ =>
        let isLost := ((h.get? a).map isFleeting).getD false && !kept.contains a
        .entity ⟨kind, attrs, if isLost then .absent else .weak a⟩
      | o => o
    ⟨h.cells.map (·.map cut)⟩
  else h

end Heap

end TagTree
