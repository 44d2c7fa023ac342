import TagTree.Catalogue
import TagTree.Proofs.Evaluation

/-!
# Operations that nodes take over

A node may bring abilities of its own for the operations on its children. An operation then is the
call of that ability and nothing else: one call, with the node in question as its argument if there
is one, whose result and effects are those of the operation. Whatever else the node holds does not
matter.

There is one exception. Before a node is asked to remove a child, its children are looked at, and a
node whose children are in something else than a list is refused although it could do without.
-/

namespace TagTree

open Op

/-! ## Keeping a record of calls -/

/-- A call that was made. -/
structure CallMade where
  callee : Value
  args : List Value
  named : Table Value
  deriving DecidableEq

section Recording

variable {σ : Type}

/-- A world with a record of calls beside the state of the functions supplied from outside. -/
def World.withRecord (w : World σ) (calls : List CallMade) : World (σ × List CallMade) :=
  { w with client := (w.client, calls) }

/-- Calls things as before and keeps a record of it. What is called makes further calls on its own,
which are not recorded. -/
def recorded (call : Caller σ) : Caller (σ × List CallMade) := fun callee args named w ↦
  let calls := w.client.2 ++ [⟨callee, args, named⟩]
  match call callee args named { w with client := w.client.1 } with
  | .ok v w' => .ok v (w'.withRecord calls)
  | .error fault w' => .error fault (w'.withRecord calls)

variable {call : Caller σ} {callee : Value} {args : List Value} {named : Table Value}
  {w w' : World σ}

theorem recorded_of_ok {v : Value} (hcall : call callee args named w = .ok v w')
    (calls : List CallMade) :
    recorded call callee args named (w.withRecord calls) =
      .ok v (w'.withRecord (calls ++ [⟨callee, args, named⟩])) := by
  have hsame : { w.withRecord calls with client := (w.withRecord calls).client.1 } = w := rfl
  rw [recorded, hsame, hcall]
  rfl

theorem recorded_of_error {fault : Fault} (hcall : call callee args named w = .error fault w')
    (calls : List CallMade) :
    recorded call callee args named (w.withRecord calls) =
      .error fault (w'.withRecord (calls ++ [⟨callee, args, named⟩])) := by
  have hsame : { w.withRecord calls with client := (w.withRecord calls).client.1 } = w := rfl
  rw [recorded, hsame, hcall]
  rfl

end Recording

/-! ## The operations and their abilities -/

/-- The operations that a node can take over, with the name of the ability for it and what the
ability is given. -/
inductive Function.Delegates : Function → String → List Value → Prop
  | push (node : Value) : Delegates .push "push" [node]
  | unshift (node : Value) : Delegates .unshift "unshift" [node]
  | pop : Delegates .pop "pop" []
  | shift : Delegates .shift "shift" []
  | remove (node : Value) : Delegates .remove "remove" [node]
  | has (child : Value) : Delegates .has "has" [child]

/-- What an operation makes of the result of an ability: whether a node is among the children is
answered by whether the result counts as true. -/
def Function.answer (f : Function) (h : Heap) (v : Value) : Value :=
  if f = .has then .bool (h.truthy v) else v

/-- The children of a node are in a list, or there are none. -/
def Heap.Listed (h : Heap) (v : Value) : Prop :=
  h.attrOrNull v "nodes" = .null ∨ (h.list? (h.attrOrNull v "nodes")).isSome = true

section Asking

variable {σ : Type} {w : World σ} {parent ability : Value} {name : String} {names : List String}

theorem capability_of_attr? {h : Heap} {v : Value} (hattr : h.attr? v name = some ability)
    (hcallable : h.callable ability = true) : h.capability v name = some ability := by
  rw [Heap.capability, hattr]
  exact Option.filter_some_pos hcallable

/-- The first name that leads to a capability decides. -/
theorem firstCapability_cons {h : Heap} {v : Value}
    (hability : h.capability v name = some ability) :
    Tree.firstCapability h v (name :: names) = some ability := by
  rw [Tree.firstCapability, List.findSome?_cons, hability]

theorem requireList_of_not_listed (hnodes : ¬ w.heap.Listed parent) (label : String) :
    (requireList (w.heap.attrOrNull parent "nodes") label true : Op σ Unit) w =
      .error (.argument (.expected label .array) (.str label)) w := by
  have hnull : w.heap.attrOrNull parent "nodes" ≠ .null := fun h ↦ hnodes (.inl h)
  have hlist : (w.heap.list? (w.heap.attrOrNull parent "nodes")).isSome = false :=
    Bool.eq_false_iff.mpr fun h ↦ hnodes (.inr h)
  apply require_apply_false
  simp [hlist, hnull]

end Asking

section Delegating

variable {σ : Type} {f : Function} {name : String} {args : List Value} {w : World σ}
  {parent ability : Value}

/-- An operation that a node takes over is the call of its ability. -/
theorem run_eq_call (call : Caller σ) (hf : f.Delegates name args)
    (hparent : w.heap.isNode parent = true) (hargs : ∀ v ∈ args, w.heap.isNode v = true)
    (hability : w.heap.capability parent name = some ability)
    (hnodes : f = .remove → w.heap.Listed parent) :
    f.run call (parent :: args) w =
      match call ability args [] w with
      | .ok v w' => .ok (f.answer w'.heap v) w'
      | .error fault w' => .error fault w' := by
  have hasked : ∀ v ∈ args, ∀ label, (requireNode v label : Op σ Unit) w = .ok () w :=
    fun v hv label ↦ requireNode_apply (hargs v hv) label
  have hunchanged : ∀ r : EStateM.Result Fault (World σ) Value,
      r = match r with
        | .ok v w' => .ok v w'
        | .error fault w' => .error fault w' := by
    intro r
    cases r <;> rfl
  cases hf with
  | push node =>
    change Tree.push call parent node w = _
    rw [Tree.push, bind_of_ok (requireNode_apply hparent _),
      bind_of_ok (hasked node (by simp) _), bind_of_ok (heap_apply w),
      firstCapability_cons hability]
    exact hunchanged _
  | unshift node =>
    change Tree.unshift call parent node w = _
    rw [Tree.unshift, bind_of_ok (requireNode_apply hparent _),
      bind_of_ok (hasked node (by simp) _), bind_of_ok (heap_apply w),
      firstCapability_cons hability]
    exact hunchanged _
  | pop =>
    change Tree.pop call parent w = _
    rw [Tree.pop, bind_of_ok (requireNode_apply hparent _),
      bind_of_ok (capability_apply parent "pop" w), hability]
    exact hunchanged _
  | shift =>
    change Tree.shift call parent w = _
    rw [Tree.shift, bind_of_ok (requireNode_apply hparent _),
      bind_of_ok (capability_apply parent "shift" w), hability]
    exact hunchanged _
  | remove node =>
    change Tree.remove call parent node w = _
    rw [Tree.remove, bind_of_ok (requireNode_apply hparent _), bind_of_ok (hasked node (by simp) _),
      bind_of_ok (heap_apply w), bind_of_ok (requireList_apply (hnodes rfl) _),
      bind_of_ok (capability_apply parent "remove" w), hability]
    exact hunchanged _
  | has child =>
    have hhas : Tree.has call parent child w =
        match call ability [child] [] w with
        | .ok v w' => .ok (w'.heap.truthy v) w'
        | .error fault w' => .error fault w' := by
      rw [Tree.has, bind_of_ok (requireNode_apply hparent _), bind_of_ok (hasked child (by simp) _),
        bind_of_ok (capability_apply parent "has" w), hability]
      dsimp only
      rw [bind_apply]
      cases call ability [child] [] w <;> rfl
    change (Tree.has call parent child >>= fun b ↦ pure (Value.bool b)) w = _
    rw [bind_apply, hhas]
    cases call ability [child] [] w <;> rfl

/-- A node that does not have its children in a list is not asked to remove one. -/
theorem remove_of_not_listed {node : Value} (call : Caller σ)
    (hparent : w.heap.isNode parent = true) (hnode : w.heap.isNode node = true)
    (hnodes : ¬ w.heap.Listed parent) :
    Function.run call .remove [parent, node] w =
      .error (.argument (.expected "parent.nodes" .array) (.str "parent.nodes")) w := by
  change Tree.remove call parent node w = _
  rw [Tree.remove, bind_of_ok (requireNode_apply hparent _), bind_of_ok (requireNode_apply hnode _),
    bind_of_ok (heap_apply w), bind_of_error (requireList_of_not_listed hnodes _)]

/-- A node that brings the ability for an operation is asked once, with the node in question if
there is one, and nothing else is called: the result of the operation is that of the ability, or
whether it counts as true, and the world is the one that the ability leaves. Only the removal of a
child is refused, without anybody being asked, if the children of the node are neither in a list nor
missing. -/
theorem ability_is_called_once (call : Caller σ) (hf : f.Delegates name args)
    (hparent : w.heap.isNode parent = true) (hargs : ∀ v ∈ args, w.heap.isNode v = true)
    (hattr : w.heap.attr? parent name = some ability) (hcallable : w.heap.callable ability = true)
    (calls : List CallMade) :
    (f ≠ .remove ∨ w.heap.Listed parent →
      (∀ v w', call ability args [] w = .ok v w' →
        f.run (recorded call) (parent :: args) (w.withRecord calls) =
          .ok (f.answer w'.heap v) (w'.withRecord (calls ++ [⟨ability, args, []⟩]))) ∧
      ∀ fault w', call ability args [] w = .error fault w' →
        f.run (recorded call) (parent :: args) (w.withRecord calls) =
          .error fault (w'.withRecord (calls ++ [⟨ability, args, []⟩]))) ∧
    (f = .remove → ¬ w.heap.Listed parent →
      f.run (recorded call) (parent :: args) (w.withRecord calls) =
        .error (.argument (.expected "parent.nodes" .array) (.str "parent.nodes"))
          (w.withRecord calls)) := by
  have hability := capability_of_attr? hattr hcallable
  constructor
  · intro hlisted
    have hrun := run_eq_call (w := w.withRecord calls) (recorded call) hf hparent hargs hability
      fun hremove ↦ hlisted.resolve_left fun hne ↦ hne hremove
    constructor
    · intro v w' hcall
      rw [hrun, recorded_of_ok hcall]
      rfl
    · intro fault w' hcall
      rw [hrun, recorded_of_error hcall]
  · rintro rfl hnodes
    cases hf with
    | remove node =>
      exact remove_of_not_listed (w := w.withRecord calls) (recorded call) hparent
        (hargs node (by simp)) hnodes

end Delegating

/-! ## A node with a tuple of children -/

/-- A world with a record that bears the mark of a node, has a tuple in the place of its list of
children and can be asked to do something under the given name, and with a plain node. -/
def tupleParent (name : String) : World Unit where
  heap := ⟨#[some (.entity ⟨.record, [("is_node", .bool true), ("nodes", .ref 1),
      (name, .callback 0)], .absent⟩),
    some (.tuple []),
    some (.entity ⟨.plain, [("type", .str "n"), ("nodes", .null)], .absent⟩)]⟩
  client := ()

/-- Such a record is asked to push, and its answer is what pushing answers. -/
theorem tupleParent_is_asked_to_push :
    let call : Caller Unit := fun _ _ _ ↦ return .int 99
    let w := tupleParent "push"
    w.heap.isNode (.ref 0) = true ∧ w.heap.isNode (.ref 2) = true ∧
      w.heap.attr? (.ref 0) "push" = some (.callback 0) ∧ ¬ w.heap.Listed (.ref 0) ∧
      Function.run (recorded call) .push [.ref 0, .ref 2] (w.withRecord []) =
        .ok (.int 99) (w.withRecord [⟨.callback 0, [.ref 2], []⟩]) := by
  intro call w
  have hparent : w.heap.isNode (.ref 0) = true := by decide
  have hnode : w.heap.isNode (.ref 2) = true := by decide
  have hattr : w.heap.attr? (.ref 0) "push" = some (.callback 0) := by decide
  have htuple : ¬ w.heap.Listed (.ref 0) := by unfold Heap.Listed; decide
  have hcalled := ability_is_called_once call (.push (.ref 2)) hparent (by simpa using hnode) hattr
    rfl []
  exact ⟨hparent, hnode, hattr, htuple, (hcalled.1 (.inl (by decide))).1 _ _ rfl⟩

/-- The same record with the ability to remove is not asked to do so. -/
theorem tupleParent_is_not_asked_to_remove :
    let call : Caller Unit := fun _ _ _ ↦ return .str "gone"
    let w := tupleParent "remove"
    w.heap.isNode (.ref 0) = true ∧ w.heap.isNode (.ref 2) = true ∧
      w.heap.attr? (.ref 0) "remove" = some (.callback 0) ∧
      w.heap.callable (.callback 0) = true ∧
      Function.run (recorded call) .remove [.ref 0, .ref 2] (w.withRecord []) =
        .error (.argument (.expected "parent.nodes" .array) (.str "parent.nodes"))
          (w.withRecord []) := by
  intro call w
  exact ⟨by decide, by decide, by decide, rfl, rfl⟩

end TagTree
