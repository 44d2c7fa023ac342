import TagTree.Proofs.Inert
import TagTree.Proofs.Making
import TagTree.Proofs.Parentage

/-!
# Heaps of smart nodes

In a heap whose entities are all smart nodes, every link to a parent is weak. This module follows
such heaps through everything that smart nodes can be asked to do to themselves: attributes are
assigned, the parent among them, children are added and taken out, and nodes are made. A record of
all assignments of parents goes with the heap, and the link of a node is always the one to the
parent that was assigned last.

Unlike in a forest, nodes may share a list of children, and a parent may be assigned that has no
such child.
-/

namespace TagTree

open Op

/-! ## Agreement of heaps and records -/

/-- The parent that was last assigned to a node, null if there was none. -/
def assignedParent (history : List Insertion) (a : Addr) : Value :=
  (lastParent history (.ref a)).getD .null

theorem assignedParent_append_self (history : List Insertion) (a : Addr) (p : Value) :
    assignedParent (history ++ [(.ref a, p)]) a = p := by
  rw [assignedParent, lastParent_append_self]
  rfl

theorem assignedParent_append_of_ne {a b : Addr} (hne : b ≠ a) (history : List Insertion)
    (p : Value) : assignedParent (history ++ [(.ref a, p)]) b = assignedParent history b := by
  have href : Value.ref b ≠ .ref a := by simpa using hne
  rw [assignedParent, lastParent_append_of_ne href, assignedParent]

/-- The link that assigning a node as parent makes, or null. -/
def Link.toNode : Value → Link
  | .ref p => .weak p
  | _ => .absent

/-- All entities of a heap are smart nodes, and each has the link to its last assigned parent. -/
structure Heap.OfNodes (history : List Insertion) (h : Heap) : Prop where
  node : ∀ a e, h.get? a = some (.entity e) → h.NodeAt a e
  smart : ∀ a e, h.get? a = some (.entity e) → e.kind = .smart
  link : ∀ a e, h.get? a = some (.entity e) → e.parent = .toNode (assignedParent history a)
  entered : ∀ a p, (.ref a, p) ∈ history → a < h.fresh

namespace Heap

/-! ## Single changes -/

section Changes

variable {h : Heap} {history : List Insertion} {a b l : Addr} {e f : Entity} {o o' : Object}

theorem ofNodes_empty : OfNodes [] {} where
  node := fun a e h ↦ by simp [get?] at h
  smart := fun a e h ↦ by simp [get?] at h
  link := fun a e h ↦ by simp [get?] at h
  entered := fun a p h ↦ by cases h

theorem list_ne_entity {items : List Value} (hl : h.get? l = some (.list items))
    (ha : h.get? a = some (.entity e)) : l ≠ a := by
  rintro rfl
  rw [ha] at hl
  cases hl

/-- Lists stay as they are when a node changes. -/
theorem get?_put_entity_of_list {items : List Value} (hl : h.get? l = some (.list items))
    (ha : h.get? a = some (.entity e)) (e' : Entity) :
    (h.put a (.entity e')).get? l = some (.list items) := by
  rw [get?_put_of_ne _ (list_ne_entity hl ha), hl]

/-- A node is left alone if something else is replaced, and lists only by lists. -/
theorem NodeAt.put (hb : h.NodeAt b f) (hne : b ≠ a)
    (hlist : ∀ items, h.get? a = some (.list items) → ∃ items', o = .list items') :
    (h.put a o).NodeAt b f where
  found := by rw [get?_put_of_ne _ hne, hb.found]
  genuine := hb.genuine
  listed := by
    refine hb.listed.imp_right fun ⟨l, items, hl, hget⟩ ↦ ?_
    by_cases hla : l = a
    · subst hla
      obtain ⟨items', rfl⟩ := hlist items hget
      exact ⟨l, items', hl, get?_put_self (lt_fresh_of_get? hget)⟩
    · exact ⟨l, items, hl, by rw [get?_put_of_ne _ hla, hget]⟩
  anchored := fun q hq ↦ by rw [fresh_put]; exact hb.anchored q hq

/-- A collection is added. -/
theorem OfNodes.add (hn : h.OfNodes history) (ho : ∀ e, o ≠ .entity e) :
    (h.add o).OfNodes history := by
  have hold : ∀ a e, (h.add o).get? a = some (.entity e) → h.get? a = some (.entity e) := by
    intro a e ha
    by_cases hfresh : a = h.fresh
    · rw [hfresh, get?_add_fresh] at ha
      exact absurd (Option.some.inj ha) (ho e)
    · rwa [get?_add_of_ne o hfresh] at ha
  exact {
    node := fun a e ha ↦ (hn.node a e (hold a e ha)).extend (extends_add h o)
    smart := fun a e ha ↦ hn.smart a e (hold a e ha)
    link := fun a e ha ↦ hn.link a e (hold a e ha)
    entered := fun a p hmem ↦ by rw [fresh_add]; exact Nat.lt_succ_of_lt (hn.entered a p hmem) }

/-- A node is added that has neither children nor a parent. -/
theorem OfNodes.add_node (hn : h.OfNodes history) (hg : e.Genuine) (hk : e.kind = .smart)
    (hnodes : Table.get? e.attrs "nodes" = some .null) (hparent : e.parent = .absent) :
    (h.add (.entity e)).OfNodes history := by
  have hcases : ∀ a f, (h.add (.entity e)).get? a = some (.entity f) →
      h.get? a = some (.entity f) ∨ a = h.fresh ∧ f = e := by
    intro a f ha
    by_cases hfresh : a = h.fresh
    · rw [hfresh, get?_add_fresh] at ha
      exact .inr ⟨hfresh, by simpa using ha.symm⟩
    · rw [get?_add_of_ne _ hfresh] at ha
      exact .inl ha
  refine ⟨?_, ?_, ?_, ?_⟩
  · intro a f ha
    rcases hcases a f ha with hold | ⟨rfl, rfl⟩
    · exact (hn.node a f hold).extend (extends_add h _)
    · exact ⟨ha, hg, .inl hnodes, fun q hq ↦ by rw [hparent] at hq; cases hq⟩
  · intro a f ha
    rcases hcases a f ha with hold | ⟨rfl, rfl⟩
    · exact hn.smart a f hold
    · exact hk
  · intro a f ha
    rcases hcases a f ha with hold | ⟨rfl, rfl⟩
    · exact hn.link a f hold
    · have hnever : lastParent history (.ref h.fresh) = none :=
        lastParent_eq_none fun p hmem ↦ absurd (hn.entered _ p hmem) (Nat.lt_irrefl _)
      rw [hparent, assignedParent, hnever]
      rfl
  · intro a p hmem
    rw [fresh_add]
    exact Nat.lt_succ_of_lt (hn.entered a p hmem)

/-- A list gets other items. -/
theorem OfNodes.put_list (hn : h.OfNodes history) {old : List Value}
    (hl : h.get? l = some (.list old)) (items : List Value) :
    (h.put l (.list items)).OfNodes history := by
  have hold : ∀ a e, (h.put l (.list items)).get? a = some (.entity e) →
      a ≠ l ∧ h.get? a = some (.entity e) := by
    intro a e ha
    have hne : a ≠ l := by
      rintro rfl
      rw [get?_put_self (lt_fresh_of_get? hl)] at ha
      cases ha
    rw [get?_put_of_ne _ hne] at ha
    exact ⟨hne, ha⟩
  exact {
    node := fun a e ha ↦ (hn.node a e (hold a e ha).2).put (hold a e ha).1 fun _ _ ↦ ⟨_, rfl⟩
    smart := fun a e ha ↦ hn.smart a e (hold a e ha).2
    link := fun a e ha ↦ hn.link a e (hold a e ha).2
    entered := fun a p hmem ↦ by rw [fresh_put]; exact hn.entered a p hmem }

/-- A node gets other attributes, or another parent, which is recorded. -/
theorem OfNodes.put_node (hn : h.OfNodes history) (ha : h.get? a = some (.entity e))
    {e' : Entity} {new : List Insertion} (hnode : (h.put a (.entity e')).NodeAt a e')
    (hk : e'.kind = .smart) (hlink : e'.parent = .toNode (assignedParent (history ++ new) a))
    (hothers : ∀ b, b ≠ a → assignedParent (history ++ new) b = assignedParent history b)
    (hentered : ∀ b p, (.ref b, p) ∈ new → b < h.fresh) :
    (h.put a (.entity e')).OfNodes (history ++ new) := by
  have hcases : ∀ b f, (h.put a (.entity e')).get? b = some (.entity f) →
      b = a ∧ f = e' ∨ b ≠ a ∧ h.get? b = some (.entity f) := by
    intro b f hb
    by_cases hba : b = a
    · subst hba
      rw [get?_put_self (lt_fresh_of_get? ha)] at hb
      exact .inl ⟨rfl, by simpa using hb.symm⟩
    · rw [get?_put_of_ne _ hba] at hb
      exact .inr ⟨hba, hb⟩
  refine ⟨?_, ?_, ?_, ?_⟩
  · intro b f hb
    rcases hcases b f hb with ⟨rfl, rfl⟩ | ⟨hba, hold⟩
    · exact hnode
    · refine (hn.node b f hold).put hba fun items hlist ↦ ?_
      rw [ha] at hlist
      cases hlist
  · intro b f hb
    rcases hcases b f hb with ⟨rfl, rfl⟩ | ⟨-, hold⟩
    · exact hk
    · exact hn.smart b f hold
  · intro b f hb
    rcases hcases b f hb with ⟨rfl, rfl⟩ | ⟨hba, hold⟩
    · exact hlink
    · rw [hothers b hba]
      exact hn.link b f hold
  · intro b p hmem
    rw [fresh_put]
    rcases List.mem_append.mp hmem with hold | hnew
    · exact hn.entered b p hold
    · exact hentered b p hnew

/-- An attribute is assigned that hides nothing. Children have to be in a list. -/
theorem OfNodes.put_attr (hn : h.OfNodes history) (ha : h.get? a = some (.entity e))
    {name : String} {x : Value} (hname : name ∉ Node.reservedNames)
    (hnodes : name = "nodes" → x = .null ∨ ∃ l items, x = .ref l ∧ h.get? l = some (.list items)) :
    (h.put a (.entity { e with attrs := Table.put name x e.attrs })).OfNodes history := by
  have hat := hn.node a e ha
  have hk := hn.smart a e ha
  have hnode : (h.put a (.entity { e with attrs := Table.put name x e.attrs })).NodeAt a
      { e with attrs := Table.put name x e.attrs } := {
    found := get?_put_self (lt_fresh_of_get? ha)
    genuine := {
      kind := hat.genuine.kind
      unhidden := by
        intro other hother
        have hne : other ≠ name := by
          rintro rfl
          rw [hk] at hother
          exact hname hother
        rw [Table.get?_put_of_ne hne]
        exact hat.genuine.unhidden other hother }
    listed := by
      by_cases hisNodes : name = "nodes"
      · subst hisNodes
        rw [Table.get?_put_self]
        rcases hnodes rfl with rfl | ⟨l, items, rfl, hl⟩
        · exact .inl rfl
        · exact .inr ⟨l, items, rfl, get?_put_entity_of_list hl ha _⟩
      · rw [Table.get?_put_of_ne (Ne.symm hisNodes)]
        exact hat.listed.imp_right fun ⟨l, items, hl, hget⟩ ↦
          ⟨l, items, hl, get?_put_entity_of_list hget ha _⟩
    anchored := fun q hq ↦ by rw [fresh_put]; exact hat.anchored q hq }
  rw [← List.append_nil history]
  apply hn.put_node ha hnode hk
  · rw [List.append_nil]
    exact hn.link a e ha
  · intro b _
    rw [List.append_nil]
  · intro b p hmem
    cases hmem

/-- A node is assigned as parent, or null. -/
theorem OfNodes.put_parent (hn : h.OfNodes history) (ha : h.get? a = some (.entity e)) {x : Value}
    (hx : x = .null ∨ ∃ p, x = .ref p ∧ p < h.fresh) :
    (h.put a (.entity { e with parent := .toNode x })).OfNodes (history ++ [(.ref a, x)]) := by
  have hat := hn.node a e ha
  have hlt := lt_fresh_of_get? ha
  have hnode : (h.put a (.entity { e with parent := .toNode x })).NodeAt a
      { e with parent := .toNode x } := {
    found := get?_put_self hlt
    genuine := ⟨hat.genuine.kind, hat.genuine.unhidden⟩
    listed := hat.listed.imp_right fun ⟨l, items, hl, hget⟩ ↦
      ⟨l, items, hl, get?_put_entity_of_list hget ha _⟩
    anchored := by
      intro q hq
      rw [fresh_put]
      rcases hx with rfl | ⟨p, rfl, hp⟩
      · cases hq
      · cases hq
        exact hp }
  apply hn.put_node ha hnode (hn.smart a e ha)
  · rw [assignedParent_append_self]
  · intro b hba
    exact assignedParent_append_of_ne hba history x
  · intro b p hmem
    obtain ⟨rfl, -⟩ : b = a ∧ p = x := by simpa using hmem
    exact hlt

theorem OfNodes.linked (hn : h.OfNodes history) (ha : h.get? a = some (.entity e)) {p : Addr}
    (hp : p < h.fresh) : (h.link a p).OfNodes (history ++ [(.ref a, .ref p)]) := by
  have hwith : e.withParent p = { e with parent := .toNode (.ref p) } := by
    simp [Entity.withParent, hn.smart a e ha, Link.toNode]
  rw [link_eq ha, hwith]
  exact hn.put_parent ha (.inr ⟨p, rfl, hp⟩)

theorem OfNodes.setChildren (hn : h.OfNodes history) (ha : h.get? a = some (.entity e))
    (items : List Value) : (h.setChildren a items).OfNodes history := by
  have hat := hn.node a e ha
  rcases hat.nodes_cases with hnull | ⟨l, old, hl, hget⟩
  · rw [setChildren_of_null ha hnull]
    have hlist : (h.add (.list [])).get? h.fresh = some (.list []) := get?_add_fresh h _
    have hne : h.fresh ≠ a := Nat.ne_of_gt (lt_fresh_of_get? ha)
    have hadded : (h.add (.list [])).OfNodes history := hn.add fun _ ↦ nofun
    have howner := hadded.put_attr (x := .ref h.fresh) ((extends_add h _).found ha)
      (show "nodes" ∉ Node.reservedNames by decide) fun _ ↦ .inr ⟨_, _, rfl, hlist⟩
    exact howner.put_list ((get?_put_of_ne _ hne).trans hlist) items
  · rw [setChildren_of_list hl]
    exact hn.put_list hget items

theorem OfNodes.trimChildren (hn : h.OfNodes history) (ha : h.get? a = some (.entity e))
    (items : List Value) : (h.trimChildren a items).OfNodes history := by
  unfold Heap.trimChildren
  split
  · exact hn
  · exact hn.setChildren ha items

end Changes

end Heap

theorem Heap.exists_of_kindAt? {h : Heap} {a : Addr} {k : Kind} (hk : h.kindAt? a = some k) :
    ∃ e, h.get? a = some (.entity e) := by
  obtain ⟨e, he, -⟩ := Option.map_eq_some_iff.mp hk
  exact ⟨e, get?_of_entity? he⟩

/-! ## What a node does to itself -/

/-- What can be asked of a smart node to change it. -/
inductive Mutator
  | define (name : String) (x : Value)
  | push (node : Value)
  | unshift (node : Value)
  | pop
  | shift
  | remove (node : Value)

namespace Mutator

variable {σ : Type}

def run (call : Caller σ) (self : Value) : Mutator → Op σ Value
  | define name x => Smart.define self (.str name) x
  | push node => Smart.push call self node
  | unshift node => Smart.unshift call self node
  | pop => Smart.pop call self
  | shift => Smart.shift call self
  | remove node => Smart.remove call self node

/-- The parents that are assigned. -/
def assigns (self : Value) : Mutator → List Insertion
  | define name x => if name = "parent" then [(self, x)] else []
  | push node | unshift node => [(node, self)]
  | pop | shift | remove _ => []

/-- Nodes stay nodes: an assignment does not hide what every node has or keeps for itself, the
parent is a node or null, and the children are in a list or null. -/
def Fits (h : Heap) : Mutator → Prop
  | define name x =>
    (name ≠ "parent" → Node.isReserved name = false) ∧
      (name = "parent" → x = .null ∨ ∃ p, x = .ref p ∧ h.kindAt? p = some .smart) ∧
      (name = "nodes" → x = .null ∨ (h.list? x).isSome = true)
  | _ => True

end Mutator

section Mutators

variable {σ : Type} {w w' : World σ} {history : List Insertion} {a : Addr} {e : Entity}

theorem smart_pop_apply (call : Caller σ) (ha : w.heap.NodeAt a e) :
    Smart.pop call (.ref a) w = .ok ((w.heap.children (.ref a)).getLast?.getD .null)
      { w with heap := w.heap.trimChildren a (w.heap.children (.ref a)).dropLast } :=
  smart_take_apply ha (popLast_takesFromList call)

theorem smart_shift_apply (call : Caller σ) (ha : w.heap.NodeAt a e) :
    Smart.shift call (.ref a) w = .ok ((w.heap.children (.ref a)).head?.getD .null)
      { w with heap := w.heap.trimChildren a (w.heap.children (.ref a)).tail } :=
  smart_take_apply ha (popFirst_takesFromList call)

/-- Whatever is to be removed, the other children are left. -/
theorem smart_remove_apply (call : Caller σ) (ha : w.heap.NodeAt a e) (node : Value) :
    ∃ v items, Smart.remove call (.ref a) node w =
      .ok v { w with heap := w.heap.trimChildren a items } := by
  simp only [Smart.remove, Smart.children]
  rw [bind_of_ok (getAttr_nodes ha), bind_of_ok (heap_apply w)]
  rcases ha.nodes_cases with hnull | ⟨l, items, hl, hget⟩
  · refine ⟨.null, [], ?_⟩
    rw [hnull, Heap.trimChildren_of_null hnull]
    rfl
  · have hall : w.heap.put l (.list items) = w.heap := Heap.put_get? hget
    simp only [hl, Heap.truthy_list hget, Heap.trimChildren_of_list hl hget]
    cases items with
    | nil => exact ⟨.null, [], by rw [hall]; rfl⟩
    | cons first rest =>
      simp only [List.isEmpty_cons, Bool.not_false, Bool.not_true, Bool.false_eq_true, if_false]
      rw [bind_of_ok (iterate_apply hget)]
      cases (first :: rest).findIdx? node.identical with
      | none => exact ⟨.null, first :: rest, by rw [hall]; rfl⟩
      | some index => exact ⟨_, _, popAt_apply hget call index⟩

variable (hn : w.heap.OfNodes history) (ha : w.heap.get? a = some (.entity e))
include hn ha

theorem Heap.OfNodes.setParent_apply {x : Value}
    (hx : x = .null ∨ ∃ p, x = .ref p ∧ w.heap.kindAt? p = some .smart) :
    ∃ h, setAttr (.ref a) "parent" x w = .ok () { w with heap := h } ∧
      h.OfNodes (history ++ [(.ref a, x)]) := by
  have hlink : w.heap.linkTo x = .toNode x := by
    rcases hx with rfl | ⟨p, rfl, hp⟩
    · rfl
    · obtain ⟨f, hf⟩ := Heap.exists_of_kindAt? hp
      exact Heap.linkTo_of_genuine hf (hn.node p f hf).genuine
  have hgiven : x = .null ∨ ∃ p, x = .ref p ∧ p < w.heap.fresh := by
    refine hx.imp_right fun ⟨p, hx, hp⟩ ↦ ?_
    obtain ⟨f, hf⟩ := Heap.exists_of_kindAt? hp
    exact ⟨p, hx, Heap.lt_fresh_of_get? hf⟩
  refine ⟨_, ?_, hn.put_parent ha hgiven⟩
  simp [setAttr, bind_apply, Heap.entity?_of_get? ha, Heap.assign, hn.smart a e ha, hlink]

theorem Heap.OfNodes.define_apply {name : String} {x : Value}
    (hfits : (Mutator.define name x).Fits w.heap) :
    ∃ h, Smart.define (.ref a) (.str name) x w = .ok (.ref a) { w with heap := h } ∧
      h.OfNodes (history ++ (Mutator.define name x).assigns (.ref a)) := by
  obtain ⟨hhides, hparent, hlist⟩ := hfits
  have hk := hn.smart a e ha
  by_cases hname : name = "parent"
  · subst hname
    obtain ⟨h, hset, hn'⟩ := hn.setParent_apply ha (hparent rfl)
    exact ⟨h, by rw [Smart.define, bind_of_ok hset]; rfl, hn'⟩
  · have hfree := Node.notMem_reservedNames (hhides hname)
    have hreadOnly : name ∉ readOnlyNames := by
      intro hmem
      apply hfree
      simp only [readOnlyNames, List.mem_cons, List.not_mem_nil, or_false] at hmem
      rcases hmem with rfl | rfl | rfl <;> decide
    refine ⟨w.heap.put a (.entity { e with attrs := Table.put name x e.attrs }), ?_, ?_⟩
    · simp [Smart.define, setAttr, bind_apply, Heap.entity?_of_get? ha, Heap.assign, hk, hname,
        hreadOnly]
    · rw [Mutator.assigns, if_neg hname, List.append_nil]
      refine hn.put_attr ha hfree fun hnodes ↦ (hlist hnodes).imp_right fun hx ↦ ?_
      obtain ⟨items, hitems⟩ := Option.isSome_iff_exists.mp hx
      obtain ⟨l, hl, hget⟩ := Heap.get?_of_list? hitems
      exact ⟨l, items, hl, hget⟩

/-- Only a node can be added as a child, and it is then linked and among the children. -/
theorem Heap.OfNodes.add_apply (foreign : Caller σ) (fuel : Nat) {node v : Value}
    {place : Value → Op σ Unit} {edit : List Value → List Value} (hplace : EditsList place edit)
    (hrun : (do
      Smart.adopt (invoke foreign (fuel + 1)) (.ref a) node
      place (← Smart.children (.ref a))
      return .int (← size (← Smart.children (.ref a))) : Op σ Value) w = .ok v w') :
    ∃ c f, node = .ref c ∧ w.heap.get? c = some (.entity f) ∧
      w'.heap = w.heap.insertChild a c (edit (w.heap.children (.ref a))) := by
  by_cases hnode : w.heap.isNode node = true
  · obtain ⟨c, f, rfl, hc⟩ := Heap.exists_entity_of_isNode hnode
    have hadd := smart_add_apply foreign fuel (hn.node a e ha) hc
      (.genuine (hn.node c f hc).genuine) hplace
    cases hadd.symm.trans hrun
    exact ⟨c, f, rfl, hc, rfl⟩
  · have hrefused : (requireNode node "node" : Op σ Unit) w =
        .error (.argument (.expected "node" .node) (.str "node")) w :=
      require_apply_false (by simpa using hnode) _ _ w
    rw [Smart.adopt, bind_assoc, bind_of_error hrefused] at hrun
    cases hrun

theorem Heap.OfNodes.insertChild {c : Addr} {f : Entity} (hc : w.heap.get? c = some (.entity f))
    (items : List Value) :
    (w.heap.insertChild a c items).OfNodes (history ++ [(.ref c, .ref a)]) := by
  have hlt := Heap.lt_fresh_of_get? ha
  obtain ⟨e', he'⟩ := (hn.node a e ha).link hc hlt
  exact (hn.linked hc hlt).setChildren he'.found items

/-- Whatever a node does to itself, the heap stays one of nodes that agrees with the record. -/
theorem Heap.OfNodes.mutate (foreign : Caller σ) (fuel : Nat) {m : Mutator} {v : Value}
    (hfits : m.Fits w.heap) (hrun : m.run (invoke foreign (fuel + 1)) (.ref a) w = .ok v w') :
    w'.heap.OfNodes (history ++ m.assigns (.ref a)) := by
  have hat := hn.node a e ha
  cases m with
  | define name x =>
    obtain ⟨h, hdefine, hn'⟩ := hn.define_apply ha hfits
    cases hdefine.symm.trans hrun
    exact hn'
  | push node =>
    obtain ⟨c, f, rfl, hc, hheap⟩ := hn.add_apply ha foreign fuel (append_editsList _ node) hrun
    rw [hheap]
    exact hn.insertChild ha hc _
  | unshift node =>
    obtain ⟨c, f, rfl, hc, hheap⟩ := hn.add_apply ha foreign fuel (prepend_editsList _ node) hrun
    rw [hheap]
    exact hn.insertChild ha hc _
  | pop =>
    cases (smart_pop_apply _ hat).symm.trans hrun
    simpa [Mutator.assigns] using hn.trimChildren ha _
  | shift =>
    cases (smart_shift_apply _ hat).symm.trans hrun
    simpa [Mutator.assigns] using hn.trimChildren ha _
  | remove node =>
    obtain ⟨v, items, hremove⟩ := smart_remove_apply (invoke foreign (fuel + 1)) hat node
    cases hremove.symm.trans hrun
    simpa [Mutator.assigns] using hn.trimChildren ha _

end Mutators

/-! ## Making nodes -/

/-- The parents that are assigned when a node is made from parts. -/
def Node.Parts.assigns (h : Heap) (self : Value) (parts : Node.Parts) : List Insertion :=
  ((h.list? parts.nodes).getD []).map (·, self) ++
    if parts.parent = .null then [] else [(self, parts.parent)]

/-- A node is made among nodes: its children are in a list, and its parent is a node. -/
structure Node.Parts.Fits (h : Heap) (parts : Node.Parts) : Prop where
  page : ∃ p, parts.Match p
  nodes : parts.nodes = .null ∨ (h.list? parts.nodes).isSome = true
  parent : parts.parent = .null ∨ ∃ p, parts.parent = .ref p ∧ h.kindAt? p = some .smart

section Making

variable {σ : Type} {w w' : World σ} {history : List Insertion} {a l n : Addr} {e : Entity}

/-- A node that has a list of children keeps it when a child is added, and other lists stay as they
are. -/
theorem Heap.NodeAt.insertChild_keeps {h : Heap} {c : Addr} {f : Entity} (ha : h.NodeAt a e)
    (hc : h.get? c = some (.entity f)) (hnodes : Table.get? e.attrs "nodes" = some (.ref l))
    (items : List Value) :
    (∃ e', (h.insertChild a c items).get? a = some (.entity e') ∧
      Table.get? e'.attrs "nodes" = some (.ref l)) ∧
    ∀ n others, h.get? n = some (.list others) → n ≠ l →
      (h.insertChild a c items).get? n = some (.list others) := by
  have hlinked : (h.link c a).attrOrNull (.ref a) "nodes" = .ref l := by
    rw [attrOrNull_link hc a (.inr (by decide)),
      attrOrNull_of_genuine ha.found ha.genuine (by decide), hnodes]
    rfl
  obtain ⟨old, hlist⟩ : ∃ old, h.get? l = some (.list old) := by
    rcases ha.listed with hnull | ⟨l', old, hl', hget⟩
    · rw [hnodes] at hnull
      cases hnull
    · rw [hnodes] at hl'
      cases hl'
      exact ⟨old, hget⟩
  have hne : a ≠ l := (Heap.list_ne_entity hlist ha.found).symm
  rw [Heap.insertChild, setChildren_of_list hlinked]
  constructor
  · rw [get?_put_of_ne _ hne]
    by_cases hac : a = c
    · subst hac
      rw [ha.found] at hc
      cases hc
      refine ⟨_, get?_link_self ha.found a, ?_⟩
      rw [Entity.get?_withParent (by decide), hnodes]
    · rw [get?_link_of_ne c a hac]
      exact ⟨e, ha.found, hnodes⟩
  · intro n others hn hnl
    rw [get?_put_of_ne _ hnl, get?_link_of_ne c a (Heap.list_ne_entity hn hc), hn]

/-- The children in a list are added one after the other, from any index on. -/
theorem Heap.OfNodes.addChildren (foreign : Caller σ) (m : Nat) {items : List Value}
    {fuel index : Nat} (hn : w.heap.OfNodes history) (ha : w.heap.get? a = some (.entity e))
    (hnodes : Table.get? e.attrs "nodes" = some (.ref l))
    (hitems : w.heap.get? n = some (.list items)) (hnl : n ≠ l)
    (hrun : Node.addChildren (invoke foreign (m + 1)) (.ref a) (.ref n) fuel index w = .ok () w') :
    w'.heap.OfNodes (history ++ (items.drop index).map (·, .ref a)) ∧
      ∀ b, w'.heap.kindAt? b = w.heap.kindAt? b := by
  induction fuel generalizing w history e index with
  | zero => cases hrun
  | succ fuel ih =>
    rw [Node.addChildren, bind_of_ok (itemAt?_apply hitems index)] at hrun
    cases hitem : items[index]? with
    | none =>
      rw [hitem] at hrun
      cases hrun
      have hend : items.drop index = [] :=
        List.drop_eq_nil_iff.mpr (List.getElem?_eq_none_iff.mp hitem)
      rw [hend, List.map_nil, List.append_nil]
      exact ⟨hn, fun b ↦ rfl⟩
    | some child =>
      rw [hitem] at hrun
      simp only at hrun
      obtain ⟨count, w₁, hpush, hrest⟩ := bind_eq_ok.mp hrun
      obtain ⟨c, f, rfl, hc, hheap⟩ := hn.add_apply ha foreign m (append_editsList _ _) hpush
      have hn₁ := hn.insertChild ha hc (w.heap.children (.ref a) ++ [.ref c])
      obtain ⟨⟨e₁, ha₁, hnodes₁⟩, hlists⟩ := (hn.node a e ha).insertChild_keeps hc hnodes
        (w.heap.children (.ref a) ++ [.ref c])
      have hkinds := Heap.kindAt?_insertChild (hn.node a e ha) hc
        (w.heap.children (.ref a) ++ [.ref c])
      rw [← hheap] at hn₁ ha₁ hlists hkinds
      obtain ⟨hn', hkinds'⟩ := ih hn₁ ha₁ hnodes₁ (hlists n items hitems hnl) hrest
      obtain ⟨hlt, hget⟩ := List.getElem?_eq_some_iff.mp hitem
      rw [List.append_assoc] at hn'
      rw [List.drop_eq_getElem_cons hlt, hget]
      exact ⟨hn', fun b ↦ (hkinds' b).trans (hkinds b)⟩

/-- A node that was made gets its parent last, if it is to have one. -/
theorem Heap.OfNodes.parented {x v : Value} (hn : w.heap.OfNodes history)
    (ha : w.heap.get? a = some (.entity e))
    (hx : x = .null ∨ ∃ p, x = .ref p ∧ w.heap.kindAt? p = some .smart)
    (hrun : (do
      if x ≠ .null then setAttr (.ref a) "parent" x
      return .ref a : Op σ Value) w = .ok v w') :
    v = .ref a ∧ w'.heap.OfNodes (history ++ if x = .null then [] else [(.ref a, x)]) := by
  by_cases hnull : x = .null
  · subst hnull
    cases hrun
    rw [if_pos rfl, List.append_nil]
    exact ⟨rfl, hn⟩
  · obtain ⟨h, hset, hn'⟩ := hn.setParent_apply ha hx
    rw [if_neg hnull]
    simp only [ne_eq, hnull, not_false_eq_true, if_true] at hrun
    rw [bind_of_ok hset] at hrun
    cases hrun
    exact ⟨rfl, hn'⟩

theorem Heap.OfNodes.started {h : Heap} {parts : Node.Parts} {p : Page} (hn : h.OfNodes history)
    (hp : parts.Match p) : (Node.started h parts).OfNodes history := by
  have hlist := hn.add (o := .list (parts.extra.map fun entry ↦ .str entry.1)) fun _ ↦ nofun
  rw [Node.started, hp.blank_eq]
  exact hlist.add_node (Node.genuine_attrsOf p .null h.fresh .absent) rfl
    (by simp [Node.get?_attrsOf]) rfl

theorem Heap.OfNodes.branched {h : Heap} {parts : Node.Parts} {p : Page} (hn : h.OfNodes history)
    (hp : parts.Match p) : (Node.branched h parts).OfNodes history := by
  have hadded := (hn.started hp).add (o := .list []) fun _ ↦ nofun
  have hself := (Heap.extends_add _ (.list [])).found (Node.get?_started_self h parts)
  have hlist : ((Node.started h parts).add (.list [])).get? (h.fresh + 2) = some (.list []) := by
    rw [← Node.fresh_started h parts, Heap.get?_add_fresh]
  exact hadded.put_attr (x := .ref (h.fresh + 2)) hself
    (show "nodes" ∉ Node.reservedNames by decide) fun _ ↦ .inr ⟨_, _, rfl, hlist⟩

/-- What was a smart node before a node is made is still one. -/
theorem smart_of_same {h h' : Heap} {x : Value} (hsame : ∀ b, b < h.fresh → h'.get? b = h.get? b)
    (hx : x = .null ∨ ∃ q, x = .ref q ∧ h.kindAt? q = some .smart) :
    x = .null ∨ ∃ q, x = .ref q ∧ h'.kindAt? q = some .smart := by
  rcases hx with hnull | ⟨q, hq, hk⟩
  · exact .inl hnull
  · obtain ⟨f, hf⟩ := Heap.exists_of_kindAt? hk
    exact .inr ⟨q, hq, (Heap.kindAt?_congr (hsame q (Heap.lt_fresh_of_get? hf))).trans hk⟩

/-- Whatever a node is made from, the heap stays one of nodes that agrees with the record. -/
theorem Heap.OfNodes.make (foreign : Caller σ) (m : Nat) {parts : Node.Parts} {v : Value}
    (hn : w.heap.OfNodes history) (hfits : parts.Fits w.heap)
    (hrun : Node.smart (invoke foreign (m + 1)) parts w = .ok v w') :
    w'.heap.OfNodes (history ++ parts.assigns w.heap v) := by
  obtain ⟨⟨p, hp⟩, hnodes, hparent⟩ := hfits
  rcases hnodes with hnull | hlist
  · rw [Node.smart_of_childless hp.type_isText hp.free _ hnull] at hrun
    have hparent₁ := smart_of_same (Node.extends_started w.heap parts).same hparent
    obtain ⟨rfl, hn'⟩ := Heap.OfNodes.parented (w := { w with heap := Node.started w.heap parts })
      (hn.started hp) (Node.get?_started_self w.heap parts) hparent₁ hrun
    simpa [Node.Parts.assigns, hnull, Heap.list?, Heap.object?] using hn'
  · obtain ⟨items, hitems⟩ := Option.isSome_iff_exists.mp hlist
    obtain ⟨n, hn₀, hget⟩ := Heap.get?_of_list? hitems
    have hlt := Heap.lt_fresh_of_get? hget
    have hget' : (Node.branched w.heap parts).get? n = some (.list items) := by
      rw [Node.get?_branched_of_lt w.heap parts hlt, hget]
    rw [Node.smart_of_branched hp.type_isText hp.free _ hn₀ hget] at hrun
    obtain ⟨⟨⟩, w₂, hadd, hlast⟩ := bind_eq_ok.mp hrun
    have hgrowing := Node.growing_branched hp w.heap
    obtain ⟨hn₂, hkinds⟩ := Heap.OfNodes.addChildren
      (w := { w with heap := Node.branched w.heap parts }) foreign m (hn.branched hp)
      hgrowing.found hgrowing.nodes hget' (Nat.ne_of_lt (Nat.lt_add_right 2 hlt)) hadd
    obtain ⟨e', he'⟩ : ∃ e', w₂.heap.get? (w.heap.fresh + 1) = some (.entity e') := by
      apply Heap.exists_of_kindAt?
      rw [hkinds, Heap.kindAt?_of_get? hgrowing.found]
    have hparent₂ : parts.parent = .null ∨ ∃ q, parts.parent = .ref q ∧
        w₂.heap.kindAt? q = some .smart := by
      simp only [hkinds]
      exact smart_of_same (fun b ↦ Node.get?_branched_of_lt w.heap parts) hparent
    obtain ⟨rfl, hn'⟩ := hn₂.parented he' hparent₂ hlast
    rw [List.drop_zero, List.append_assoc] at hn'
    rwa [Node.Parts.assigns, hitems]

end Making

end TagTree
