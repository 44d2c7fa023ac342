import TagTree.Invoke
import TagTree.Proofs.Evaluation

/-!
# Genuine nodes

A genuine node is a smart or plain node as its maker leaves it: no attribute of its own stands in
the way of its mark or of an ability. This module says what such nodes answer when they are asked
for attributes and abilities, and what it does to a node to be linked to a parent.
-/

namespace TagTree

open Op

/-- The names that no attribute of a genuine node of a kind has. A plain node keeps its parent as an
attribute, and must not have the abilities that foreign nodes may bring under longer names. -/
def Kind.ownNames : Kind → List String
  | .plain => "push_node" :: "unshift_node" :: Node.reservedNames.erase "parent"
  | _ => Node.reservedNames

/-- A smart or plain node without attributes that hide what its kind gives it. -/
structure Entity.Genuine (e : Entity) : Prop where
  kind : e.kind = .smart ∨ e.kind = .plain
  unhidden : ∀ name ∈ e.kind.ownNames, Table.get? e.attrs name = none

/-- What a node answers when it is asked for its parent. -/
def Entity.parentIn (h : Heap) (e : Entity) : Value :=
  match e.kind with
  | .smart => e.parent.target h
  | _ => (Table.get? e.attrs "parent").getD .null

theorem Method.ofName?_mem {name : String} {m : Method} (hm : Method.ofName? name = some m) :
    name ∈ Node.reservedNames := by
  unfold Method.ofName? at hm
  split at hm <;> simp [Node.reservedNames] at hm ⊢

namespace Heap

variable {h : Heap} {a : Addr} {e : Entity}

theorem attr?_entity (ha : h.get? a = some (.entity e)) (name : String) :
    h.attr? (.ref a) name = h.entityAttr? a e name := by
  simp [attr?, ha]

theorem entity?_of_get? (ha : h.get? a = some (.entity e)) : h.entity? (.ref a) = some e := by
  simp [entity?, object?, ha]

theorem isNode_of_genuine (ha : h.get? a = some (.entity e)) (hg : e.Genuine) :
    h.isNode (.ref a) = true := by
  have hmark : Table.get? e.attrs "is_node" = none := by
    apply hg.unhidden
    rcases hg.kind with hk | hk <;> rw [hk] <;> decide
  rcases hg.kind with hk | hk <;>
    simp [isNode, attr?_entity ha, entityAttr?, hk, hmark, smartMember?, truthy]

theorem capability_of_smart (ha : h.get? a = some (.entity e)) (hg : e.Genuine)
    (hk : e.kind = .smart) {name : String} {m : Method} (hm : Method.ofName? name = some m) :
    h.capability (.ref a) name = some (.method a m) := by
  have hmem := Method.ofName?_mem hm
  have hnone : Table.get? e.attrs name = none := by
    apply hg.unhidden
    rw [hk]
    exact hmem
  have hparent : name ≠ "parent" := by rintro rfl; simp [Method.ofName?] at hm
  have hchildren : name ≠ "children" := by rintro rfl; simp [Method.ofName?] at hm
  have hmark : name ≠ "is_node" := by rintro rfl; simp [Method.ofName?] at hm
  have hloader : name ≠ "from_dict" := by rintro rfl; simp [Method.ofName?] at hm
  simp [capability, attr?_entity ha, entityAttr?, hk, hnone, smartMember?, hm, hparent, hchildren,
    hmark, hloader, callable]

theorem capability_of_plain (ha : h.get? a = some (.entity e)) (hg : e.Genuine)
    (hk : e.kind = .plain) {name : String} (hn : name ∈ Kind.plain.ownNames) :
    h.capability (.ref a) name = none := by
  have hnone : Table.get? e.attrs name = none := by
    apply hg.unhidden
    rw [hk]
    exact hn
  by_cases hmark : name = "is_node"
  · subst hmark
    simp [capability, attr?_entity ha, entityAttr?, hk, hnone, callable]
  · simp [capability, attr?_entity ha, entityAttr?, hk, hnone, hmark]

/-- Attributes that no kind of node provides are those that were assigned. -/
theorem attr?_of_genuine (ha : h.get? a = some (.entity e)) (hg : e.Genuine) {name : String}
    (hn : name ∉ Node.reservedNames) : h.attr? (.ref a) name = Table.get? e.attrs name := by
  have hparent : name ≠ "parent" := by rintro rfl; exact hn (by decide)
  have hchildren : name ≠ "children" := by rintro rfl; exact hn (by decide)
  have hmark : name ≠ "is_node" := by rintro rfl; exact hn (by decide)
  have hloader : name ≠ "from_dict" := by rintro rfl; exact hn (by decide)
  have hm : Method.ofName? name = none := by
    cases hm : Method.ofName? name with
    | none => rfl
    | some m => exact absurd (Method.ofName?_mem hm) hn
  rcases hg.kind with hk | hk <;>
    simp [attr?_entity ha, entityAttr?, hk, smartMember?, hm, hparent, hchildren, hmark, hloader]

theorem attrOrNull_of_genuine (ha : h.get? a = some (.entity e)) (hg : e.Genuine) {name : String}
    (hn : name ∉ Node.reservedNames) :
    h.attrOrNull (.ref a) name = (Table.get? e.attrs name).getD .null := by
  rw [attrOrNull, attr?_of_genuine ha hg hn]

theorem attr?_of_attrOrNull {v : Value} {name t : String} (ht : h.attrOrNull v name = .str t) :
    h.attr? v name = some (.str t) := by
  unfold attrOrNull at ht
  cases hv : h.attr? v name with
  | none => rw [hv] at ht; cases ht
  | some x => rw [hv] at ht; cases ht; rfl

theorem attrOrNull_parent (ha : h.get? a = some (.entity e)) (hg : e.Genuine) :
    h.attrOrNull (.ref a) "parent" = e.parentIn h := by
  rcases hg.kind with hk | hk <;>
    simp [attrOrNull, attr?_entity ha, entityAttr?, Entity.parentIn, hk]

theorem linkTo_of_genuine (ha : h.get? a = some (.entity e)) (hg : e.Genuine) :
    h.linkTo (.ref a) = .weak a := by
  rcases hg.kind with hk | hk <;> simp [linkTo, ha, hk]

end Heap

/-! ## Being linked to a parent -/

/-- A node that can be made a child without anybody else being asked: a genuine one, or a record
that bears the mark of a node and cannot be told about its parent. -/
inductive Entity.Linkable (e : Entity) : Prop
  | genuine (hg : e.Genuine)
  | foreign (mark : Value) (hk : e.kind = .record)
      (hmark : Table.get? e.attrs "is_node" = some mark)
      (htrue : ∀ h : Heap, h.truthy mark = true)
      (hdefine : ∀ v, Table.get? e.attrs "define" = some v → ∀ h : Heap, h.callable v = false)

/-- A node after a genuine node was made its parent. -/
def Entity.withParent (e : Entity) (p : Addr) : Entity :=
  match e.kind with
  | .smart => { e with parent := .weak p }
  | _ => { e with attrs := Table.put "parent" (.ref p) e.attrs }

/-- The heap after a genuine node was made the parent of a child. -/
def Heap.link (h : Heap) (c p : Addr) : Heap :=
  match h.get? c with
  | some (.entity e) => h.put c (.entity (e.withParent p))
  | _ => h

namespace Entity

variable {e : Entity}

@[simp]
theorem kind_withParent (e : Entity) (p : Addr) : (e.withParent p).kind = e.kind := by
  unfold withParent
  split <;> rfl

theorem get?_withParent {name : String} (hn : name ≠ "parent") (p : Addr) :
    Table.get? (e.withParent p).attrs name = Table.get? e.attrs name := by
  unfold withParent
  split
  · rfl
  · exact Table.get?_put_of_ne hn _ _

theorem Genuine.withParent (hg : e.Genuine) (p : Addr) : (e.withParent p).Genuine where
  kind := by rw [kind_withParent]; exact hg.kind
  unhidden := by
    intro name hn
    rw [kind_withParent] at hn
    unfold Entity.withParent
    rcases hg.kind with hk | hk
    · simpa [hk] using hg.unhidden name hn
    · have hne : name ≠ "parent" := by
        rintro rfl
        rw [hk] at hn
        exact absurd hn (by decide)
      simpa [hk, Table.get?_put_of_ne hne] using hg.unhidden name hn

theorem Linkable.withParent (hl : e.Linkable) (p : Addr) : (e.withParent p).Linkable := by
  cases hl with
  | genuine hg => exact .genuine (hg.withParent p)
  | foreign mark hk hmark htrue hdefine =>
    refine .foreign mark (by rw [kind_withParent, hk]) ?_ htrue ?_
    · rw [get?_withParent (by decide), hmark]
    · rw [get?_withParent (by decide)]
      exact hdefine

end Entity

namespace Heap

variable {h : Heap} {c p : Addr} {e f : Entity}

theorem isNode_of_linkable (hc : h.get? c = some (.entity f)) (hf : f.Linkable) :
    h.isNode (.ref c) = true := by
  cases hf with
  | genuine hg => exact isNode_of_genuine hc hg
  | foreign mark hk hmark htrue _ =>
    simp [isNode, attr?_entity hc, entityAttr?, hk, hmark, htrue]

theorem link_eq (hc : h.get? c = some (.entity f)) (p : Addr) :
    h.link c p = h.put c (.entity (f.withParent p)) := by
  simp [link, hc]

end Heap

section Linking

variable {σ : Type} {w : World σ} {c p : Addr} {e f : Entity}

/-- Calling an ability that takes its arguments in order. -/
theorem invoke_method (foreign : Caller σ) (fuel : Nat) (a : Addr) {m : Method} {args : List Value}
    (hargs : m.signature.bind args [] = .ok args) (w : World σ) :
    invoke foreign (fuel + 1) (.method a m) args [] w =
      m.run (invoke foreign fuel) fuel (.ref a) args w := by
  rw [invoke]
  simp [bind_apply, hargs]

theorem setAttr_parent (hc : w.heap.get? c = some (.entity f)) (hf : f.Linkable)
    (hp : w.heap.get? p = some (.entity e)) (he : e.Genuine) :
    setAttr (.ref c) "parent" (.ref p) w = .ok () { w with heap := w.heap.link c p } := by
  have hk : f.kind = .smart ∨ f.kind = .plain ∨ f.kind = .record := by
    cases hf with
    | genuine hg => exact hg.kind.imp_right .inl
    | foreign _ hk _ _ _ => exact .inr (.inr hk)
  rw [Heap.link_eq hc]
  rcases hk with hk | hk | hk <;>
    simp [setAttr, bind_apply, Heap.entity?_of_get? hc, Heap.assign, hk, Entity.withParent,
      Heap.linkTo_of_genuine hp he]

/-- A linkable node gets its new parent in one of two ways, to the same effect. -/
theorem linkParent_apply (foreign : Caller σ) (fuel : Nat)
    (hc : w.heap.get? c = some (.entity f)) (hf : f.Linkable)
    (hp : w.heap.get? p = some (.entity e)) (he : e.Genuine) :
    linkParent (invoke foreign (fuel + 1)) (.ref c) (.ref p) w =
      .ok () { w with heap := w.heap.link c p } := by
  have hset := setAttr_parent hc hf hp he
  by_cases hk : f.kind = .smart
  · -- A smart child is told about its parent through an ability of its own.
    have hg : f.Genuine := by
      cases hf with
      | genuine hg => exact hg
      | foreign _ hk' _ _ _ => rw [hk] at hk'; cases hk'
    have hdefine := Heap.capability_of_smart hc hg hk
      (show Method.ofName? "define" = some .define from rfl)
    simp only [linkParent, bind_apply, capability_apply, hdefine]
    rw [invoke_method foreign fuel c rfl]
    simp [Method.run, Smart.define, bind_apply, hset]
  · have hdefine : w.heap.capability (.ref c) "define" = none := by
      cases hf with
      | genuine hg => exact Heap.capability_of_plain hc hg (hg.kind.resolve_left hk) (by decide)
      | foreign _ hk _ _ hdefine =>
        simp only [Heap.capability, Heap.attr?_entity hc, Heap.entityAttr?, hk]
        cases hv : Table.get? f.attrs "define" with
        | none => rfl
        | some v => simp [hdefine v hv]
    simp only [linkParent, bind_apply, capability_apply, hdefine, hset]

end Linking

end TagTree
