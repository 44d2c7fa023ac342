import TagTree.Proofs.Making
import TagTree.Proofs.Phases
import TagTree.Proofs.Preorder

/-!
# Children taken in by what fails

A smart node becomes the parent of a child before it looks for a place among its children, and a new
node takes its children in one after the other. If this fails half-way, the children taken in until
then keep their new parent, while everything else is as it was before. This module says exactly when
it fails, and which children have been taken in by then (`adoption_fails_after_linking`).
-/

namespace TagTree

open Op

/-! ## Being taken in -/

/-- Whether an object of a kind can be told its parent. -/
def Kind.takesParent : Kind → Bool
  | .smart | .plain | .record | .nesting | .handler _ => true
  | .slot | .sealed | .bare | .settings | .ability _ => false

theorem Table.put_put {α : Type} (name : String) (x y : α) (t : Table α) :
    Table.put name y (Table.put name x t) = Table.put name y t := by
  induction t with
  | nil => simp [Table.put]
  | cons entry rest ih =>
    obtain ⟨k, v⟩ := entry
    by_cases hk : k = name
    · simp [Table.put, hk]
    · simp [Table.put, hk, ih]

theorem Entity.withParent_withParent (e : Entity) (p : Addr) :
    (e.withParent p).withParent p = e.withParent p := by
  obtain ⟨kind, attrs, parent⟩ := e
  cases kind <;> simp [Entity.withParent, Table.put_put]

namespace Heap

/-- Whether a value can be made a child: it is a node, of a kind that can be told its parent. -/
def adoptable (h : Heap) (v : Value) : Bool :=
  h.isNode v && (h.entity? v).any (·.kind.takesParent)

/-- A value brings no code of its own that is run when it is told its parent. -/
def Docile (h : Heap) (v : Value) : Prop :=
  ∀ e x, h.entity? v = some e → Table.get? e.attrs "define" = some x → h.callable x = false

/-- A smart node; if something else stands in the place of its list of children, that cannot be
called by the given name. -/
structure Adopter (h : Heap) (s : Addr) (name : String) : Prop where
  smart : ∃ e, h.get? s = some (.entity e) ∧ e.kind = .smart
  mute : ∀ x, h.attr? (.ref s) "nodes" = some x → h.list? x = none → h.capability x name = none

/-- Whether a node has a place for a child: no children yet, or a list of them. -/
def hasRoom (h : Heap) (s : Addr) : Bool :=
  (h.attr? (.ref s) "nodes").any fun nodes ↦ nodes = .null || (h.list? nodes).isSome

/-- Some values were told their parent, and nothing else that was there before was changed. -/
structure TakenIn (h h' : Heap) (p : Addr) (taken : List Value) : Prop where
  grows : h.fresh ≤ h'.fresh
  same : ∀ a, a < h.fresh → .ref a ∉ taken → h'.get? a = h.get? a
  told : ∀ v ∈ taken, ∃ a e, v = .ref a ∧ h.get? a = some (.entity e) ∧
    h'.get? a = some (.entity (e.withParent p))

variable {h h' : Heap} {a c l p : Addr} {e f : Entity} {v x : Value} {taken : List Value}

theorem exists_entity_of_adoptable (hv : h.adoptable v = true) :
    ∃ c f, v = .ref c ∧ h.get? c = some (.entity f) ∧ h.isNode (.ref c) = true ∧
      f.kind.takesParent = true := by
  obtain ⟨hnode, hkind⟩ := Bool.and_eq_true_iff.mp hv
  obtain ⟨c, f, rfl, hc⟩ := exists_entity_of_isNode hnode
  rw [entity?_of_get? hc] at hkind
  exact ⟨c, f, rfl, hc, hnode, hkind⟩

theorem Extends.list?_eq (hext : h.Extends h') (hv : h.Placed v) : h'.list? v = h.list? v := by
  cases v with
  | ref a => simp [list?, object?, hext.same a (hv a rfl)]
  | _ => rfl

theorem nodes_of_hasRoom (hroom : h.hasRoom a = true) :
    h.attr? (.ref a) "nodes" = some .null ∨
      ∃ l items, h.attr? (.ref a) "nodes" = some (.ref l) ∧ h.get? l = some (.list items) := by
  unfold hasRoom at hroom
  cases hx : h.attr? (.ref a) "nodes" with
  | none =>
    rw [hx] at hroom
    cases hroom
  | some x =>
    have hnodes : x = .null ∨ (h.list? x).isSome = true := by simpa [hx] using hroom
    rcases hnodes with rfl | hlist
    · exact .inl rfl
    · obtain ⟨items, hitems⟩ := Option.isSome_iff_exists.mp hlist
      obtain ⟨l, rfl, hl⟩ := get?_of_list? hitems
      exact .inr ⟨l, items, rfl, hl⟩

theorem nodes_of_not_hasRoom (hroom : h.hasRoom a = false)
    (hx : h.attr? (.ref a) "nodes" = some x) : x ≠ .null ∧ h.list? x = none := by
  simpa [hasRoom, hx] using hroom

theorem Extends.takenIn (hext : h.Extends h') (p : Addr) : h.TakenIn h' p [] where
  grows := hext.grows
  same := fun a ha _ ↦ hext.same a ha
  told := fun _ hv ↦ absurd hv List.not_mem_nil

theorem TakenIn.get?_cases (ht : h.TakenIn h' p taken) (ha : a < h.fresh) :
    h'.get? a = h.get? a ∨
      ∃ e, h.get? a = some (.entity e) ∧ h'.get? a = some (.entity (e.withParent p)) := by
  by_cases hmem : .ref a ∈ taken
  · obtain ⟨b, e, hb, he, he'⟩ := ht.told _ hmem
    cases hb
    exact .inr ⟨e, he, he'⟩
  · exact .inl (ht.same a ha hmem)

theorem TakenIn.list {items : List Value} (ht : h.TakenIn h' p taken)
    (hl : h.get? l = some (.list items)) : h'.get? l = some (.list items) := by
  rcases ht.get?_cases (lt_fresh_of_get? hl) with hsame | ⟨e, he, -⟩
  · rw [hsame, hl]
  · rw [hl] at he
    cases he

/-- One more is told its parent. -/
theorem TakenIn.link (ht : h.TakenIn h' p taken) (hc : h.get? c = some (.entity f)) :
    h.TakenIn (h'.link c p) p (taken ++ [.ref c]) where
  grows := by
    rw [fresh_link]
    exact ht.grows
  same := by
    intro a ha hmem
    rw [List.mem_append, not_or, List.mem_singleton, Value.ref.injEq] at hmem
    rw [get?_link_of_ne c p hmem.2, ht.same a ha hmem.1]
  told := by
    intro v hv
    have htold : (h'.link c p).get? c = some (.entity (f.withParent p)) := by
      rcases ht.get?_cases (lt_fresh_of_get? hc) with hsame | ⟨g, hg, hg'⟩
      · exact get?_link_self (hsame.trans hc) p
      · -- It may come twice among the children.
        rw [hc] at hg
        cases hg
        rw [get?_link_self hg' p, Entity.withParent_withParent]
    by_cases hvc : v = .ref c
    · exact ⟨c, f, hvc, hc, htold⟩
    · have hmem : v ∈ taken := by simpa [hvc] using hv
      obtain ⟨a, e, rfl, he, he'⟩ := ht.told v hmem
      have hac : a ≠ c := fun hac ↦ hvc (congrArg Value.ref hac)
      exact ⟨a, e, rfl, he, (get?_link_of_ne c p hac).trans he'⟩

/-- Objects that are new may be replaced. -/
theorem TakenIn.put (ht : h.TakenIn h' p taken) (hl : h.fresh ≤ l) (o : Object) :
    h.TakenIn (h'.put l o) p taken where
  grows := by
    rw [fresh_put]
    exact ht.grows
  same := by
    intro a ha hmem
    rw [get?_put_of_ne o (Nat.ne_of_lt (Nat.lt_of_lt_of_le ha hl)), ht.same a ha hmem]
  told := by
    intro v hv
    obtain ⟨a, e, rfl, he, he'⟩ := ht.told v hv
    have hlt := lt_fresh_of_get? he
    exact ⟨a, e, rfl, he, (get?_put_of_ne o (Nat.ne_of_lt (Nat.lt_of_lt_of_le hlt hl))).trans he'⟩

/-! ## Who can be taken in stays the same -/

theorem Grounded.placed_get? (hg : h.Grounded) (ha : h.get? a = some (.entity e)) {name : String}
    (hx : Table.get? e.attrs name = some x) : h.Placed x := by
  rintro b rfl
  apply hg.targets a
  have hmem : b ∈ e.attrs.filterMap (·.2.target?) :=
    List.mem_filterMap.mpr ⟨_, mem_of_lookup hx, rfl⟩
  simp only [Heap.targets, ha, Option.map_some, Option.getD_some, Object.targets, List.mem_append]
  exact .inl (.inr hmem)

section Sight

variable (ht : h.TakenIn h' p taken)
include ht

theorem TakenIn.truthy_eq (hx : h.Placed x) : h'.truthy x = h.truthy x := by
  cases x with
  | ref a =>
    rcases ht.get?_cases (hx a rfl) with hsame | ⟨e, he, he'⟩
    · simp [truthy, hsame]
    · simp [truthy, he, he']
  | _ => rfl

theorem TakenIn.callable_eq (hx : h.Placed x) : h'.callable x = h.callable x := by
  cases x with
  | ref a =>
    rcases ht.get?_cases (hx a rfl) with hsame | ⟨e, he, he'⟩
    · simp [callable, hsame]
    · obtain ⟨kind, attrs, parent⟩ := e
      cases kind <;> simp [callable, he, he', Entity.withParent]
  | _ => rfl

theorem TakenIn.attr?_eq (ha : a < h.fresh) {name : String} (hname : name ≠ "parent") :
    h'.attr? (.ref a) name = h.attr? (.ref a) name := by
  rcases ht.get?_cases ha with hsame | ⟨e, he, he'⟩
  · exact attr?_congr hsame hname
  · rw [attr?_entity he', attr?_entity he]
    simp only [entityAttr?, Entity.kind_withParent, Entity.get?_withParent hname, hname, if_false,
      Entity.get?_withParent (show "nodes" ≠ "parent" by decide)]

theorem TakenIn.isNode_eq (hg : h.Grounded) (hv : h.Placed v) : h'.isNode v = h.isNode v := by
  cases v with
  | ref a =>
    have hmark : h.Placed (h.attrOrNull (.ref a) "is_node") := hg.placed_attrOrNull a (by decide)
    unfold isNode
    dsimp only
    rw [ht.attr?_eq (hv a rfl) (by decide)]
    cases hx : h.attr? (.ref a) "is_node" with
    | none => rfl
    | some x =>
      rw [attrOrNull, hx] at hmark
      exact ht.truthy_eq hmark
  | _ => rfl

theorem TakenIn.adoptable_eq (hg : h.Grounded) (hv : h.Placed v) :
    h'.adoptable v = h.adoptable v := by
  cases v with
  | ref a =>
    rw [adoptable, adoptable, ht.isNode_eq hg hv]
    rcases ht.get?_cases (hv a rfl) with hsame | ⟨e, he, he'⟩
    · rw [entity?, object?, hsame, entity?, object?]
    · rw [entity?_of_get? he', entity?_of_get? he, Option.any_some, Option.any_some,
        Entity.kind_withParent]
  | _ => rfl

theorem TakenIn.docile (hg : h.Grounded) (hv : h.Placed v) (hd : h.Docile v) : h'.Docile v := by
  cases v with
  | ref a =>
    intro e' x he' hx
    have hget' := get?_of_entity? he'
    have hentity : ∃ e, h.get? a = some (.entity e) ∧ Table.get? e.attrs "define" = some x := by
      rcases ht.get?_cases (hv a rfl) with hsame | ⟨e, he, htold⟩
      · exact ⟨e', hsame.symm.trans hget', hx⟩
      · rw [htold] at hget'
        cases hget'
        exact ⟨e, he, by rwa [Entity.get?_withParent (by decide)] at hx⟩
    obtain ⟨e, he, hx⟩ := hentity
    rw [ht.callable_eq (hg.placed_get? he hx)]
    exact hd e x (entity?_of_get? he) hx
  | _ =>
    intro e x he
    cases he

end Sight

end Heap

/-! ## Telling a child its parent -/

section Telling

variable {σ : Type} {w : World σ} {c s : Addr} {e f : Entity} {v : Value}

section Kinds

variable (hs : w.heap.get? s = some (.entity e)) (hk : e.kind = .smart)
  (hc : w.heap.get? c = some (.entity f))
include hs hk hc

theorem setAttr_parent_of_takes (hf : f.kind.takesParent = true) :
    (setAttr (.ref c) "parent" (.ref s) : Op σ Unit) w =
      .ok () { w with heap := w.heap.link c s } := by
  have hlink : w.heap.linkTo (.ref s) = .weak s := by simp [Heap.linkTo, hs, hk]
  rw [Heap.link_eq hc]
  cases hkind : f.kind <;> rw [hkind] at hf <;>
    simp [setAttr, bind_apply, Heap.entity?_of_get? hc, Heap.assign, hkind, Entity.withParent,
      hlink] <;> cases hf

end Kinds

theorem setAttr_parent_refused (hc : w.heap.get? c = some (.entity f))
    (hf : f.kind.takesParent = false) (x : Value) :
    ∃ fault, (setAttr (.ref c) "parent" x : Op σ Unit) w = .error fault w := by
  have hfield : "parent" ∉ Settings.fieldNames := by decide
  cases hkind : f.kind <;> rw [hkind] at hf <;>
    simp [setAttr, bind_apply, Heap.entity?_of_get? hc, Heap.assign, hkind, hfield] <;> cases hf

/-- A docile object cannot be asked, or it is a smart node and has the ability that all have. -/
theorem Heap.Docile.capability_define {h : Heap} (hd : h.Docile (.ref c))
    (hc : h.get? c = some (.entity f)) :
    h.capability (.ref c) "define" = none ∨
      h.capability (.ref c) "define" = some (.method c .define) := by
  rw [Heap.capability, Heap.attr?_entity hc]
  cases hx : Table.get? f.attrs "define" with
  | none =>
    cases hkind : f.kind <;>
      simp [Heap.entityAttr?, hkind, hx, Heap.smartMember?, Method.ofName?, Heap.callable]
  | some x =>
    have hcall := hd f x (Heap.entity?_of_get? hc) hx
    cases hkind : f.kind <;> simp [Heap.entityAttr?, hkind, hx, hcall]

theorem linkParent_of_docile (foreign : Caller σ) (fuel : Nat)
    (hc : w.heap.get? c = some (.entity f)) (hd : w.heap.Docile (.ref c)) (x : Value) :
    linkParent (invoke foreign (fuel + 1)) (.ref c) x w = setAttr (.ref c) "parent" x w := by
  rw [linkParent, bind_of_ok (capability_apply _ _ w)]
  rcases hd.capability_define hc with hnone | hsome
  · rw [hnone]
  · rw [hsome]
    dsimp only
    rw [bind_apply, invoke_method foreign fuel c rfl, Method.run, Smart.define, bind_apply]
    cases setAttr (.ref c) "parent" x w <;> rfl

end Telling

/-! ## Adding a child to a smart node -/

namespace Smart

variable {σ : Type}

/-- What the abilities to add a child have in common: the child is told its parent, and is then
placed among the children. -/
def addBy (call : Caller σ) (self node : Value) (place : Value → Op σ Unit) : Op σ Value := do
  adopt call self node
  place (← children self)
  return .int (← size (← children self))

theorem callAttr_fails {w : World σ} {x : Value} {name : String}
    (hfirst : name ≠ "first") (hlast : name ≠ "last") (hx : w.heap.capability x name = none)
    (foreign : Caller σ) (fuel : Nat) (args : List Value) :
    ∃ fault, callAttr (invoke foreign fuel) x name args w = .error fault w := by
  cases hattr : w.heap.attr? x name with
  | none =>
    refine ⟨.missingAttribute, bind_of_error ?_ _⟩
    cases he : w.heap.entity? x <;>
      simp [getAttr, bind_apply, Heap.attr, he, hattr, hfirst, hlast]
  | some y =>
    have hcall : w.heap.callable y = false := by
      rw [Heap.capability, hattr] at hx
      simpa using hx
    obtain ⟨fault, hfault, -⟩ := invoke_of_not_callable hcall foreign fuel args []
    exact ⟨fault, (bind_of_ok (getAttr_of_attr? hattr hfirst hlast) _).trans hfault⟩

/-- If what is no list cannot be asked either, nothing happens. -/
theorem place_fails {w : World σ} {x : Value} {place : Value → Op σ Unit}
    {edit : List Value → List Value} {name : String} {args : List Value} {foreign : Caller σ}
    {fuel : Nat} (hplace : Places (invoke foreign fuel) place edit name args)
    (hname : name ∉ Node.reservedNames) (hlist : w.heap.list? x = none)
    (hx : w.heap.capability x name = none) : ∃ fault, place x w = .error fault w := by
  have hfirst : name ≠ "first" := by rintro rfl; exact hname (by decide)
  have hlast : name ≠ "last" := by rintro rfl; exact hname (by decide)
  obtain ⟨fault, hfault⟩ := callAttr_fails hfirst hlast hx foreign fuel args
  exact ⟨fault, (hplace.asks w x hlist).trans (bind_of_error hfault _)⟩

section Adding

variable {w : World σ} {c l s : Addr} {e f : Entity} {v x : Value} {items : List Value}
  {place : Value → Op σ Unit} {edit : List Value → List Value} {name : String}
  {args : List Value} (foreign : Caller σ) (fuel : Nat)

theorem attr?_nodes (hs : w.heap.get? s = some (.entity e)) (hk : e.kind = .smart) :
    w.heap.attr? (.ref s) "nodes" = Table.get? e.attrs "nodes" := by
  simp [Heap.attr?_entity hs, Heap.entityAttr?, hk, Heap.smartMember?, Method.ofName?]

theorem children_of_attr? (hx : w.heap.attr? (.ref s) "nodes" = some x) :
    (children (.ref s) : Op σ Value) w = .ok x w :=
  getAttr_of_attr? hx (by decide) (by decide)

theorem children_fails (hs : w.heap.get? s = some (.entity e))
    (hnone : w.heap.attr? (.ref s) "nodes" = none) :
    (children (.ref s) : Op σ Value) w = .error .missingAttribute w := by
  simp [children, getAttr, bind_apply, Heap.attr, Heap.entity?_of_get? hs, hnone]

/-- What cannot be made a child is refused before anything happens. -/
theorem addBy_of_not_adoptable (hd : w.heap.Docile v) (hv : w.heap.adoptable v = false)
    (self : Value) :
    ∃ fault, addBy (invoke foreign (fuel + 1)) self v place w = .error fault w := by
  by_cases hnode : w.heap.isNode v = true
  · obtain ⟨c, f, rfl, hc⟩ := Heap.exists_entity_of_isNode hnode
    have hkind : f.kind.takesParent = false := by
      simpa [Heap.adoptable, hnode, Heap.entity?_of_get? hc] using hv
    obtain ⟨fault, hfault⟩ := setAttr_parent_refused hc hkind self
    refine ⟨fault, bind_of_error ?_ _⟩
    rw [adopt, bind_of_ok (requireNode_apply hnode _), bind_of_error]
    rw [linkParent_of_docile foreign fuel hc hd, hfault]
  · have hrefused : (requireNode v "node" : Op σ Unit) w =
        .error (.argument (.expected "node" .node) (.str "node")) w :=
      require_apply_false (by simpa using hnode) _ _ w
    exact ⟨_, bind_of_error (bind_of_error hrefused _) _⟩

variable (hs : w.heap.get? s = some (.entity e)) (hk : e.kind = .smart)
  (hc : w.heap.get? c = some (.entity f)) (hnode : w.heap.isNode (.ref c) = true)
  (hf : f.kind.takesParent = true) (hd : w.heap.Docile (.ref c))
include hs hk hc

omit hc in
/-- The parent is still a smart node with the same attributes, even if it is its own child. -/
theorem get?_link_parent (c : Addr) :
    ∃ e', (w.heap.link c s).get? s = some (.entity e') ∧ e'.kind = .smart ∧ e'.attrs = e.attrs := by
  by_cases hsc : s = c
  · subst hsc
    refine ⟨_, Heap.get?_link_self hs s, by rw [Entity.kind_withParent, hk], ?_⟩
    rw [Entity.withParent, hk]
  · exact ⟨e, (Heap.get?_link_of_ne c s hsc).trans hs, hk, rfl⟩

include hnode hf hd

theorem adopt_eq :
    adopt (invoke foreign (fuel + 1)) (.ref s) (.ref c) w =
      (do
        if (← children (.ref s)) = .null then
          setAttr (.ref s) "nodes" (← new (.list [])) : Op σ Unit)
        { w with heap := w.heap.link c s } := by
  have hlink := (linkParent_of_docile foreign fuel hc hd (.ref s)).trans
    (setAttr_parent_of_takes hs hk hc hf)
  rw [adopt, bind_of_ok (requireNode_apply hnode _), bind_of_ok hlink]

/-- A child is added to the list of children. -/
theorem addBy_of_list (hplace : EditsList place edit)
    (hx : w.heap.attr? (.ref s) "nodes" = some (.ref l)) (hl : w.heap.get? l = some (.list items)) :
    addBy (invoke foreign (fuel + 1)) (.ref s) (.ref c) place w =
      .ok (.int (edit items).length)
        { w with heap := (w.heap.link c s).put l (.list (edit items)) } := by
  have hlc : l ≠ c := by
    rintro rfl
    rw [hl] at hc
    cases hc
  have hl' : (w.heap.link c s).get? l = some (.list items) :=
    (Heap.get?_link_of_ne c s hlc).trans hl
  have hx' : (w.heap.link c s).attr? (.ref s) "nodes" = some (.ref l) := by
    rw [Heap.attr?_link hc s (.inr (by decide)), hx]
  have hx'' : ((w.heap.link c s).put l (.list (edit items))).attr? (.ref s) "nodes" =
      some (.ref l) := by
    rw [Heap.attr?_put_list hl', hx']
  have hadopt : adopt (invoke foreign (fuel + 1)) (.ref s) (.ref c) w =
      .ok () { w with heap := w.heap.link c s } := by
    rw [adopt_eq foreign fuel hs hk hc hnode hf hd,
      bind_of_ok (children_of_attr? (w := { w with heap := w.heap.link c s }) hx')]
    rfl
  rw [addBy, bind_of_ok hadopt,
    bind_of_ok (children_of_attr? (w := { w with heap := w.heap.link c s }) hx'),
    bind_of_ok (hplace _ l items hl'),
    bind_of_ok (children_of_attr? (w := { w with heap := (w.heap.link c s).put l _ }) hx''),
    bind_of_ok (size_apply (w := { w with heap := (w.heap.link c s).put l _ })
      (Heap.get?_put_self (Heap.lt_fresh_of_get? hl')))]
  rfl

/-- A child is the first one to be added. -/
theorem addBy_of_null (hplace : EditsList place edit)
    (hx : w.heap.attr? (.ref s) "nodes" = some .null) :
    ∃ result w', addBy (invoke foreign (fuel + 1)) (.ref s) (.ref c) place w = .ok result w' := by
  obtain ⟨e', hs', hk', -⟩ := get?_link_parent hs hk c
  have hx' : (w.heap.link c s).attr? (.ref s) "nodes" = some .null := by
    rw [Heap.attr?_link hc s (.inr (by decide)), hx]
  -- The new list is at the end of the heap, and the parent refers to it.
  let h₁ := (w.heap.link c s).add (.list [])
  let e₁ : Entity := { e' with attrs := Table.put "nodes" (.ref (w.heap.link c s).fresh) e'.attrs }
  let w₁ : World σ := { w with heap := h₁.put s (.entity e₁) }
  have hs₁ : h₁.get? s = some (.entity e') := (Heap.extends_add _ _).found hs'
  have hself : w₁.heap.get? s = some (.entity e₁) := Heap.get?_put_self (Heap.lt_fresh_of_get? hs₁)
  have hne : (w.heap.link c s).fresh ≠ s := Nat.ne_of_gt (Heap.lt_fresh_of_get? hs')
  have hlist : w₁.heap.get? (w.heap.link c s).fresh = some (.list []) := by
    rw [Heap.get?_put_of_ne _ hne, Heap.get?_add_fresh]
  have hnodes : w₁.heap.attr? (.ref s) "nodes" = some (.ref (w.heap.link c s).fresh) := by
    rw [attr?_nodes hself hk', Table.get?_put_self]
  have hadopt : adopt (invoke foreign (fuel + 1)) (.ref s) (.ref c) w = .ok () w₁ := by
    rw [adopt_eq foreign fuel hs hk hc hnode hf hd,
      bind_of_ok (children_of_attr? (w := { w with heap := w.heap.link c s }) hx'), if_pos rfl,
      bind_of_ok (new_apply _ _)]
    simp [setAttr, bind_apply, Heap.entity?_of_get? hs₁, Heap.assign, hk', readOnlyNames, w₁, e₁,
      h₁]
  have hnodes₂ : (w₁.heap.put (w.heap.link c s).fresh (.list (edit []))).attr? (.ref s) "nodes" =
      some (.ref (w.heap.link c s).fresh) := by
    rw [Heap.attr?_put_list hlist, hnodes]
  rw [addBy, bind_of_ok hadopt, bind_of_ok (children_of_attr? hnodes),
    bind_of_ok (hplace _ _ _ hlist),
    bind_of_ok (children_of_attr? (w := { w₁ with heap := w₁.heap.put _ _ }) hnodes₂),
    bind_of_ok (size_apply (w := { w₁ with heap := w₁.heap.put _ _ })
      (Heap.get?_put_self (Heap.lt_fresh_of_get? hlist)))]
  exact ⟨_, _, rfl⟩

/-- There is no place for a child, and it has got its parent nevertheless. -/
theorem addBy_of_unlisted (hplace : Places (invoke foreign (fuel + 1)) place edit name args)
    (hname : name ∉ Node.reservedNames)
    (hx : ∀ x, w.heap.attr? (.ref s) "nodes" = some x → x ≠ .null ∧ w.heap.list? x = none ∧
      w.heap.capability x name = none) :
    ∃ fault, addBy (invoke foreign (fuel + 1)) (.ref s) (.ref c) place w =
      .error fault { w with heap := w.heap.link c s } := by
  obtain ⟨e', hs', -⟩ := get?_link_parent hs hk c
  have hadopt := adopt_eq foreign fuel hs hk hc hnode hf hd
  have hnodes : (w.heap.link c s).attr? (.ref s) "nodes" = w.heap.attr? (.ref s) "nodes" :=
    Heap.attr?_link hc s (.inr (by decide))
  cases hattr : w.heap.attr? (.ref s) "nodes" with
  | none =>
    have hfails := children_fails (w := { w with heap := w.heap.link c s }) hs' (hnodes.trans hattr)
    exact ⟨_, bind_of_error (hadopt.trans (bind_of_error hfails _)) _⟩
  | some x =>
    obtain ⟨hnull, hlist, hcap⟩ := hx x hattr
    have hread := children_of_attr? (w := { w with heap := w.heap.link c s }) (hnodes.trans hattr)
    have hlist' : (w.heap.link c s).list? x = none := by rw [Heap.list?_link hc, hlist]
    have hcap' : (w.heap.link c s).capability x name = none := by
      have hparent : name ≠ "parent" := by rintro rfl; exact hname (by decide)
      rw [Heap.capability, Heap.attr?_link hc s (.inr hparent), Option.filter_eq_none_iff]
      intro y hy
      have hy' : w.heap.callable y = false := by
        simpa using (Option.filter_eq_none_iff.mp hcap) y hy
      rw [Heap.link_eq hc, Heap.callable_put hc _ hy']
      · exact Bool.false_ne_true
      · intro hcallable
        obtain ⟨kind, attrs, parent⟩ := f
        cases kind <;> exact hcallable
    obtain ⟨fault, hfault⟩ := place_fails (w := { w with heap := w.heap.link c s }) hplace hname
      hlist' hcap'
    refine ⟨fault, ?_⟩
    rw [addBy, bind_of_ok (hadopt.trans ((bind_of_ok hread _).trans (by rw [if_neg hnull]; rfl))),
      bind_of_ok hread, bind_of_error hfault]

omit hs hk hc hnode hf hd in
/-- A child is added if it can be and if there is a place for it. Otherwise it has got its parent
nevertheless, unless it cannot have any. -/
theorem addBy_outcome (hplace : Places (invoke foreign (fuel + 1)) place edit name args)
    (hname : name ∉ Node.reservedNames) (hs : w.heap.Adopter s name) (hd : w.heap.Docile v) :
    ((w.heap.adoptable v && w.heap.hasRoom s) = true →
      ∃ result w', addBy (invoke foreign (fuel + 1)) (.ref s) v place w = .ok result w') ∧
    ((w.heap.adoptable v && w.heap.hasRoom s) = false →
      ∃ fault h, addBy (invoke foreign (fuel + 1)) (.ref s) v place w =
          .error fault { w with heap := h } ∧
        w.heap.TakenIn h s ([v].takeWhile w.heap.adoptable)) := by
  obtain ⟨e, he, hk⟩ := hs.smart
  cases hadopt : w.heap.adoptable v with
  | false =>
    obtain ⟨fault, hfault⟩ : ∃ fault,
        addBy (invoke foreign (fuel + 1)) (.ref s) v place w = .error fault w :=
      addBy_of_not_adoptable foreign fuel hd hadopt (.ref s)
    refine ⟨fun htrue ↦ absurd htrue Bool.false_ne_true, fun _ ↦ ⟨fault, w.heap, hfault, ?_⟩⟩
    rw [List.takeWhile_cons, hadopt]
    exact (Heap.Extends.refl w.heap).takenIn s
  | true =>
    obtain ⟨c, f, rfl, hc, hnode, hf⟩ := Heap.exists_entity_of_adoptable hadopt
    refine ⟨fun hroom ↦ ?_, fun hroom ↦ ?_⟩
    · rcases Heap.nodes_of_hasRoom hroom with hnull | ⟨l, items, hl, hitems⟩
      · exact addBy_of_null foreign fuel he hk hc hnode hf hd hplace.edits hnull
      · exact ⟨_, _, addBy_of_list foreign fuel he hk hc hnode hf hd hplace.edits hl hitems⟩
    · obtain ⟨fault, hfault⟩ := addBy_of_unlisted foreign fuel he hk hc hnode hf hd hplace hname
        fun x hx ↦
          have hnone := Heap.nodes_of_not_hasRoom hroom hx
          ⟨hnone.1, hnone.2, hs.mute x hx hnone.2⟩
      refine ⟨fault, _, hfault, ?_⟩
      rw [List.takeWhile_cons, hadopt]
      exact ((Heap.Extends.refl w.heap).takenIn s).link hc

end Adding

end Smart

/-! ## Taking children in, one after the other -/

namespace Node

variable {σ : Type} {w : World σ} {h₀ : Heap} {n l p : Addr} {v : Value}
  {items row taken : List Value}

/-- A new smart node has taken some children into its list. -/
structure Taking (h₀ h : Heap) (p l : Addr) (taken : List Value) : Prop where
  takenIn : h₀.TakenIn h p taken
  self : ∃ e, h.get? p = some (.entity e) ∧ e.kind = .smart
  nodes : h.attr? (.ref p) "nodes" = some (.ref l)
  list : ∃ done, h.get? l = some (.list done)
  new : h₀.fresh ≤ l

section Taking

variable (foreign : Caller σ) (fuel : Nat) (ht : Taking h₀ w.heap p l taken) (hg : h₀.Grounded)
include ht hg

/-- One child is taken in. -/
theorem push_of_adoptable (hv : h₀.Placed v) (hd : h₀.Docile v) (hadopt : h₀.adoptable v = true) :
    ∃ result h, Smart.push (invoke foreign (fuel + 1)) (.ref p) v w =
      .ok result { w with heap := h } ∧ Taking h₀ h p l (taken ++ [v]) := by
  have hadopt' : w.heap.adoptable v = true := by rw [ht.takenIn.adoptable_eq hg hv, hadopt]
  have hd' := ht.takenIn.docile hg hv hd
  obtain ⟨c, f₀, rfl, hc₀, -, -⟩ := Heap.exists_entity_of_adoptable hadopt
  obtain ⟨_, f, hc, hget, hnode, hf⟩ := Heap.exists_entity_of_adoptable hadopt'
  cases hc
  obtain ⟨e, he, hk⟩ := ht.self
  obtain ⟨done, hl⟩ := ht.list
  have hpush := Smart.addBy_of_list foreign fuel he hk hget hnode hf hd'
    (append_editsList (invoke foreign (fuel + 1)) (.ref c)) ht.nodes hl
  obtain ⟨e', he', hk', -⟩ := Smart.get?_link_parent he hk c
  have hlc : l ≠ c := by
    rintro rfl
    rw [hl] at hget
    cases hget
  have hl' : (w.heap.link c p).get? l = some (.list done) := by
    rw [Heap.get?_link_of_ne c p hlc, hl]
  have hpl : p ≠ l := by
    rintro rfl
    rw [hl] at he
    cases he
  refine ⟨_, _, hpush, (ht.takenIn.link hc₀).put ht.new _, ⟨e', ?_, hk'⟩, ?_,
    ⟨done ++ [.ref c], ?_⟩, ht.new⟩
  · rw [Heap.get?_put_of_ne _ hpl, he']
  · rw [Heap.attr?_put_list hl', Heap.attr?_link hget p (.inr (by decide)), ht.nodes]
  · exact Heap.get?_put_self (Heap.lt_fresh_of_get? hl')

theorem push_of_not_adoptable (hv : h₀.Placed v) (hd : h₀.Docile v)
    (hadopt : h₀.adoptable v = false) :
    ∃ fault, Smart.push (invoke foreign (fuel + 1)) (.ref p) v w = .error fault w := by
  have hadopt' : w.heap.adoptable v = false := by rw [ht.takenIn.adoptable_eq hg hv, hadopt]
  exact Smart.addBy_of_not_adoptable foreign fuel (ht.takenIn.docile hg hv hd) hadopt' (.ref p)

/-- Children are taken in up to the first one that cannot be. The induction is on the children that
are left. -/
theorem addChildren_takes {index bound : Nat} (hn : h₀.get? n = some (.list items))
    (hrow : items.drop index = row) (hbound : row.length < bound) (hd : ∀ v ∈ row, h₀.Docile v) :
    ∃ h, Taking h₀ h p l (taken ++ row.takeWhile h₀.adoptable) ∧
      (row.all h₀.adoptable = true →
        addChildren (invoke foreign (fuel + 1)) (.ref p) (.ref n) bound index w =
          .ok () { w with heap := h }) ∧
      (row.all h₀.adoptable = false → ∃ fault,
        addChildren (invoke foreign (fuel + 1)) (.ref p) (.ref n) bound index w =
          .error fault { w with heap := h }) := by
  have hitem (w : World σ) {taken : List Value} (ht : Taking h₀ w.heap p l taken) (index : Nat) :
      (itemAt? (.ref n) index : Op σ (Option Value)) w = .ok items[index]? w :=
    itemAt?_apply (ht.takenIn.list hn) index
  induction row generalizing w taken index bound with
  | nil =>
    obtain ⟨bound, rfl⟩ : ∃ i, bound = i + 1 := ⟨bound - 1, by simp at hbound; omega⟩
    have hnone : items[index]? = none := List.getElem?_eq_none (List.drop_eq_nil_iff.mp hrow)
    refine ⟨w.heap, by simpa using ht, fun _ ↦ ?_, fun hfalse ↦ by simp at hfalse⟩
    rw [addChildren, bind_of_ok (hitem w ht index), hnone]
    rfl
  | cons v row ih =>
    obtain ⟨bound, rfl⟩ : ∃ i, bound = i + 1 := ⟨bound - 1, by simp at hbound; omega⟩
    obtain ⟨hat, hnext⟩ := Document.drop_eq_cons hrow
    have hplaced : h₀.Placed v := by
      have hsequence : h₀.sequence? (.ref n) = some items :=
        Heap.sequence?_eq_some_iff.mpr ⟨n, rfl, .inl hn⟩
      exact hg.items hsequence v (List.mem_of_mem_drop (hrow ▸ List.mem_cons_self))
    have hdocile := hd v List.mem_cons_self
    cases hadopt : h₀.adoptable v with
    | false =>
      obtain ⟨fault, hpush⟩ := push_of_not_adoptable foreign fuel ht hg hplaced hdocile hadopt
      refine ⟨w.heap, ?_, fun htrue ↦ ?_, fun _ ↦ ⟨fault, ?_⟩⟩
      · simpa [List.takeWhile_cons, hadopt] using ht
      · simp [hadopt] at htrue
      · rw [addChildren, bind_of_ok (hitem w ht index), hat]
        exact bind_of_error hpush _
    | true =>
      obtain ⟨result, h₁, hpush, ht₁⟩ :=
        push_of_adoptable foreign fuel ht hg hplaced hdocile hadopt
      obtain ⟨h, htaken, hok, herror⟩ := ih (w := { w with heap := h₁ }) ht₁ hnext
        (Nat.lt_of_succ_lt_succ hbound) (fun u hu ↦ hd u (List.mem_cons_of_mem _ hu))
      have hstep : addChildren (invoke foreign (fuel + 1)) (.ref p) (.ref n) (bound + 1) index w =
          addChildren (invoke foreign (fuel + 1)) (.ref p) (.ref n) bound (index + 1)
            { w with heap := h₁ } := by
        rw [addChildren, bind_of_ok (hitem w ht index), hat]
        exact bind_of_ok hpush _
      rw [hstep, List.all_cons, hadopt, Bool.true_and]
      refine ⟨h, ?_, hok, herror⟩
      simpa [List.takeWhile_cons, hadopt] using htaken

end Taking

/-! ## Making a node -/

/-- Whether a node is made at all: its type is a text, no extra name is reserved, and the children
are in a list if there are any. -/
def Parts.admitted (h : Heap) (parts : Parts) : Bool :=
  isText parts.type && parts.extra.all (fun entry ↦ !isReserved entry.1) &&
    (parts.nodes = .null || (h.list? parts.nodes).isSome)

variable {parts : Parts}

theorem Parts.admitted_iff {h : Heap} :
    parts.admitted h = true ↔ isText parts.type = true ∧
      parts.extra.all (fun entry ↦ !isReserved entry.1) = true ∧
      (parts.nodes = .null ∨ ∃ n items, parts.nodes = .ref n ∧ h.get? n = some (.list items)) := by
  have hlist : (h.list? parts.nodes).isSome = true ↔
      ∃ n items, parts.nodes = .ref n ∧ h.get? n = some (.list items) := by
    rw [Option.isSome_iff_exists]
    constructor
    · rintro ⟨items, hitems⟩
      obtain ⟨n, hn, hget⟩ := Heap.get?_of_list? hitems
      exact ⟨n, items, hn, hget⟩
    · rintro ⟨n, items, hn, hget⟩
      exact ⟨items, by rw [hn, Heap.list?_of_get? hget]⟩
  rw [Parts.admitted, Bool.and_eq_true, Bool.and_eq_true, Bool.or_eq_true, decide_eq_true_eq, hlist,
    and_assoc]

/-- A node that is refused by its type or a name is not made. -/
theorem smart_of_refused (call : Caller σ)
    (hrefused : isText parts.type = false ∨
      parts.extra.all (fun entry ↦ !isReserved entry.1) = false) :
    ∃ fault, smart call parts w = .error fault w := by
  cases htype : isText parts.type with
  | false => exact ⟨_, by simp [smart, htype, bind_apply]; rfl⟩
  | true =>
    have hreserved := hrefused.resolve_left (by simp [htype])
    cases hfind : parts.extra.find? (fun entry ↦ isReserved entry.1) with
    | none =>
      have hall : parts.extra.all (fun entry ↦ !isReserved entry.1) = true := by
        simpa [List.find?_eq_none] using hfind
      rw [hall] at hreserved
      cases hreserved
    | some entry => exact ⟨_, by simp [smart, htype, hfind, bind_apply]; rfl⟩

/-- What is refused before the children are looked at leaves everything as it was. -/
theorem smart_of_not_admitted (hplaced : w.heap.Placed parts.nodes)
    (hnot : parts.admitted w.heap = false) (call : Caller σ) :
    ∃ fault h, smart call parts w = .error fault { w with heap := h } ∧ w.heap.Extends h := by
  by_cases hchecks : isText parts.type = true ∧
      parts.extra.all (fun entry ↦ !isReserved entry.1) = true
  · obtain ⟨htype, hfree⟩ := hchecks
    have hext := extends_started w.heap parts
    obtain ⟨hnull, hlist⟩ : parts.nodes ≠ .null ∧ w.heap.list? parts.nodes = none := by
      simpa [Parts.admitted, htype, hfree] using hnot
    have hrequire : (requireList parts.nodes "nodes" false : Op σ Unit)
        { w with heap := started w.heap parts } =
          .error (.argument (.expected "nodes" .array) (.str "nodes"))
            { w with heap := started w.heap parts } := by
      apply require_apply_false
      rw [hext.list?_eq hplaced, hlist]
      rfl
    refine ⟨.argument (.expected "nodes" .array) (.str "nodes"), started w.heap parts, ?_, hext⟩
    rw [smart_of_started htype hfree call, if_pos hnull, bind_of_error hrequire]
  · obtain ⟨fault, hfault⟩ := smart_of_refused call (by
      rw [not_and_or, Bool.not_eq_true, Bool.not_eq_true] at hchecks
      exact hchecks)
    exact ⟨fault, w.heap, hfault, Heap.Extends.refl w.heap⟩

/-- A new node with an empty list has not taken anything in yet. -/
theorem taking_branched (h : Heap) (parts : Parts) :
    Taking h (branched h parts) (h.fresh + 1) (h.fresh + 2) [] where
  takenIn := by
    have hext := (extends_started h parts).trans (Heap.extends_add _ (.list []))
    exact (hext.takenIn _).put (Nat.le_add_right _ 1) _
  self := ⟨_, get?_branched_self h parts, rfl⟩
  nodes := by
    rw [Heap.attr?_entity (get?_branched_self h parts)]
    simp [Heap.entityAttr?, blank, Table.get?_cons]
  list := ⟨[], get?_branched_list h parts⟩
  new := Nat.le_add_right _ 2

/-- A node is made that takes in the children in a list, up to the first that cannot be taken in. -/
theorem smart_takes (foreign : Caller σ) (fuel : Nat) (hg : w.heap.Grounded)
    (htype : isText parts.type = true)
    (hfree : parts.extra.all (fun entry ↦ !isReserved entry.1) = true)
    (hnodes : parts.nodes = .ref n) (hn : w.heap.get? n = some (.list items))
    (hd : ∀ v ∈ items, w.heap.Docile v) :
    (items.all w.heap.adoptable = true →
      ∃ result w', smart (invoke foreign (fuel + 1)) parts w = .ok result w') ∧
    (items.all w.heap.adoptable = false →
      ∃ fault h, smart (invoke foreign (fuel + 1)) parts w = .error fault { w with heap := h } ∧
        w.heap.TakenIn h (w.heap.fresh + 1) (items.takeWhile w.heap.adoptable)) := by
  obtain ⟨h, ht, hok, herror⟩ := addChildren_takes
    (w := { w with heap := branched w.heap parts }) foreign fuel (taking_branched w.heap parts) hg
    hn List.drop_zero (Nat.lt_add_of_pos_right (by decide : 0 < walkDepth)) hd
  rw [smart_of_branched htype hfree _ hnodes hn]
  constructor
  · intro hall
    obtain ⟨e, he, hk⟩ := ht.self
    have hparent := setParent_apply (w := { w with heap := h }) he hk parts.parent
    exact ⟨_, _, (bind_of_ok (hok hall) _).trans hparent⟩
  · intro hall
    obtain ⟨fault, hfault⟩ := herror hall
    exact ⟨fault, h, bind_of_error hfault _, ht.takenIn⟩

end Node

/-! ## Adoptions -/

/-- Something that makes a smart node the parent of other nodes. -/
inductive Adoption
  | make (parts : Node.Parts)
  | push (self : Addr) (node : Value)
  | unshift (self : Addr) (node : Value)

namespace Adoption

variable {σ : Type}

def run (call : Caller σ) : Adoption → Op σ Value
  | make parts => Node.smart call parts
  | push self node => Smart.push call (.ref self) node
  | unshift self node => Smart.unshift call (.ref self) node

/-- The values that are to be children. -/
def candidates (h : Heap) : Adoption → List Value
  | make parts => (h.list? parts.nodes).getD []
  | push _ node | unshift _ node => [node]

/-- The node that is to be their parent; a new node is the second object that is made. -/
def parent (h : Heap) : Adoption → Addr
  | make _ => h.fresh + 1
  | push self _ | unshift self _ => self

/-- Whether an adoption gets as far as its candidates. -/
def admitted (h : Heap) : Adoption → Bool
  | make parts => parts.admitted h
  | push _ _ | unshift _ _ => true

/-- Whether the parent has a place for its children. -/
def hasRoom (h : Heap) : Adoption → Bool
  | make _ => true
  | push self _ | unshift self _ => h.hasRoom self

def succeeds (h : Heap) (a : Adoption) : Bool :=
  a.admitted h && (a.candidates h).all h.adoptable && a.hasRoom h

/-- The candidates that are told their parent. -/
def taken (h : Heap) (a : Adoption) : List Value :=
  if a.admitted h then (a.candidates h).takeWhile h.adoptable else []

/-- No code from outside is run: the candidates are docile, and so is whatever a smart node has for
a list of children. -/
structure Direct (h : Heap) (a : Adoption) : Prop where
  docile : ∀ v ∈ a.candidates h, h.Docile v
  ready : match a with
    | make parts => h.Placed parts.nodes
    | push self _ => h.Adopter self "append"
    | unshift self _ => h.Adopter self "insert"

theorem succeeds_push (h : Heap) (self : Addr) (node : Value) :
    (push self node).succeeds h = (h.adoptable node && h.hasRoom self) := by
  simp [succeeds, admitted, candidates, hasRoom]

theorem succeeds_unshift (h : Heap) (self : Addr) (node : Value) :
    (unshift self node).succeeds h = (h.adoptable node && h.hasRoom self) := by
  simp [succeeds, admitted, candidates, hasRoom]

variable {w : World σ} (foreign : Caller σ) (fuel : Nat)

/-- A node is made of which all children can be taken in. -/
theorem make_succeeds {parts : Node.Parts} (hg : w.heap.Grounded)
    (hdirect : (make parts).Direct w.heap) (hsucceeds : (make parts).succeeds w.heap = true) :
    ∃ result w', Node.smart (invoke foreign (fuel + 1)) parts w = .ok result w' := by
  obtain ⟨hadmitted, hall⟩ : parts.admitted w.heap = true ∧
      ((w.heap.list? parts.nodes).getD []).all w.heap.adoptable = true := by
    simpa only [succeeds, admitted, candidates, hasRoom, Bool.and_true, Bool.and_eq_true]
      using hsucceeds
  obtain ⟨htype, hfree, hnull | ⟨n, items, hnodes, hn⟩⟩ := Node.Parts.admitted_iff.mp hadmitted
  · exact ⟨_, _, (Node.smart_of_childless htype hfree _ hnull).trans
      (Node.setParent_apply (w := { w with heap := Node.started w.heap parts })
        (Node.get?_started_self w.heap parts) rfl parts.parent)⟩
  · have hlist : w.heap.list? parts.nodes = some items := by rw [hnodes, Heap.list?_of_get? hn]
    have hd : ∀ v ∈ items, w.heap.Docile v := by simpa [candidates, hlist] using hdirect.docile
    rw [hlist] at hall
    exact (Node.smart_takes foreign fuel hg htype hfree hnodes hn hd).1 hall

/-- A node is not made, and the children before the first that cannot be one have got a parent. -/
theorem make_fails {parts : Node.Parts} (hg : w.heap.Grounded)
    (hdirect : (make parts).Direct w.heap) (hfails : (make parts).succeeds w.heap = false) :
    ∃ fault h, Node.smart (invoke foreign (fuel + 1)) parts w = .error fault { w with heap := h } ∧
      w.heap.TakenIn h (w.heap.fresh + 1) ((make parts).taken w.heap) := by
  cases hadmitted : parts.admitted w.heap with
  | false =>
    obtain ⟨fault, h, hsmart, hext⟩ :=
      Node.smart_of_not_admitted hdirect.ready hadmitted (invoke foreign (fuel + 1))
    refine ⟨fault, h, hsmart, ?_⟩
    rw [taken, admitted, hadmitted]
    exact hext.takenIn _
  | true =>
    have hall : ((w.heap.list? parts.nodes).getD []).all w.heap.adoptable = false := by
      simpa only [succeeds, admitted, candidates, hasRoom, Bool.and_true, hadmitted, Bool.true_and]
        using hfails
    rw [taken, admitted, hadmitted, candidates]
    obtain ⟨htype, hfree, hnull | ⟨n, items, hnodes, hn⟩⟩ := Node.Parts.admitted_iff.mp hadmitted
    · rw [hnull] at hall
      cases hall
    · have hlist : w.heap.list? parts.nodes = some items := by rw [hnodes, Heap.list?_of_get? hn]
      have hd : ∀ v ∈ items, w.heap.Docile v := by simpa [candidates, hlist] using hdirect.docile
      rw [hlist] at hall ⊢
      exact (Node.smart_takes foreign fuel hg htype hfree hnodes hn hd).2 hall

end Adoption

/-- An adoption that runs no code from outside succeeds if it is admitted, all candidates can be
children and there is a place for them. Otherwise it fails; the candidates before the first that
cannot be a child have got their new parent then, even if there is no place for them, and everything
else is exactly as it was. -/
theorem adoption_fails_after_linking {σ : Type} {w : World σ} (foreign : Caller σ) (fuel : Nat)
    (a : Adoption) (hg : w.heap.Grounded) (hdirect : a.Direct w.heap) :
    (a.succeeds w.heap = true →
      ∃ result w', a.run (invoke foreign (fuel + 1)) w = .ok result w') ∧
    (a.succeeds w.heap = false →
      ∃ fault h, a.run (invoke foreign (fuel + 1)) w = .error fault { w with heap := h } ∧
        w.heap.TakenIn h (a.parent w.heap) (a.taken w.heap)) := by
  cases a with
  | make parts =>
    exact ⟨Adoption.make_succeeds foreign fuel hg hdirect,
      Adoption.make_fails foreign fuel hg hdirect⟩
  | push self node =>
    have hd := hdirect.docile node List.mem_cons_self
    rw [Adoption.succeeds_push]
    exact Smart.addBy_outcome foreign fuel (append_places _ node) (by decide) hdirect.ready hd
  | unshift self node =>
    have hd := hdirect.docile node List.mem_cons_self
    rw [Adoption.succeeds_unshift]
    exact Smart.addBy_outcome foreign fuel (prepend_places _ node) (by decide) hdirect.ready hd

/-- A world with a smart node at 0 that has its children in a tuple, and another node at 2. -/
def tupleKeeper : World Unit where
  heap := ⟨#[some (.entity ⟨.smart, [("type", .str "s"), ("nodes", .ref 1)], .absent⟩),
    some (.tuple []),
    some (.entity ⟨.smart, [("type", .str "c"), ("nodes", .null)], .absent⟩)]⟩
  client := ()

/-- Nothing can be appended to a tuple, but the node that was to be appended has a parent. -/
theorem push_tupleKeeper :
    let foreign : Caller Unit := fun _ _ _ ↦ return .null
    tupleKeeper.heap.adoptable (.ref 2) = true ∧ tupleKeeper.heap.hasRoom 0 = false ∧
      ∃ fault h, Smart.push (invoke foreign 1) (.ref 0) (.ref 2) tupleKeeper =
          .error fault { tupleKeeper with heap := h } ∧ tupleKeeper.heap.TakenIn h 0 [.ref 2] := by
  intro foreign
  have hground : tupleKeeper.heap.Grounded := by
    apply Heap.grounded_of_lt_fresh
    · intro a ha b hb
      rcases eq_of_lt_three ha with rfl | rfl | rfl
      · obtain rfl := List.mem_singleton.mp hb
        decide
      · cases hb
      · cases hb
    · intro a ha e q hget hq
      rcases eq_of_lt_three ha with rfl | rfl | rfl <;> cases hget <;> cases hq
  have hdirect : (Adoption.push 0 (.ref 2)).Direct tupleKeeper.heap := by
    refine ⟨fun v hv e x he hx ↦ ?_, ⟨_, rfl, rfl⟩, fun x hx _ ↦ ?_⟩
    · obtain rfl := List.mem_singleton.mp hv
      cases he
      cases hx
    · cases hx
      rfl
  exact ⟨rfl, rfl,
    (adoption_fails_after_linking foreign 0 (.push 0 (.ref 2)) hground hdirect).2 rfl⟩

/-- A world with a node at 0 that is the only child of the node at 1, and a list at 3 in which it is
followed by something that is no node. -/
def strangerBehind : World Unit where
  heap := ⟨#[some (.entity ⟨.smart, [("type", .str "c"), ("nodes", .null)], .weak 1⟩),
    some (.entity ⟨.smart, [("type", .str "q"), ("nodes", .ref 2)], .absent⟩),
    some (.list [.ref 0]),
    some (.list [.ref 0, .null])]⟩
  client := ()

/-- No node can be made from that list, but the attempt takes the child away from its parent. -/
theorem child_of_strangerBehind_is_lost :
    let call : Caller Unit := invoke (fun _ _ _ ↦ return .null) 1
    strangerBehind.heap.attrOrNull (.ref 0) "parent" = .ref 1 ∧
      ∃ w', Node.smart call { type := .str "p", nodes := .ref 3 } strangerBehind =
          .error (.argument (.expected "node" .node) (.str "node")) w' ∧
        w'.heap.attrOrNull (.ref 0) "parent" = .ref 5 := by
  intro call
  exact ⟨rfl, _, rfl, rfl⟩

end TagTree
