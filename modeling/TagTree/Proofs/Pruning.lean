import Mathlib.Data.List.Sort
import TagTree.Proofs.Leaves

/-!
# Pruning on the way

A function that is called on the nodes of a walk may take away the children of the node it is called
on. The walk looks for children after the call, so it passes over what was below. If the function
neutralises some nodes and then sends the payload of each node to a sink, the walk comes to exactly
the nodes that are not below a neutralised one, in pre-order, and the sink receives their payloads,
with an empty text for each neutralised node (`visit_prunes`). What is not neutralised keeps its
children, so that each node keeps its place among its siblings.
-/

namespace TagTree

open Op

/-! ## Neutral nodes -/

namespace Table

variable {α : Type}

/-- Gives a name another value if it has one. -/
def replace (name : String) (value : α) (t : Table α) : Table α :=
  if t.contains name then t.put name value else t

theorem get?_replace_self (name : String) (value : α) (t : Table α) :
    (t.replace name value).get? name = (t.get? name).map fun _ ↦ value := by
  unfold replace contains
  cases hget : t.get? name <;> simp [hget]

theorem get?_replace_of_ne {name other : String} (h : other ≠ name) (value : α) (t : Table α) :
    (t.replace name value).get? other = t.get? other := by
  unfold replace
  split
  · exact get?_put_of_ne h value t
  · rfl

end Table

namespace Entity

/-- The attributes that a node loses when it is neutralised. -/
def contentNames : List String :=
  ["nodes", "type", "value", "val"]

/-- A node that was turned into an empty text node. -/
def neutral (e : Entity) : Entity :=
  { e with
    attrs := Table.replace "val" (.str "") (Table.put "value" (.str "")
      (Table.put "type" (.str "text") (Table.replace "nodes" .null e.attrs))) }

variable {e : Entity} {name : String}

theorem get?_neutral (hname : name ∉ contentNames) :
    Table.get? e.neutral.attrs name = Table.get? e.attrs name := by
  simp only [contentNames, List.mem_cons, List.not_mem_nil, or_false, not_or] at hname
  obtain ⟨hnodes, htype, hvalue, hval⟩ := hname
  rw [neutral, Table.get?_replace_of_ne hval, Table.get?_put_of_ne hvalue,
    Table.get?_put_of_ne htype, Table.get?_replace_of_ne hnodes]

theorem get?_neutral_nodes :
    Table.get? e.neutral.attrs "nodes" = (Table.get? e.attrs "nodes").map fun _ ↦ .null := by
  rw [neutral, Table.get?_replace_of_ne (by decide), Table.get?_put_of_ne (by decide),
    Table.get?_put_of_ne (by decide), Table.get?_replace_self]

theorem get?_neutral_value : Table.get? e.neutral.attrs "value" = some (.str "") := by
  rw [neutral, Table.get?_replace_of_ne (by decide), Table.get?_put_self]

theorem get?_neutral_val :
    Table.get? e.neutral.attrs "val" = (Table.get? e.attrs "val").map fun _ ↦ .str "" := by
  rw [neutral, Table.get?_replace_self, Table.get?_put_of_ne (by decide),
    Table.get?_put_of_ne (by decide), Table.get?_replace_of_ne (by decide)]

/-- No node is told by such an attribute. -/
theorem Genuine.withAttrs (hg : e.Genuine) {attrs : Table Value}
    (hattrs : ∀ name, name ∉ contentNames → Table.get? attrs name = Table.get? e.attrs name) :
    Entity.Genuine { e with attrs := attrs } where
  kind := hg.kind
  unhidden := by
    have hapart : ∀ name ∈ e.kind.ownNames, name ∉ contentNames := by
      rcases hg.kind with hk | hk <;> rw [hk] <;> decide
    intro name hname
    rw [hattrs name (hapart name hname), hg.unhidden name hname]

theorem Genuine.put (hg : e.Genuine) (hname : name ∈ contentNames) (x : Value) :
    Entity.Genuine { e with attrs := Table.put name x e.attrs } := by
  apply hg.withAttrs
  intro other hother
  apply Table.get?_put_of_ne
  rintro rfl
  exact hother hname

theorem Genuine.replace (hg : e.Genuine) (hname : name ∈ contentNames) (x : Value) :
    Entity.Genuine { e with attrs := Table.replace name x e.attrs } := by
  unfold Table.replace
  split
  · exact hg.put hname x
  · exact hg

theorem Genuine.neutral (hg : e.Genuine) : e.neutral.Genuine :=
  hg.withAttrs fun _ hname ↦ get?_neutral hname

end Entity

namespace Heap

variable {h : Heap} {a : Addr} {e : Entity}

theorem put_put (o o' : Object) : (h.put a o).put a o' = h.put a o' := by
  simp [put]

/-- A node is not called itself. -/
theorem callable_put_of_genuine (ha : h.get? a = some (.entity e)) (hg : e.Genuine) (o : Object)
    {v : Value} (hv : h.callable v = true) : (h.put a o).callable v = true := by
  cases v with
  | ref b =>
    obtain ⟨o', hb, ho'⟩ := (callable_ref h b).mp hv
    have hne : b ≠ a := by
      rintro rfl
      rw [ha] at hb
      cases hb
      obtain ⟨kind, attrs, parent⟩ := e
      have hkind : kind = .smart ∨ kind = .plain := hg.kind
      rcases hkind with rfl | rfl <;> cases ho'
    exact (callable_ref _ b).mpr ⟨o', by rw [get?_put_of_ne o hne, hb], ho'⟩
  | _ => exact hv

/-- What could be called under another name still can. -/
theorem capability_put_neutral (ha : h.get? a = some (.entity e)) (hg : e.Genuine) {v x : Value}
    {name : String} (hname : name ∉ Entity.contentNames) (hparent : name ≠ "parent")
    (hchildren : name ≠ "children") (hx : h.capability v name = some x) :
    (h.put a (.entity e.neutral)).capability v name = some x := by
  obtain ⟨hattr, hcallable⟩ := Option.filter_eq_some_iff.mp hx
  refine Option.filter_eq_some_iff.mpr ⟨?_, callable_put_of_genuine ha hg _ hcallable⟩
  rw [← hattr]
  by_cases hv : v = .ref a
  · subst hv
    rw [attr?_entity (get?_put_self (lt_fresh_of_get? ha)), attr?_entity ha, entityAttr?_put ha]
    have hkind : e.neutral.kind = e.kind := rfl
    simp only [entityAttr?, hkind, Entity.get?_neutral hname, hparent, hchildren, if_false]
  · exact attr?_put_of_ne ha _ hv name

/-- A neutral node has nothing to say. -/
theorem truthy_payload_neutral (ha : h.get? a = some (.entity e.neutral)) (hg : e.Genuine) :
    h.truthy (h.payload (.ref a)) = false := by
  rw [payload, attrOrNull_of_genuine ha hg.neutral (by decide), Entity.get?_neutral_value,
    attrOrNull_of_genuine ha hg.neutral (by decide), Entity.get?_neutral_val]
  cases Table.get? e.attrs "val" <;> rfl

end Heap

section Neutralising

variable {σ : Type} {w : World σ} {a : Addr} {e : Entity}

/-- Assigning an attribute that a node may have or not. -/
theorem replaceAttr_apply (ha : w.heap.get? a = some (.entity e)) (hg : e.Genuine)
    {name : String} (hname : name ∉ Node.reservedNames) (x : Value) :
    (do if ((← heap).attr? (.ref a) name).isSome then setAttr (.ref a) name x : Op σ Unit) w =
      .ok () { w with
        heap := w.heap.put a (.entity { e with attrs := Table.replace name x e.attrs }) } := by
  rw [bind_of_ok (heap_apply w), Heap.attr?_of_genuine ha hg hname, Table.replace, Table.contains]
  split
  · exact setAttr_of_genuine ha hg hname x
  · rw [Heap.put_get? ha]
    rfl

/-- Neutralising a node changes nothing else. -/
theorem neutralise_apply (ha : w.heap.get? a = some (.entity e)) (hg : e.Genuine) :
    (Payload.neutralise (.ref a) .null : Op σ Unit) w =
      .ok () { w with heap := w.heap.put a (.entity e.neutral) } := by
  have hoptional (c : Bool) (x next : Op σ Unit) :
      (if c then (do x; next) else next) = (do (if c then x else pure ()); next) := by
    cases c <;> rfl
  -- Each step replaces the node that the step before has left.
  let holding (f : Entity) : World σ := { w with heap := w.heap.put a (.entity f) }
  have hfound (f : Entity) : (holding f).heap.get? a = some (.entity f) :=
    Heap.get?_put_self (Heap.lt_fresh_of_get? ha)
  have hholding (f f' : Entity) : { holding f with heap := (holding f).heap.put a (.entity f') } =
      holding f' := by
    simp only [holding, Heap.put_put]
  have hset {f : Entity} (hf : f.Genuine) {name : String} (hname : name ∉ Node.reservedNames)
      (x : Value) : (setAttr (.ref a) name x : Op σ Unit) (holding f) =
        .ok () (holding { f with attrs := Table.put name x f.attrs }) := by
    rw [setAttr_of_genuine (hfound f) hf hname, hholding]
  have hg₁ := hg.replace (show "nodes" ∈ Entity.contentNames by decide) .null
  have hg₂ := hg₁.put (show "type" ∈ Entity.contentNames by decide) (.str "text")
  have hg₃ := hg₂.put (show "value" ∈ Entity.contentNames by decide) (.str "")
  calc (Payload.neutralise (.ref a) .null : Op σ Unit) w
      = (do
          requireNode (.ref a) "node"
          (do if ((← heap).attr? (.ref a) "nodes").isSome then setAttr (.ref a) "nodes" .null)
          setAttr (.ref a) "type" (.str "text")
          setAttr (.ref a) "value" (.str "")
          (do if ((← heap).attr? (.ref a) "val").isSome then setAttr (.ref a) "val" (.str "")) :
            Op σ Unit) w := by
        simp only [Payload.neutralise, ne_eq, not_true_eq_false, if_false, hoptional, bind_assoc]
    _ = .ok () (holding e.neutral) := by
        have hnodes := replaceAttr_apply ha hg (show "nodes" ∉ Node.reservedNames by decide) .null
        have htype := hset hg₁ (show "type" ∉ Node.reservedNames by decide) (.str "text")
        have hvalue := hset hg₂ (show "value" ∉ Node.reservedNames by decide) (.str "")
        have hval := replaceAttr_apply (hfound _) hg₃
          (show "val" ∉ Node.reservedNames by decide) (.str "")
        rw [hholding] at hval
        rw [bind_of_ok (requireNode_apply (Heap.isNode_of_genuine ha hg) _), bind_of_ok hnodes,
          bind_of_ok htype, bind_of_ok hvalue]
        exact hval

end Neutralising

/-! ## Tours that pass over what is below some nodes -/

/-- A tour of a row of values that does not go below the given nodes. -/
inductive Pruned (h : Heap) (S : Finset Value) : Nat → List Value → List (List Nat × Value) → Prop
  | nil (index : Nat) : Pruned h S index [] []
  | cut {index : Nat} {v : Value} {row : List Value} {later : List (List Nat × Value)} : v ∈ S →
    Pruned h S (index + 1) row later → Pruned h S index (v :: row) (([index], v) :: later)
  | pass {index : Nat} {v : Value} {items row : List Value}
      {inner later : List (List Nat × Value)} : v ∉ S → h.meet v = .node items →
    Pruned h S 0 items inner → Pruned h S (index + 1) row later →
    Pruned h S index (v :: row) (([index], v) :: inner.map (under index) ++ later)

namespace Heap

/-- None of the given nodes is above a position of the unfoldings of several values. -/
def RowUnpruned (h : Heap) (S : Finset Value) (index : Nat) (row : List Value) (path : List Nat) :
    Prop :=
  ∀ q u, q <+: path → q ≠ path → h.rowAt? index row q = some u → u ∉ S

/-- None of the given nodes is above a position of the unfolding of a value. -/
def Unpruned (h : Heap) (S : Finset Value) (root : Value) (path : List Nat) : Prop :=
  ∀ q u, q <+: path → q ≠ path → h.descend? root q = some u → u ∉ S

variable {h : Heap} {S : Finset Value} {v x root : Value} {row : List Value} {index : Nat}
  {path : List Nat}

theorem rowUnpruned_first : h.RowUnpruned S index row [index] := by
  intro q u hq hne hu
  rcases List.prefix_cons_iff.mp hq with rfl | ⟨r, rfl, hr⟩
  · cases hu
  · obtain rfl := List.prefix_nil.mp hr
    exact absurd rfl hne

theorem rowUnpruned_under_iff {q : List Nat} (hx : h.rowAt? 0 (h.below v) q = some x) :
    h.RowUnpruned S index (v :: row) (index :: q) ↔ v ∉ S ∧ h.RowUnpruned S 0 (h.below v) q := by
  obtain ⟨i, rest, rfl, -⟩ := exists_cons_of_rowAt? hx
  constructor
  · intro hclear
    refine ⟨hclear [index] v (by simp) (by simp) (rowAt?_cons_iff.mpr (.inl ⟨rfl, rfl⟩)), ?_⟩
    intro r u hr hne hu
    exact hclear (index :: r) u (List.cons_prefix_cons.mpr ⟨rfl, hr⟩) (by simpa using hne)
      (rowAt?_cons_iff.mpr (.inr (.inl ⟨r, rfl, hu⟩)))
  · rintro ⟨hv, hclear⟩ r u hr hne hu
    rcases rowAt?_cons_iff.mp hu with ⟨-, rfl⟩ | ⟨r, rfl, hinner⟩ | hlater
    · exact hv
    · exact hclear r u (List.cons_prefix_cons.mp hr).2 (by simpa using hne) hinner
    · obtain ⟨j, r, rfl, hj⟩ := exists_cons_of_rowAt? hlater
      have hjindex := (List.cons_prefix_cons.mp hr).1
      omega

theorem rowUnpruned_later_iff (hx : h.rowAt? (index + 1) row path = some x) :
    h.RowUnpruned S index (v :: row) path ↔ h.RowUnpruned S (index + 1) row path := by
  obtain ⟨i, rest, rfl, hi⟩ := exists_cons_of_rowAt? hx
  -- No position that begins with another index leads there.
  have hfar {r : List Nat} (hr : index :: r <+: i :: rest) : False := by
    have hsame := (List.cons_prefix_cons.mp hr).1
    omega
  constructor
  · intro hclear q u hq hne hu
    exact hclear q u hq hne (rowAt?_cons_iff.mpr (.inr (.inr hu)))
  · intro hclear q u hq hne hu
    rcases rowAt?_cons_iff.mp hu with ⟨rfl, -⟩ | ⟨r, rfl, -⟩ | hlater
    · exact (hfar hq).elim
    · exact (hfar hq).elim
    · exact hclear q u hq hne hlater

theorem rowUnpruned_singleton_iff :
    h.RowUnpruned S 0 [root] (0 :: path) ↔ h.Unpruned S root path := by
  constructor
  · intro hclear q u hq hne hu
    exact hclear (0 :: q) u (List.cons_prefix_cons.mpr ⟨rfl, hq⟩) (by simpa using hne)
      (rowAt?_singleton_iff.mpr ⟨rfl, hu⟩)
  · intro hclear q u hq hne hu
    obtain ⟨i, r, rfl, -⟩ := exists_cons_of_rowAt? hu
    obtain ⟨rfl, hr⟩ := rowAt?_singleton_iff.mp hu
    exact hclear r u (List.cons_prefix_cons.mp hq).2 (by simpa using hne) hr

end Heap

section PrunedTours

variable {h : Heap} {S : Finset Value} {row : List Value} {index : Nat}
  {stops kept : List (List Nat × Value)}

/-- A tour can be pruned. -/
theorem Tour.exists_pruned {ending : Option Fault} (ht : Tour h index row stops ending)
    (hending : ending = none) (S : Finset Value) :
    ∃ kept, Pruned h S index row kept ∧ kept.Sublist stops := by
  induction ht with
  | nil index => exact ⟨[], .nil index, .refl _⟩
  | stranger | misshapen | stop => cases hending
  | @pass index v items row inner later ending hv _ _ ihinner ihlater =>
    obtain ⟨kept, hkept, hsub⟩ := ihinner rfl
    obtain ⟨kept', hkept', hsub'⟩ := ihlater hending
    by_cases hS : v ∈ S
    · exact ⟨_, .cut hS hkept', (hsub'.trans (List.sublist_append_right _ _)).cons_cons _⟩
    · exact ⟨_, .pass hS hv hkept hkept', ((hsub.map _).append hsub').cons_cons _⟩

/-- A pruned tour stops at what is not below one of the given nodes. -/
theorem Pruned.mem_iff (hp : Pruned h S index row kept) (path : List Nat) (x : Value) :
    (path, x) ∈ kept ↔ h.rowAt? index row path = some x ∧ h.RowUnpruned S index row path := by
  induction hp generalizing path x with
  | nil => simp
  | @cut index v row later hS _ ih =>
    rw [List.mem_cons, Prod.mk.injEq, Heap.rowAt?_cons_iff]
    constructor
    · rintro (⟨rfl, rfl⟩ | hlater)
      · exact ⟨.inl ⟨rfl, rfl⟩, Heap.rowUnpruned_first⟩
      · obtain ⟨hx, hclear⟩ := (ih path x).mp hlater
        exact ⟨.inr (.inr hx), (Heap.rowUnpruned_later_iff hx).mpr hclear⟩
    · rintro ⟨hfirst | ⟨q, rfl, hx⟩ | hx, hclear⟩
      · exact .inl hfirst
      · exact absurd hS ((Heap.rowUnpruned_under_iff hx).mp hclear).1
      · exact .inr ((ih path x).mpr ⟨hx, (Heap.rowUnpruned_later_iff hx).mp hclear⟩)
  | @pass index v items row inner later hS hv _ _ ihinner ihlater =>
    rw [List.cons_append, List.mem_cons, List.mem_append, Prod.mk.injEq, mem_map_under,
      Heap.rowAt?_cons_iff]
    rw [← Heap.below_of_meet hv] at ihinner
    constructor
    · rintro (⟨rfl, rfl⟩ | ⟨q, rfl, hq⟩ | hlater)
      · exact ⟨.inl ⟨rfl, rfl⟩, Heap.rowUnpruned_first⟩
      · obtain ⟨hx, hclear⟩ := (ihinner q x).mp hq
        exact ⟨.inr (.inl ⟨q, rfl, hx⟩), (Heap.rowUnpruned_under_iff hx).mpr ⟨hS, hclear⟩⟩
      · obtain ⟨hx, hclear⟩ := (ihlater path x).mp hlater
        exact ⟨.inr (.inr hx), (Heap.rowUnpruned_later_iff hx).mpr hclear⟩
    · rintro ⟨hfirst | ⟨q, rfl, hx⟩ | hx, hclear⟩
      · exact .inl hfirst
      · have hinner := (Heap.rowUnpruned_under_iff hx).mp hclear
        exact .inr (.inl ⟨q, rfl, (ihinner q x).mpr ⟨hx, hinner.2⟩⟩)
      · exact .inr (.inr ((ihlater path x).mpr ⟨hx, (Heap.rowUnpruned_later_iff hx).mp hclear⟩))

/-- A tour of the unfolding of a value that does not go below the given nodes. -/
inductive PrunedFrom (h : Heap) (S : Finset Value) (root : Value) : List (List Nat × Value) → Prop
  | cut : root ∈ S → PrunedFrom h S root [([], root)]
  | pass {items : List Value} {inner : List (List Nat × Value)} : root ∉ S →
    h.meet root = .node items → Pruned h S 0 items inner →
    PrunedFrom h S root (([], root) :: inner)

theorem PrunedFrom.pruned {root : Value} (hp : PrunedFrom h S root kept) :
    Pruned h S 0 [root] (kept.map (under 0)) := by
  cases hp with
  | cut hS => exact .cut hS (.nil 1)
  | @pass items inner hS hmeet hinner =>
    have hpass := Pruned.pass hS hmeet hinner (.nil 1)
    rwa [List.append_nil] at hpass

theorem PrunedFrom.mem_iff {root : Value} (hp : PrunedFrom h S root kept) (path : List Nat)
    (v : Value) : (path, v) ∈ kept ↔ h.descend? root path = some v ∧ h.Unpruned S root path :=
  calc (path, v) ∈ kept
      ↔ (0 :: path, v) ∈ kept.map (under 0) := by
        rw [mem_map_under]
        simp
    _ ↔ h.rowAt? 0 [root] (0 :: path) = some v ∧ h.RowUnpruned S 0 [root] (0 :: path) :=
        hp.pruned.mem_iff _ _
    _ ↔ h.descend? root path = some v ∧ h.Unpruned S root path := by
        rw [Heap.rowAt?_singleton_iff, Heap.rowUnpruned_singleton_iff]
        simp

/-- The unfolding can be pruned if it is finite and in order. -/
theorem exists_prunedFrom {root : Value}
    (hnodes : ∀ path v, h.descend? root path = some v → ∃ items, h.meet v = .node items)
    (hfinite : {path | (h.descend? root path).isSome = true}.Finite) (S : Finset Value) :
    ∃ kept, PrunedFrom h S root kept ∧ (kept.map Prod.fst).Pairwise (· < ·) := by
  obtain ⟨items, inner, hmeet, ht, hsorted, -⟩ := exists_tour_of_finite hnodes hfinite
  by_cases hS : root ∈ S
  · exact ⟨_, .cut hS, List.pairwise_singleton _ _⟩
  · obtain ⟨kept, hkept, hsub⟩ := ht.exists_pruned rfl S
    exact ⟨_, .pass hS hmeet hkept, hsorted.sublist ((hsub.cons_cons _).map Prod.fst)⟩

end PrunedTours

/-! ## What a walk finds after some nodes were neutralised -/

namespace Heap

/-- A value is at some position of an unfolding. -/
def Occurs (h : Heap) (root v : Value) : Prop :=
  ∃ path, h.descend? root path = some v

/-- The objects of a tree: the nodes, what their children are kept in, and their payloads. -/
def Belongs (h : Heap) (root : Value) (a : Addr) : Prop :=
  ∃ v, h.Occurs root v ∧
    (v = .ref a ∨ ∃ name ∈ ["nodes", "value", "val"], h.attrOrNull v name = .ref a)

/-- The text that is sent for a node: its payload if there is any, and nothing for one of the given
nodes. -/
def sent (h : Heap) (S : Finset Value) (v : Value) : Value :=
  if v ∈ S then .str "" else if h.truthy (h.payload v) then h.payload v else .str ""

variable {h : Heap} {root u v : Value} {items : List Value} {path : List Nat}

theorem descend?_concat (hu : h.descend? root path = some u) (i : Nat) :
    h.descend? root (path ++ [i]) = (h.below u)[i]? := by
  induction path generalizing root with
  | nil =>
    obtain rfl : root = u := Option.some.inj hu
    simp [descend?]
  | cons j path ih =>
    rw [descend?, Option.bind_eq_some_iff] at hu
    obtain ⟨child, hchild, hu⟩ := hu
    rw [List.cons_append, descend?, hchild]
    exact ih hu

/-- The children of what is at some position are at some positions. -/
theorem Occurs.child (hu : h.Occurs root u) (hmeet : h.meet u = .node items) (hv : v ∈ items) :
    h.Occurs root v := by
  obtain ⟨path, hpath⟩ := hu
  obtain ⟨i, hi⟩ := List.mem_iff_getElem?.mp hv
  exact ⟨path ++ [i], by rw [descend?_concat hpath, below_of_meet hmeet, hi]⟩

end Heap

/-- A pruned tour of what is at some positions stops at what is at some positions. -/
theorem Pruned.occurs {h : Heap} {root : Value} {S : Finset Value} {index : Nat} {row : List Value}
    {kept : List (List Nat × Value)} (hp : Pruned h S index row kept)
    (hrow : ∀ v ∈ row, h.Occurs root v) : ∀ v ∈ kept.map Prod.snd, h.Occurs root v := by
  induction hp with
  | nil => simp
  | cut _ _ ih =>
    rw [List.forall_mem_cons] at hrow
    rw [List.map_cons, List.forall_mem_cons]
    exact ⟨hrow.1, ih hrow.2⟩
  | @pass index v items row inner later _ hmeet _ _ ihinner ihlater =>
    rw [List.forall_mem_cons] at hrow
    have hinner := ihinner fun x hx ↦ hrow.1.child hmeet hx
    have hvalues : (inner.map (under index)).map Prod.snd = inner.map Prod.snd := by
      rw [List.map_map]
      rfl
    rw [List.cons_append, List.map_cons, List.map_append, hvalues, List.forall_mem_cons,
      List.forall_mem_append]
    exact ⟨hrow.1, hinner, ihlater hrow.2⟩

/-- What is known throughout a walk that neutralises some of the nodes of a tree: the sink is there,
and no object of the tree was changed except by neutralising these nodes. -/
structure Pruning {σ : Type} (h : Heap) (root sink append : Value) (S : Finset Value)
    (w : World σ) : Prop where
  sink : w.heap.capability sink "append" = some append
  objects : ∀ a, h.Belongs root a → w.heap.get? a = h.get? a ∨
    .ref a ∈ S ∧ ∃ e e', h.get? a = some (.entity e) ∧ w.heap.get? a = some (.entity e') ∧
      e'.Genuine

namespace Pruning

variable {σ : Type} {h : Heap} {root sink append v : Value} {S : Finset Value} {w : World σ}
  {a : Addr} {e : Entity} {items : List Value}

/-- A node of the tree is still a node. -/
theorem node (hp : Pruning h root sink append S w) (hv : h.Occurs root (.ref a))
    (ha : h.get? a = some (.entity e)) (hg : e.Genuine) :
    ∃ e', w.heap.get? a = some (.entity e') ∧ e'.Genuine := by
  rcases hp.objects a ⟨_, hv, .inl rfl⟩ with hsame | ⟨-, -, e', -, ha', hg'⟩
  · exact ⟨e, hsame.trans ha, hg⟩
  · exact ⟨e', ha', hg'⟩

theorem attrOrNull_eq (hp : Pruning h root sink append S w) (hv : h.Occurs root (.ref a))
    (hS : .ref a ∉ S) {name : String} (hname : name ≠ "parent") :
    w.heap.attrOrNull (.ref a) name = h.attrOrNull (.ref a) name := by
  have hsame := (hp.objects a ⟨_, hv, .inl rfl⟩).resolve_right fun hcut ↦ hS hcut.1
  rw [Heap.attrOrNull, Heap.attr?_congr hsame hname, Heap.attrOrNull]

theorem truthy_eq (hp : Pruning h root sink append S w) (hv : h.Occurs root v) {name : String}
    (hname : name ∈ ["nodes", "value", "val"]) :
    w.heap.truthy (h.attrOrNull v name) = h.truthy (h.attrOrNull v name) := by
  cases hx : h.attrOrNull v name with
  | ref b =>
    rcases hp.objects b ⟨v, hv, .inr ⟨name, hname, hx⟩⟩ with hsame | ⟨-, e, e', hb, hb', -⟩
    · simp only [Heap.truthy, hsame]
    · simp only [Heap.truthy, hb, hb']
  | _ => rfl

/-- The children of a node are kept where they were, even if the node lost them. -/
theorem sequence?_eq (hp : Pruning h root sink append S w) (hv : h.Occurs root v)
    (hitems : h.sequence? (h.attrOrNull v "nodes") = some items) :
    w.heap.sequence? (h.attrOrNull v "nodes") = some items := by
  obtain ⟨l, hl, hget⟩ := Heap.sequence?_eq_some_iff.mp hitems
  rw [hl, Heap.sequence?_eq_some_iff]
  rcases hp.objects l ⟨v, hv, .inr ⟨"nodes", by decide, hl⟩⟩ with hsame | ⟨-, e, -, hentity, -⟩
  · exact ⟨l, rfl, by rwa [hsame]⟩
  · rw [hentity] at hget
    rcases hget with hget | hget <;> cases hget

/-- A node that was not neutralised has its payload. -/
theorem payload_eq (hp : Pruning h root sink append S w) (hv : h.Occurs root (.ref a))
    (hS : .ref a ∉ S) :
    w.heap.payload (.ref a) = h.payload (.ref a) ∧
      w.heap.truthy (h.payload (.ref a)) = h.truthy (h.payload (.ref a)) := by
  have hvalue := hp.attrOrNull_eq hv hS (show "value" ≠ "parent" by decide)
  have hval := hp.attrOrNull_eq hv hS (show "val" ≠ "parent" by decide)
  have htruthy := hp.truthy_eq hv (show "value" ∈ ["nodes", "value", "val"] by decide)
  have htruthy' := hp.truthy_eq hv (show "val" ∈ ["nodes", "value", "val"] by decide)
  constructor
  · rw [Heap.payload, hvalue, hval, htruthy, Heap.payload]
  · rw [Heap.payload]
    split
    · exact htruthy
    · exact htruthy'

/-- Neutralising one of the given nodes is no other change. -/
theorem neutralise (hp : Pruning h root sink append S w) (hv : h.Occurs root (.ref a))
    (hS : .ref a ∈ S) (ha : h.get? a = some (.entity e)) {e' : Entity}
    (ha' : w.heap.get? a = some (.entity e')) (hg' : e'.Genuine) :
    Pruning h root sink append S { w with heap := w.heap.put a (.entity e'.neutral) } where
  sink := Heap.capability_put_neutral ha' hg' (by decide) (by decide) (by decide) hp.sink
  objects := by
    intro b hb
    by_cases hba : b = a
    · subst hba
      have hfound : (w.heap.put b (.entity e'.neutral)).get? b = some (.entity e'.neutral) :=
        Heap.get?_put_self (Heap.lt_fresh_of_get? ha')
      exact .inr ⟨hS, e, e'.neutral, ha, hfound, hg'.neutral⟩
    · dsimp only
      rw [Heap.get?_put_of_ne _ hba]
      exact hp.objects b hb

end Pruning

/-! ## The walk -/

namespace Walk

/-- Neutralises a node if it is one of the given ones, and then sends its payload to a sink. -/
def pruneAndSend {σ : Type} (send : Caller σ) (sink : Value) (S : Finset Value) (v : Value) :
    Op σ Value := do
  if v ∈ S then Payload.neutralise v .null
  Payload.identity send sink v

section Walking

variable {σ : Type} {h : Heap} {root sink append fn v : Value} {S : Finset Value} {w : World σ}
  {call send : Caller σ} {items row : List Value} {index n : Nat}
  {inner later kept : List (List Nat × Value)}
  (htree : ∀ v, h.Occurs root v → ∃ a e items, v = .ref a ∧ h.get? a = some (.entity e) ∧
    e.Genuine ∧ h.meet v = .node items)
  (hsend : ∀ (w : World σ) text v, w.heap.capability sink "append" = some append →
    ((send append [text, v] []).after w).heap.capability sink "append" = some append ∧
      ∀ a, h.Belongs root a → ((send append [text, v] []).after w).heap.get? a = w.heap.get? a)
  (hfn : ∀ v w, call fn [v] [] w = pruneAndSend send sink S v w)
  (hcallable : ∀ h : Heap, h.callable fn = true)

theorem identity_apply (hnode : w.heap.isNode v = true)
    (hsink : w.heap.capability sink "append" = some append) (send : Caller σ) :
    Payload.identity send sink v w =
      send append [if w.heap.truthy (w.heap.payload v) then w.heap.payload v else .str "", v] []
        w := by
  rw [Payload.identity, bind_of_ok (value_eq_payload w hnode), bind_of_ok (heap_apply w), sendTo,
    bind_of_ok (capability_apply sink "append" w), hsink]

include htree hfn in
/-- What one call does: perhaps it neutralises the node, and then it sends a text that could have
been told beforehand. -/
theorem call_prunes (hp : Pruning h root sink append S w) (hv : h.Occurs root v) :
    ∃ w₁, Pruning h root sink append S w₁ ∧
      (v ∈ S → w₁.heap.attrOrNull v "nodes" = .null) ∧
      (w₁ = w ∨ ∃ a e, h.Belongs root a ∧ w₁ = { w with heap := w.heap.put a (.entity e) }) ∧
      call fn [v] [] w = send append [h.sent S v, v] [] w₁ := by
  obtain ⟨a, e, -, rfl, ha, hg, -⟩ := htree v hv
  obtain ⟨e', ha', hg'⟩ := hp.node hv ha hg
  rw [hfn, pruneAndSend, Heap.sent]
  by_cases hS : .ref a ∈ S
  · have hfound : (w.heap.put a (.entity e'.neutral)).get? a = some (.entity e'.neutral) :=
      Heap.get?_put_self (Heap.lt_fresh_of_get? ha')
    have hp₁ := hp.neutralise hv hS ha ha' hg'
    refine ⟨_, hp₁, fun _ ↦ ?_, .inr ⟨a, _, ⟨_, hv, .inl rfl⟩, rfl⟩, ?_⟩
    · rw [Heap.attrOrNull_of_genuine hfound hg'.neutral (by decide), Entity.get?_neutral_nodes]
      cases Table.get? e'.attrs "nodes" <;> rfl
    · rw [if_pos hS, if_pos hS, bind_of_ok (neutralise_apply ha' hg')]
      dsimp only
      rw [identity_apply (Heap.isNode_of_genuine hfound hg'.neutral) hp₁.sink]
      dsimp only
      rw [Heap.truthy_payload_neutral hfound hg', if_neg (by simp)]
  · obtain ⟨hpayload, htruthy⟩ := hp.payload_eq hv hS
    refine ⟨w, hp, fun hmem ↦ absurd hmem hS, .inl rfl, ?_⟩
    rw [if_neg hS, if_neg hS]
    dsimp only
    rw [identity_apply (Heap.isNode_of_genuine ha' hg') hp.sink, hpayload, htruthy]

include htree hfn hsend

/-- What one call keeps. -/
theorem call_keeps (hp : Pruning h root sink append S w) (hv : h.Occurs root v) :
    Pruning h root sink append S ((call fn [v] []).after w) ∧
      (v ∈ S → ((call fn [v] []).after w).heap.attrOrNull v "nodes" = .null) := by
  obtain ⟨w₁, hp₁, hcut, -, hcall⟩ := call_prunes htree hfn hp hv
  obtain ⟨hsink, hsame⟩ := hsend w₁ (h.sent S v) v hp₁.sink
  rw [after, hcall, ← after]
  constructor
  · refine ⟨hsink, fun a ha ↦ ?_⟩
    rw [hsame a ha]
    exact hp₁.objects a ha
  · intro hS
    obtain ⟨a, -, -, rfl, -⟩ := htree v hv
    rw [← hcut hS, Heap.attrOrNull, Heap.attr?_congr (hsame a ⟨_, hv, .inl rfl⟩) (by decide),
      Heap.attrOrNull]

/-- What all calls keep. -/
theorem follow_prunes (hp : Pruning h root sink append S w)
    (hkept : ∀ v ∈ kept.map Prod.snd, h.Occurs root v) (result : Value) :
    Pruning h root sink append S ((follow call fn kept none result).after w) :=
  follow_preserves (P := Pruning h root sink append S) none result
    (fun _ v hv hp ↦ (call_keeps htree hsend hfn hp (hkept v hv)).1) hp

omit hsend hfn in
theorem requireNode_of_occurs (hp : Pruning h root sink append S w) (hv : h.Occurs root v) :
    (requireNode v "node" : Op σ Unit) w = .ok () w := by
  obtain ⟨a, e, -, rfl, ha, hg, -⟩ := htree v hv
  obtain ⟨e', ha', hg'⟩ := hp.node hv ha hg
  exact requireNode_apply (Heap.isNode_of_genuine ha' hg') _

include hcallable

/-- A walk does not go below a node that was neutralised. -/
theorem visit_of_cut (hp : Pruning h root sink append S w) (hv : h.Occurs root v) (hS : v ∈ S)
    (n : Nat) : visit call fn (n + 1) v w = follow call fn [([], v)] none v w := by
  rw [visit, bind_of_ok (requireNode_of_occurs htree hp hv),
    bind_of_ok (requireFunction_apply (hcallable _) _), follow_cons]
  cases hrun : call fn [v] [] w with
  | error fault w₁ => rw [bind_of_error hrun, bind_of_error hrun]
  | ok r w₁ =>
    have hnull := (call_keeps htree hsend hfn hp hv).2 hS
    rw [after_of_ok hrun] at hnull
    rw [bind_of_ok hrun, bind_of_ok hrun, bind_of_ok (heap_apply w₁), if_pos hnull]
    rfl

omit hsend hfn in
theorem visitChildren_of_pass (hp : Pruning h root sink append S w) (hv : h.Occurs root v)
    (hS : v ∉ S) (hmeet : h.meet v = .node items) (hpruned : Pruned h S 0 items inner)
    (hrow : h.sequence? (h.attrOrNull v "nodes") = some items →
      visitItems call fn n (h.attrOrNull v "nodes") 0 w = follow call fn inner none () w) :
    visitChildren call fn (n + 1) v w = follow call fn inner none v w := by
  have hnodes : w.heap.attrOrNull v "nodes" = h.attrOrNull v "nodes" := by
    obtain ⟨a, -, -, rfl, -⟩ := htree v hv
    exact hp.attrOrNull_eq hv hS (by decide)
  rw [visitChildren, bind_of_ok (requireNode_of_occurs htree hp hv),
    bind_of_ok (requireFunction_apply (hcallable _) _), bind_of_ok (heap_apply w), hnodes]
  rcases Heap.nodes_of_meet hmeet with ⟨hnull, rfl⟩ | ⟨hne, hitems⟩
  · cases hpruned
    rw [if_pos hnull]
    rfl
  · have hsequence : (requireSequence (h.attrOrNull v "nodes") "node.nodes" false :
        Op σ Unit) w = .ok () w := by
      apply requireSequence_apply
      rw [hp.sequence?_eq hv hitems]
      rfl
    rw [if_neg hne, bind_of_ok hsequence, ← follow_map none () v]
    rw [bind_apply, bind_apply, hrow hitems]

/-- A walk goes on below any other node. -/
theorem visit_of_pass (hp : Pruning h root sink append S w) (hv : h.Occurs root v) (hS : v ∉ S)
    (hmeet : h.meet v = .node items) (hpruned : Pruned h S 0 items inner)
    (hrow : ∀ w : World σ, Pruning h root sink append S w →
      h.sequence? (h.attrOrNull v "nodes") = some items →
      visitItems call fn n (h.attrOrNull v "nodes") 0 w = follow call fn inner none () w) :
    visit call fn (n + 2) v w = follow call fn (([], v) :: inner) none v w := by
  rw [visit, bind_of_ok (requireNode_of_occurs htree hp hv),
    bind_of_ok (requireFunction_apply (hcallable _) _), follow_cons]
  cases hrun : call fn [v] [] w with
  | error fault w₁ => rw [bind_of_error hrun, bind_of_error hrun]
  | ok r w₁ =>
    have hp₁ := (call_keeps htree hsend hfn hp hv).1
    rw [after_of_ok hrun] at hp₁
    have hbelow := visitChildren_of_pass htree hcallable hp₁ hv hS hmeet hpruned (hrow w₁ hp₁)
    rw [bind_of_ok hrun, bind_of_ok hrun, bind_of_ok (heap_apply w₁)]
    split
    · next hnull =>
      -- Without children there is nothing to do below.
      rw [visitChildren, bind_of_ok (requireNode_of_occurs htree hp₁ hv),
        bind_of_ok (requireFunction_apply (hcallable _) _), bind_of_ok (heap_apply w₁),
        if_pos hnull] at hbelow
      exact hbelow
    · exact hbelow

/-- A walk through a row is a pruned tour of it. The induction is on the tour. -/
theorem visitItems_prunes (hpruned : Pruned h S index row kept) :
    ∃ bound, ∀ n, bound ≤ n → ∀ nodes items (w : World σ), Pruning h root sink append S w →
      (∀ w : World σ, Pruning h root sink append S w → w.heap.sequence? nodes = some items) →
      (∀ v ∈ items, h.Occurs root v) → items.drop index = row →
      visitItems call fn n nodes index w = follow call fn kept none () w := by
  induction hpruned with
  | nil index =>
    refine ⟨1, fun n hn nodes items w hp hnodes _ hrow ↦ ?_⟩
    obtain ⟨n, rfl⟩ : ∃ m, n = m + 1 := ⟨n - 1, by omega⟩
    have hnone : items[index]? = none := List.getElem?_eq_none (List.drop_eq_nil_iff.mp hrow)
    rw [visitItems, bind_of_ok (Document.itemAt?_of_sequence (hnodes w hp) index), hnone]
    rfl
  | @cut index v row later hS hlater ih =>
    obtain ⟨bound, hbound⟩ := ih
    refine ⟨bound + 2, fun n hn nodes siblings w hp hnodes hoccurs hrow ↦ ?_⟩
    obtain ⟨n, rfl⟩ : ∃ m, n = m + 2 := ⟨n - 2, by omega⟩
    have hv : h.Occurs root v :=
      hoccurs v (List.mem_of_mem_drop (hrow ▸ List.mem_cons_self))
    have hvisit := visit_of_cut htree hsend hfn hcallable hp hv hS n
    rw [← follow_under index] at hvisit
    apply visitItems_pass (hnodes w hp) hrow hvisit
    intro r w₁ hrun
    have hp₁ : Pruning h root sink append S w₁ := by
      rw [← after_of_ok hrun]
      exact follow_prunes htree hsend hfn hp (by simpa [under] using hv) v
    exact hbound (n + 1) (by omega) nodes siblings w₁ hp₁ hnodes hoccurs
      (Document.drop_eq_cons hrow).2
  | @pass index v items row inner later hS hmeet hinner _ ihinner ihlater =>
    obtain ⟨bound, hbound⟩ := ihinner
    obtain ⟨bound', hbound'⟩ := ihlater
    refine ⟨bound + bound' + 3, fun n hn nodes siblings w hp hnodes hoccurs hrow ↦ ?_⟩
    obtain ⟨n, rfl⟩ : ∃ m, n = m + 3 := ⟨n - 3, by omega⟩
    have hv : h.Occurs root v :=
      hoccurs v (List.mem_of_mem_drop (hrow ▸ List.mem_cons_self))
    have hbelow : ∀ x ∈ items, h.Occurs root x := fun x hx ↦ hv.child hmeet hx
    have hvisit := visit_of_pass htree hsend hfn hcallable hp hv hS hmeet hinner
      fun w₁ hp₁ hitems ↦ hbound n (by omega) (h.attrOrNull v "nodes") items w₁ hp₁
        (fun w₂ hp₂ ↦ hp₂.sequence?_eq hv hitems) hbelow List.drop_zero
    rw [← follow_under index] at hvisit
    rw [under_cons]
    apply visitItems_pass (hnodes w hp) hrow hvisit
    intro r w₁ hrun
    have hp₁ : Pruning h root sink append S w₁ := by
      rw [follow_under] at hrun
      rw [← after_of_ok hrun]
      refine follow_prunes htree hsend hfn hp ?_ v
      rw [List.map_cons, List.forall_mem_cons]
      exact ⟨hv, hinner.occurs hbelow⟩
    exact hbound' (n + 2) (by omega) nodes siblings w₁ hp₁ hnodes hoccurs
      (Document.drop_eq_cons hrow).2

/-- A walk from a node is a pruned tour of its unfolding. -/
theorem visit_tours_pruned (hp : Pruning h root sink append S w) (hv : h.Occurs root v)
    (hkept : PrunedFrom h S v kept) :
    ∃ bound, ∀ n, bound ≤ n → visit call fn n v w = follow call fn kept none v w := by
  cases hkept with
  | cut hS =>
    refine ⟨1, fun n hn ↦ ?_⟩
    obtain ⟨n, rfl⟩ : ∃ m, n = m + 1 := ⟨n - 1, by omega⟩
    exact visit_of_cut htree hsend hfn hcallable hp hv hS n
  | @pass items inner hS hmeet hinner =>
    obtain ⟨bound, hbound⟩ := visitItems_prunes htree hsend hfn hcallable hinner
    refine ⟨bound + 2, fun n hn ↦ ?_⟩
    obtain ⟨n, rfl⟩ : ∃ m, n = m + 2 := ⟨n - 2, by omega⟩
    exact visit_of_pass htree hsend hfn hcallable hp hv hS hmeet hinner fun w₁ hp₁ hitems ↦
      hbound n (by omega) (h.attrOrNull v "nodes") items w₁ hp₁
        (fun w₂ hp₂ ↦ hp₂.sequence?_eq hv hitems) (fun x hx ↦ hv.child hmeet hx) List.drop_zero

omit hcallable in
/-- What the sink receives if it takes everything, as seen by somebody who does not look at the
tree. -/
theorem callEach_received {seen : World σ → List (Value × Value)} {values : List Value}
    (hseen : ∀ (w : World σ) a e, h.Belongs root a →
      seen { w with heap := w.heap.put a (.entity e) } = seen w)
    (hreceives : ∀ (w : World σ) text v, ∃ r w', send append [text, v] [] w = .ok r w' ∧
      seen w' = seen w ++ [(text, v)])
    (hp : Pruning h root sink append S w) (hvalues : ∀ v ∈ values, h.Occurs root v) :
    ∃ w', callEach call fn values w = .ok () w' ∧
      seen w' = seen w ++ values.map fun v ↦ (h.sent S v, v) := by
  induction values generalizing w with
  | nil => exact ⟨w, rfl, by simp⟩
  | cons v values ih =>
    rw [List.forall_mem_cons] at hvalues
    obtain ⟨w₁, -, -, hw₁, hcall⟩ := call_prunes htree hfn hp hvalues.1
    obtain ⟨r, w₂, hrun, hw₂⟩ := hreceives w₁ (h.sent S v) v
    have hsame : seen w₁ = seen w := by
      rcases hw₁ with rfl | ⟨a, e, ha, rfl⟩
      · rfl
      · exact hseen w a e ha
    rw [← hcall] at hrun
    have hp₂ := (call_keeps htree hsend hfn hp hvalues.1).1
    rw [after_of_ok hrun] at hp₂
    obtain ⟨w', hlater, hw'⟩ := ih hp₂ hvalues.2
    refine ⟨w', ?_, ?_⟩
    · rw [callEach, bind_of_ok hrun, hlater]
    · rw [hw', hw₂, hsame, List.map_cons, List.append_assoc, List.singleton_append]

end Walking

end Walk

/-- Let all positions of a finite unfolding be smart or plain nodes with no children, or with
children in a list or tuple. A function neutralises the nodes in `S` and sends the payload of each
node to a sink, which leaves the tree alone. A walk calls this function on exactly the nodes that no
node in `S` is above, in pre-order. The sink receives for each of them the payload it had before the
walk, or an empty text for the nodes in `S`. All other nodes keep their children. -/
theorem visit_prunes {σ : Type} {call send : Caller σ} {fn : Nat} {sink append root : Value}
    {S : Finset Value} {w : World σ}
    (htree : ∀ path v, w.heap.descend? root path = some v → ∃ a e items, v = .ref a ∧
      w.heap.get? a = some (.entity e) ∧ e.Genuine ∧ w.heap.meet v = .node items)
    (hfinite : {path | (w.heap.descend? root path).isSome = true}.Finite)
    (hsink : w.heap.capability sink "append" = some append)
    (hsend : ∀ (w' : World σ) text v, w'.heap.capability sink "append" = some append →
      ((send append [text, v] []).after w').heap.capability sink "append" = some append ∧
        ∀ a, w.heap.Belongs root a →
          ((send append [text, v] []).after w').heap.get? a = w'.heap.get? a)
    (hfn : ∀ v w', call (.callback fn) [v] [] w' =
      (do
        if v ∈ S then Payload.neutralise v .null
        Payload.identity send sink v : Op σ Value) w') :
    ∃ kept : List (List Nat × Value),
      (kept.map Prod.fst).Pairwise (· < ·) ∧
      (∀ path v, (path, v) ∈ kept ↔ w.heap.descend? root path = some v ∧
        ∀ q u, q <+: path → q ≠ path → w.heap.descend? root q = some u → u ∉ S) ∧
      ∃ bound, ∀ fuel, bound ≤ fuel →
        Walk.visit call (.callback fn) fuel root w =
          Walk.follow call (.callback fn) kept none root w ∧
        (∀ seen : World σ → List (Value × Value),
          (∀ (w' : World σ) a e, w.heap.Belongs root a →
            seen { w' with heap := w'.heap.put a (.entity e) } = seen w') →
          (∀ (w' : World σ) text v, ∃ r w'', send append [text, v] [] w' = .ok r w'' ∧
            seen w'' = seen w' ++ [(text, v)]) →
          (Walk.visit call (.callback fn) fuel root).result w = .ok root ∧
          seen ((Walk.visit call (.callback fn) fuel root).after w) =
            seen w ++ kept.map fun stop ↦ (w.heap.sent S stop.2, stop.2)) ∧
        ∀ path v, w.heap.descend? root path = some v → v ∉ S →
          let h := ((Walk.visit call (.callback fn) fuel root).after w).heap
          h.attrOrNull v "nodes" = w.heap.attrOrNull v "nodes" ∧
            h.sequence? (w.heap.attrOrNull v "nodes") =
              w.heap.sequence? (w.heap.attrOrNull v "nodes") := by
  have hoccurs : ∀ v, w.heap.Occurs root v → ∃ a e items, v = .ref a ∧
      w.heap.get? a = some (.entity e) ∧ e.Genuine ∧ w.heap.meet v = .node items :=
    fun v ⟨path, hv⟩ ↦ htree path v hv
  have hroot : w.heap.Occurs root root := ⟨[], rfl⟩
  have hstart : Pruning w.heap root sink append S w := ⟨hsink, fun _ _ ↦ .inl rfl⟩
  obtain ⟨kept, hkept, hsorted⟩ := exists_prunedFrom (fun path v hv ↦ by
    obtain ⟨-, -, items, -, -, -, hmeet⟩ := htree path v hv
    exact ⟨items, hmeet⟩) hfinite S
  have hvalues : ∀ v ∈ kept.map Prod.snd, w.heap.Occurs root v := by
    intro v hv
    obtain ⟨⟨path, v⟩, hmem, rfl⟩ := List.mem_map.mp hv
    exact ⟨path, ((hkept.mem_iff path v).mp hmem).1⟩
  obtain ⟨bound, hwalk⟩ :=
    Walk.visit_tours_pruned hoccurs hsend hfn (fun _ ↦ rfl) hstart hroot hkept
  refine ⟨kept, hsorted, hkept.mem_iff, bound, fun fuel hfuel ↦ ⟨hwalk fuel hfuel, ?_, ?_⟩⟩
  · intro seen hseen hreceives
    obtain ⟨w', hrun, hw'⟩ :=
      Walk.callEach_received hoccurs hsend hfn hseen hreceives hstart hvalues
    have hvisit : Walk.visit call (.callback fn) fuel root w = .ok root w' := by
      rw [hwalk fuel hfuel, Walk.follow, bind_of_ok hrun]
      rfl
    refine ⟨result_of_ok hvisit, ?_⟩
    rw [after_of_ok hvisit, hw', List.map_map]
    rfl
  · intro path v hv hS
    have hend : Pruning w.heap root sink append S
        ((Walk.visit call (.callback fn) fuel root).after w) := by
      rw [after, hwalk fuel hfuel, ← after]
      exact Walk.follow_prunes hoccurs hsend hfn hstart hvalues root
    obtain ⟨a, -, items, rfl, -, -, hmeet⟩ := htree path v hv
    refine ⟨hend.attrOrNull_eq ⟨path, hv⟩ hS (by decide), ?_⟩
    rcases Heap.nodes_of_meet hmeet with ⟨hnull, -⟩ | ⟨-, hitems⟩
    · rw [hnull]
      rfl
    · rw [hend.sequence?_eq ⟨path, hv⟩ hitems, hitems]

/-- A world with a tree of four nodes and a sink: the root at 0, its children at 2 and 5, and the
only child of the first at 4. -/
def paragraph : World (List (Value × Value)) where
  heap := ⟨#[some (.entity ⟨.plain, [("type", .str "p"), ("value", .str "a"), ("nodes", .ref 1)],
      .absent⟩),
    some (.list [.ref 2, .ref 5]),
    some (.entity ⟨.smart, [("type", .str "b"), ("value", .str "b"), ("nodes", .ref 3)], .weak 0⟩),
    some (.list [.ref 4]),
    some (.entity ⟨.plain, [("type", .str "text"), ("value", .str "c")], .absent⟩),
    some (.entity ⟨.plain, [("type", .str "text"), ("value", .str ""), ("val", .str "d"),
      ("nodes", .null)], .absent⟩),
    some (.entity ⟨.record, [("append", .callback 1)], .absent⟩)]⟩
  client := []

/-- Keeps a list of the texts that are received, with their nodes. -/
def receive : Caller (List (Value × Value))
  | _, [text, v], _ => fun w ↦ .ok .null { w with client := w.client ++ [(text, v)] }
  | _, _, _ => return .null

theorem descend?_paragraph {path : List Nat} {x : Value}
    (hx : paragraph.heap.descend? (.ref 0) path = some x) :
    path = [] ∧ x = .ref 0 ∨ path = [0] ∧ x = .ref 2 ∨ path = [0, 0] ∧ x = .ref 4 ∨
      path = [1] ∧ x = .ref 5 := by
  rcases path with _ | ⟨_ | _ | i, _ | ⟨_ | j, _ | ⟨k, path⟩⟩⟩
  · exact .inl ⟨rfl, (Option.some.inj hx).symm⟩
  · exact .inr (.inl ⟨rfl, (Option.some.inj hx).symm⟩)
  · exact .inr (.inr (.inl ⟨rfl, (Option.some.inj hx).symm⟩))
  · cases hx
  · cases hx
  · cases hx
  · exact .inr (.inr (.inr ⟨rfl, (Option.some.inj hx).symm⟩))
  all_goals cases hx

/-- The node at 2 is neutralised: it sends an empty text, and its child sends nothing. -/
theorem visit_paragraph :
    let S : Finset Value := {.ref 2}
    let call : Caller (List (Value × Value)) := fun _ args _ ↦
      Walk.pruneAndSend receive (.ref 6) S (args.headD .null)
    ∃ bound, ∀ fuel, bound ≤ fuel →
      (Walk.visit call (.callback 0) fuel (.ref 0)).result paragraph = .ok (.ref 0) ∧
      ((Walk.visit call (.callback 0) fuel (.ref 0)).after paragraph).client =
        [(.str "a", .ref 0), (.str "", .ref 2), (.str "d", .ref 5)] := by
  intro S call
  have htree : ∀ path v, paragraph.heap.descend? (.ref 0) path = some v → ∃ a e items,
      v = .ref a ∧ paragraph.heap.get? a = some (.entity e) ∧ e.Genuine ∧
        paragraph.heap.meet v = .node items := by
    intro path v hv
    rcases descend?_paragraph hv with ⟨-, rfl⟩ | ⟨-, rfl⟩ | ⟨-, rfl⟩ | ⟨-, rfl⟩
    · exact ⟨0, _, [.ref 2, .ref 5], rfl, rfl, ⟨.inr rfl, by decide +kernel⟩, rfl⟩
    · exact ⟨2, _, [.ref 4], rfl, rfl, ⟨.inl rfl, by decide +kernel⟩, rfl⟩
    · exact ⟨4, _, [], rfl, rfl, ⟨.inr rfl, by decide +kernel⟩, rfl⟩
    · exact ⟨5, _, [], rfl, rfl, ⟨.inr rfl, by decide +kernel⟩, rfl⟩
  have hfinite : {path | (paragraph.heap.descend? (.ref 0) path).isSome = true}.Finite := by
    apply Set.Finite.subset (List.finite_toSet [[], [0], [0, 0], [1]])
    intro path hpath
    obtain ⟨x, hx⟩ := Option.isSome_iff_exists.mp hpath
    rcases descend?_paragraph hx with ⟨rfl, -⟩ | ⟨rfl, -⟩ | ⟨rfl, -⟩ | ⟨rfl, -⟩ <;> simp
  obtain ⟨kept, hsorted, hmem, bound, hwalk⟩ :=
    @visit_prunes _ call receive 0 (.ref 6) (.callback 1) (.ref 0) S paragraph htree hfinite rfl
      (fun _ _ _ hsink ↦ ⟨hsink, fun _ _ ↦ rfl⟩) (fun _ _ ↦ rfl)
  refine ⟨bound, fun fuel hfuel ↦ ?_⟩
  obtain ⟨-, hreceived, -⟩ := hwalk fuel hfuel
  obtain ⟨hresult, hclient⟩ := hreceived World.client (fun _ _ _ _ ↦ rfl)
    fun w' text v ↦ ⟨.null, _, rfl, rfl⟩
  refine ⟨hresult, hclient.trans ?_⟩
  have hkept : kept = [([], .ref 0), ([0], .ref 2), ([1], .ref 5)] := by
    -- There is only one order for the stops that are known.
    let before : List Nat × Value → List Nat × Value → Prop := fun x y ↦ x.1 < y.1
    have : Std.Irrefl before := ⟨fun x ↦ List.lt_irrefl x.1⟩
    have : Std.Antisymm before := ⟨fun _ _ hlt hgt ↦ absurd hgt (List.lt_asymm hlt)⟩
    have hpaths : kept.Pairwise before := List.pairwise_map.mp hsorted
    apply hpaths.eq_of_mem_iff (by simp [before, List.cons_lt_cons_iff])
    rintro ⟨path, v⟩
    rw [hmem]
    constructor
    · rintro ⟨hv, hclear⟩
      rcases descend?_paragraph hv with ⟨rfl, rfl⟩ | ⟨rfl, rfl⟩ | ⟨rfl, rfl⟩ | ⟨rfl, rfl⟩
      · simp
      · simp
      · exact absurd (by simp [S]) (hclear [0] (.ref 2) (by simp) (by simp) rfl)
      · simp
    · intro hstop
      have habove {q : List Nat} {i : Nat} {u : Value} (hq : q <+: [i]) (hne : q ≠ [i])
          (hu : paragraph.heap.descend? (.ref 0) q = some u) : u ∉ S := by
        rcases List.prefix_cons_iff.mp hq with rfl | ⟨r, rfl, hr⟩
        · obtain rfl : Value.ref 0 = u := Option.some.inj hu
          simp [S]
        · rw [List.prefix_nil.mp hr] at hne
          exact absurd rfl hne
      simp only [List.mem_cons, Prod.mk.injEq, List.not_mem_nil, or_false] at hstop
      rcases hstop with ⟨rfl, rfl⟩ | ⟨rfl, rfl⟩ | ⟨rfl, rfl⟩
      · exact ⟨rfl, fun q u hq hne ↦ absurd (List.prefix_nil.mp hq) hne⟩
      · exact ⟨rfl, fun q u hq hne hu ↦ habove hq hne hu⟩
      · exact ⟨rfl, fun q u hq hne hu ↦ habove hq hne hu⟩
  rw [hkept]
  decide +kernel

end TagTree
