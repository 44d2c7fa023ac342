import TagTree.Proofs.Documents
import TagTree.Proofs.Editing

/-!
# Making smart nodes

What a smart node is like that was just made from a page: its attributes, the list of its children,
and their links. Nothing else in the heap changes, and a node is made whenever its type is a text,
its extra names are free and its children are smart nodes of which none comes twice.
-/

namespace TagTree

open Op

/-! ## Taking in children -/

namespace Node

variable {σ : Type} {w : World σ} {a l n : Addr} {e : Entity}

/-- A smart node without a parent, and the list of its children. -/
structure Growing (h : Heap) (a l : Addr) (e : Entity) (done : List Value) : Prop where
  found : h.get? a = some (.entity e)
  genuine : e.Genuine
  kind : e.kind = .smart
  nodes : Table.get? e.attrs "nodes" = some (.ref l)
  orphan : e.parent = .absent
  list : h.get? l = some (.list done)

theorem Growing.nodeAt {h : Heap} {done : List Value} (hg : Growing h a l e done) :
    h.NodeAt a e where
  found := hg.found
  genuine := hg.genuine
  listed := .inr ⟨l, done, hg.nodes, hg.list⟩
  anchored := fun q hq ↦ by rw [hg.orphan] at hq; cases hq

/-- The heap after a node was made a child of another. -/
def adopted (h : Heap) (a l c : Addr) (done : List Value) : Heap :=
  (h.link c a).put l (.list (done ++ [.ref c]))

theorem push_apply (foreign : Caller σ) (fuel : Nat) {c : Addr} {f : Entity} {done : List Value}
    (hg : Growing w.heap a l e done) (hc : w.heap.get? c = some (.entity f)) (hf : f.Genuine) :
    ∃ count, Smart.push (invoke foreign (fuel + 1)) (.ref a) (.ref c) w =
      .ok count { w with heap := adopted w.heap a l c done } := by
  have hnodes : w.heap.attrOrNull (.ref a) "nodes" = .ref l := by
    rw [Heap.attrOrNull_of_genuine hg.found hg.genuine (by decide), hg.nodes]
    rfl
  have hlinked : (w.heap.link c a).attrOrNull (.ref a) "nodes" = .ref l := by
    rw [Heap.attrOrNull_link hc a (.inr (by decide)), hnodes]
  have hchildren := Heap.children_of_list hnodes hg.list
  have hadd := smart_add_apply foreign fuel hg.nodeAt hc (.genuine hf)
    (append_editsList (invoke foreign (fuel + 1)) (.ref c))
  rw [hchildren, Heap.insertChild, Heap.setChildren_of_list hlinked] at hadd
  exact ⟨_, hadd⟩

/-- Children were taken into a list: each of them has a new link, and nothing else changed. -/
structure Adopts (h h' : Heap) (a l : Addr) (children : List Addr) : Prop where
  fresh : h'.fresh = h.fresh
  linked : ∀ c ∈ children, ∃ f, h.get? c = some (.entity f) ∧ f.kind = .smart ∧
    h'.get? c = some (.entity { f with parent := .weak a })
  same : ∀ b, b ≠ l → b ∉ children → h'.get? b = h.get? b

theorem Adopts.refl (h : Heap) (a l : Addr) : Adopts h h a l [] where
  fresh := rfl
  linked := fun _ hc ↦ absurd hc List.not_mem_nil
  same := fun _ _ _ ↦ rfl

section Adopting

variable {h h' : Heap} {c : Addr} {f : Entity} {done : List Value} {children : List Addr}

theorem adopts_adopted (hc : h.get? c = some (.entity f)) (hf : f.kind = .smart)
    (hl : h.get? l = some (.list done)) : Adopts h (adopted h a l c done) a l [c] where
  fresh := by rw [adopted, Heap.fresh_put, Heap.fresh_link]
  linked := by
    intro b hb
    obtain rfl := List.mem_singleton.mp hb
    have hne : b ≠ l := by
      rintro rfl
      rw [hc] at hl
      cases hl
    refine ⟨f, hc, hf, ?_⟩
    rw [adopted, Heap.get?_put_of_ne _ hne, Heap.get?_link_self hc, Entity.withParent, hf]
  same := by
    intro b hbl hbc
    rw [adopted, Heap.get?_put_of_ne _ hbl, Heap.get?_link_of_ne c a (fun h ↦ hbc (by simp [h]))]

theorem get?_adopted_list (hl : h.get? l = some (.list done)) :
    (adopted h a l c done).get? l = some (.list (done ++ [.ref c])) := by
  rw [adopted, Heap.get?_put_self]
  rw [Heap.fresh_link]
  exact Heap.lt_fresh_of_get? hl

/-- Another node stays as it is. -/
theorem Growing.adopted (hg : Growing h a l e done) (hc : h.get? c = some (.entity f))
    (hf : f.kind = .smart) (hne : c ≠ a) :
    Growing (Node.adopted h a l c done) a l e (done ++ [.ref c]) where
  found := by
    have hal : a ≠ l := by
      rintro rfl
      have hlist := hg.list
      rw [hg.found] at hlist
      cases hlist
    rw [(adopts_adopted hc hf hg.list).same a hal (by simpa using hne.symm)]
    exact hg.found
  genuine := hg.genuine
  kind := hg.kind
  nodes := hg.nodes
  orphan := hg.orphan
  list := get?_adopted_list hg.list

theorem Adopts.cons {h₁ : Heap} (hfirst : Adopts h h₁ a l [c]) (hrest : Adopts h₁ h' a l children)
    (hc : c ∉ children) (hl : ∀ b ∈ c :: children, b ≠ l) : Adopts h h' a l (c :: children) where
  fresh := hrest.fresh.trans hfirst.fresh
  linked := by
    intro b hb
    rcases List.mem_cons.mp hb with rfl | hb
    · rw [hrest.same b (hl b List.mem_cons_self) hc]
      exact hfirst.linked b List.mem_cons_self
    · have hbc : b ∉ [c] := by
        intro h
        exact hc (List.mem_singleton.mp h ▸ hb)
      rw [← hfirst.same b (hl b (List.mem_cons_of_mem _ hb)) hbc]
      exact hrest.linked b hb
  same := by
    intro b hbl hb
    rw [List.mem_cons, not_or] at hb
    rw [hrest.same b hbl hb.2, hfirst.same b hbl (by simpa using hb.1)]

end Adopting

/-- The children in a list are added one after the other, from any index on. The induction is on
the children that are left. -/
theorem addChildren_apply (foreign : Caller σ) (m : Nat) {children : List Addr}
    {done items : List Value} {index fuel : Nat} (hg : Growing w.heap a l e done)
    (hn : w.heap.get? n = some (.list items)) (hnl : n ≠ l)
    (hitems : items.drop index = children.map .ref) (hfuel : children.length < fuel)
    (hchildren : ∀ c ∈ children, c ≠ a ∧
      ∃ f, w.heap.get? c = some (.entity f) ∧ f.Genuine ∧ f.kind = .smart)
    (hnodup : children.Nodup) :
    ∃ h, addChildren (invoke foreign (m + 1)) (.ref a) (.ref n) fuel index w =
        .ok () { w with heap := h } ∧
      Adopts w.heap h a l children ∧ Growing h a l e (done ++ children.map .ref) := by
  induction children generalizing w done index fuel with
  | nil =>
    obtain ⟨fuel, rfl⟩ : ∃ i, fuel = i + 1 := ⟨fuel - 1, by simp at hfuel; omega⟩
    have hnone : items[index]? = none := List.getElem?_eq_none (List.drop_eq_nil_iff.mp hitems)
    refine ⟨w.heap, ?_, .refl _ a l, by simpa using hg⟩
    rw [addChildren, bind_of_ok (itemAt?_apply hn index), hnone]
    rfl
  | cons c children ih =>
    obtain ⟨fuel, rfl⟩ : ∃ i, fuel = i + 1 := ⟨fuel - 1, by simp at hfuel; omega⟩
    obtain ⟨hca, f, hc, hf, hk⟩ := hchildren c List.mem_cons_self
    obtain ⟨hnotin, hnodup⟩ := List.nodup_cons.mp hnodup
    obtain ⟨hitem, hitems⟩ := Document.drop_eq_cons hitems
    obtain ⟨count, hpush⟩ := push_apply foreign m hg hc hf
    have hfirst := adopts_adopted (a := a) hc hk hg.list
    have hapart : ∀ b ∈ c :: children, b ≠ l := by
      intro b hb hbl
      obtain ⟨-, g, hget, -⟩ := hchildren b hb
      rw [hbl, hg.list] at hget
      cases hget
    have hn' : (adopted w.heap a l c done).get? n = some (.list items) := by
      have hnc : n ∉ [c] := by
        intro h
        rw [List.mem_singleton.mp h, hc] at hn
        cases hn
      rw [hfirst.same n hnl hnc, hn]
    have hchildren' : ∀ b ∈ children, b ≠ a ∧
        ∃ g, (adopted w.heap a l c done).get? b = some (.entity g) ∧ g.Genuine ∧
          g.kind = .smart := by
      intro b hb
      have hbc : b ∉ [c] := fun h ↦ hnotin (List.mem_singleton.mp h ▸ hb)
      rw [hfirst.same b (hapart b (List.mem_cons_of_mem _ hb)) hbc]
      exact hchildren b (List.mem_cons_of_mem _ hb)
    obtain ⟨h, hrun, hrest, hgrown⟩ := ih (w := { w with heap := adopted w.heap a l c done })
      (hg.adopted hc hk hca) hn' hitems (Nat.lt_of_succ_lt_succ hfuel) hchildren' hnodup
    refine ⟨h, ?_, hfirst.cons hrest hnotin hapart, by simpa using hgrown⟩
    rw [addChildren, bind_of_ok (itemAt?_apply hn index), hitem]
    dsimp only
    rw [bind_of_ok hpush]
    exact hrun

/-! ## A new node -/

/-- A smart node before it takes children in; `k` is where the names of its extra attributes are. -/
def blank (parts : Parts) (nodes : Value) (k : Addr) : Entity :=
  ⟨.smart, [("type", parts.type), ("value", if parts.value = .null then parts.val else parts.value),
    ("nodes", nodes), ("_extra_keys", .ref k)] ++ parts.extra, .absent⟩

/-- The heap after a node was made that has not taken any children in yet. -/
def started (h : Heap) (parts : Parts) : Heap :=
  (h.add (.list (parts.extra.map fun entry ↦ .str entry.1))).add
    (.entity (blank parts .null h.fresh))

/-- The heap after such a node was given an empty list to take children into. -/
def branched (h : Heap) (parts : Parts) : Heap :=
  ((started h parts).add (.list [])).put (h.fresh + 1)
    (.entity (blank parts (.ref (h.fresh + 2)) h.fresh))

section Starting

variable (h : Heap) (parts : Parts)

theorem extends_started : h.Extends (started h parts) :=
  (Heap.extends_add _ _).trans (Heap.extends_add _ _)

theorem fresh_started : (started h parts).fresh = h.fresh + 2 := by
  rw [started, Heap.fresh_add, Heap.fresh_add]

theorem get?_started_self :
    (started h parts).get? (h.fresh + 1) = some (.entity (blank parts .null h.fresh)) := by
  rw [started, ← Heap.fresh_add h (.list (parts.extra.map fun entry ↦ .str entry.1)),
    Heap.get?_add_fresh]

theorem get?_started_names : (started h parts).get? h.fresh =
    some (.list (parts.extra.map fun entry ↦ .str entry.1)) :=
  (Heap.extends_add _ _).found (Heap.get?_add_fresh _ _)

theorem fresh_branched : (branched h parts).fresh = h.fresh + 3 := by
  rw [branched, Heap.fresh_put, Heap.fresh_add, fresh_started]

theorem get?_branched_self : (branched h parts).get? (h.fresh + 1) =
    some (.entity (blank parts (.ref (h.fresh + 2)) h.fresh)) := by
  apply Heap.get?_put_self
  rw [Heap.fresh_add, fresh_started]
  exact Nat.lt_succ_of_lt (Nat.lt_succ_self _)

theorem get?_branched_list : (branched h parts).get? (h.fresh + 2) = some (.list []) := by
  have hne : h.fresh + 2 ≠ h.fresh + 1 := Nat.ne_of_gt (Nat.lt_succ_self _)
  rw [branched, Heap.get?_put_of_ne _ hne, ← fresh_started h parts, Heap.get?_add_fresh]

theorem get?_branched_names : (branched h parts).get? h.fresh =
    some (.list (parts.extra.map fun entry ↦ .str entry.1)) := by
  have hne : h.fresh ≠ h.fresh + 1 := Nat.ne_of_lt (Nat.lt_succ_self _)
  rw [branched, Heap.get?_put_of_ne _ hne]
  exact (Heap.extends_add _ _).found (get?_started_names h parts)

theorem get?_branched_of_lt {b : Addr} (hb : b < h.fresh) :
    (branched h parts).get? b = h.get? b := by
  have hne : b ≠ h.fresh + 1 := Nat.ne_of_lt (Nat.lt_succ_of_lt hb)
  have hext := (extends_started h parts).trans (Heap.extends_add _ (.list []))
  rw [branched, Heap.get?_put_of_ne _ hne, hext.same b hb]

end Starting

theorem giveList_started (w : World σ) (parts : Parts) :
    (do setAttr (.ref (w.heap.fresh + 1)) "nodes" (← new (.list [])) : Op σ Unit)
        { w with heap := started w.heap parts } =
      .ok () { w with heap := branched w.heap parts } := by
  have hself := (Heap.extends_add _ (.list [])).found (get?_started_self w.heap parts)
  rw [bind_of_ok (new_apply _ _), fresh_started]
  simp [setAttr, bind_apply, Heap.entity?_of_get? hself, Heap.assign, blank, readOnlyNames,
    Table.put, branched]

section Admitted

variable {parts : Parts} (htype : isText parts.type = true)
  (hfree : parts.extra.all (fun entry ↦ !isReserved entry.1) = true) (call : Caller σ)
include htype hfree

/-- A node that is not refused by its type or names is made before its children are looked at. -/
theorem smart_of_started :
    smart call parts w = (do
      if parts.nodes ≠ Value.null then
        requireList parts.nodes "nodes" false
        setAttr (.ref (w.heap.fresh + 1)) "nodes" (← new (.list []))
        addChildren call (.ref (w.heap.fresh + 1)) parts.nodes ((← size parts.nodes) + walkDepth) 0
      if parts.parent ≠ Value.null then
        setAttr (.ref (w.heap.fresh + 1)) "parent" parts.parent
      return .ref (w.heap.fresh + 1) : Op σ Value) { w with heap := started w.heap parts } := by
  have hnone : parts.extra.find? (fun entry ↦ isReserved entry.1) = none := by
    apply List.find?_eq_none.mpr
    intro entry hmem
    simpa using List.all_eq_true.mp hfree entry hmem
  rw [smart]
  simp only [htype, hnone, Bool.not_true, Bool.false_eq_true, if_false]
  rw [bind_of_ok (new_apply _ _), bind_of_ok (new_apply _ _), Heap.fresh_add]
  rfl

/-- Without children its parent is all that is left to set. -/
theorem smart_of_childless (hnull : parts.nodes = .null) :
    smart call parts w = (do
      if parts.parent ≠ Value.null then
        setAttr (.ref (w.heap.fresh + 1)) "parent" parts.parent
      return .ref (w.heap.fresh + 1) : Op σ Value) { w with heap := started w.heap parts } := by
  rw [smart_of_started htype hfree call, if_neg (by simp [hnull])]

/-- With a list of children these are taken in first. -/
theorem smart_of_branched {items : List Value} (hnodes : parts.nodes = .ref n)
    (hn : w.heap.get? n = some (.list items)) :
    smart call parts w = (do
      addChildren call (.ref (w.heap.fresh + 1)) (.ref n) (items.length + walkDepth) 0
      if parts.parent ≠ Value.null then
        setAttr (.ref (w.heap.fresh + 1)) "parent" parts.parent
      return .ref (w.heap.fresh + 1) : Op σ Value) { w with heap := branched w.heap parts } := by
  have hrequire : (requireList (.ref n) "nodes" false : Op σ Unit)
      { w with heap := started w.heap parts } = .ok () { w with heap := started w.heap parts } := by
    apply require_apply_true
    simp [Heap.list?_of_get? ((extends_started w.heap parts).found hn)]
  have hn' : (branched w.heap parts).get? n = some (.list items) := by
    rw [get?_branched_of_lt w.heap parts (Heap.lt_fresh_of_get? hn), hn]
  have hsize := size_apply (w := { w with heap := branched w.heap parts }) hn'
  have hne : Value.ref n ≠ .null := Value.noConfusion
  have hstart := smart_of_started (w := w) htype hfree call
  rw [hnodes, if_pos hne, bind_of_ok hrequire, ← bind_assoc, bind_of_ok (giveList_started w parts),
    bind_of_ok hsize] at hstart
  exact hstart

end Admitted

/-! ## Nodes from pages -/

/-- The attributes of a smart node that was made from a page; `k` is where the names of its extra
attributes are. -/
def attrsOf (p : Page) (nodes : Value) (k : Addr) : Table Value :=
  [("type", .str p.type), ("value", p.payload), ("nodes", nodes), ("_extra_keys", .ref k)] ++
    p.extra.table

theorem get?_attrsOf (p : Page) (nodes : Value) (k : Addr) (name : String) :
    Table.get? (attrsOf p nodes k) name =
      if name = "type" then some (.str p.type)
      else if name = "value" then some p.payload
      else if name = "nodes" then some nodes
      else if name = "_extra_keys" then some (.ref k)
      else Table.get? p.extra.table name := by
  simp only [attrsOf, List.cons_append, List.nil_append, Table.get?_cons]

theorem genuine_attrsOf (p : Page) (nodes : Value) (k : Addr) (link : Link) :
    Entity.Genuine ⟨.smart, attrsOf p nodes k, link⟩ where
  kind := .inl rfl
  unhidden := by
    intro name hname
    have hne : ∀ other, other ∉ Node.reservedNames → name ≠ other :=
      fun other hother h ↦ hother (h ▸ hname)
    rw [get?_attrsOf, if_neg (hne _ (by decide)), if_neg (hne _ (by decide)),
      if_neg (hne _ (by decide)), if_neg (hne _ (by decide))]
    exact lookup_of_notMem fun hmem ↦ p.extra.notMem_reservedNames hmem hname

theorem smartAt_of_get? {h : Heap} {k : Addr} {p : Page} {nodes : Value} {link : Link}
    (ha : h.get? a = some (.entity ⟨.smart, attrsOf p nodes k, link⟩))
    (hk : h.get? k = some (.list (p.extra.table.keys.map .str))) :
    h.SmartAt a p nodes ⟨.smart, attrsOf p nodes k, link⟩ where
  found := ha
  genuine := genuine_attrsOf p nodes k link
  kind := rfl
  type_eq := by simp [get?_attrsOf]
  value_eq := by simp [get?_attrsOf]
  val_eq := by
    have hval : Table.get? p.extra.table "val" = none :=
      lookup_of_notMem fun hmem ↦ (p.extra.free _ hmem).2.1 (by decide)
    simp [get?_attrsOf, hval]
  nodes_eq := by simp [get?_attrsOf]
  names_eq := ⟨k, by simp [get?_attrsOf], hk⟩
  extra_eq := by
    intro entry hmem
    obtain ⟨hreserved, hknown, -⟩ := p.extra.free entry.1 (List.mem_map_of_mem hmem)
    have htype : entry.1 ≠ "type" := fun h ↦ hknown (h ▸ by decide)
    have hvalue : entry.1 ≠ "value" := fun h ↦ hknown (h ▸ by decide)
    have hnodes : entry.1 ≠ "nodes" := fun h ↦ hknown (h ▸ by decide)
    have hkeys : entry.1 ≠ "_extra_keys" := by
      intro h
      rw [h] at hreserved
      exact absurd hreserved (by decide)
    rw [get?_attrsOf, if_neg htype, if_neg hvalue, if_neg hnodes, if_neg hkeys]
    exact lookup_of_mem p.extra.distinct hmem

/-! ## All of it -/

/-- The link of a node once its parent was set, if it is to have one. -/
def linkFor (h : Heap) (link : Link) (parent : Value) : Link :=
  if parent = .null then link else h.linkTo parent

/-- What is left to do once the children are there. -/
theorem setParent_apply {w : World σ} (ha : w.heap.get? a = some (.entity e)) (hk : e.kind = .smart)
    (parent : Value) :
    (do
      if parent ≠ .null then setAttr (.ref a) "parent" parent
      return .ref a : Op σ Value) w =
      .ok (.ref a)
        { w with
          heap := w.heap.put a (.entity { e with parent := linkFor w.heap e.parent parent }) } := by
  by_cases hparent : parent = .null
  · simp [hparent, linkFor, Heap.put_get? ha]
  · have hset : (setAttr (.ref a) "parent" parent : Op σ Unit) w =
        .ok () { w with
          heap := w.heap.put a (.entity { e with parent := w.heap.linkTo parent }) } := by
      simp [setAttr, bind_apply, Heap.entity?_of_get? ha, Heap.assign, hk]
    rw [if_pos hparent, linkFor, if_neg hparent, bind_of_ok hset]
    rfl

/-- A smart node was made from a page. -/
structure Raised (h h' : Heap) (p : Page) (parent : Value) (a : Addr) (nodes : Value)
    (children : List Addr) : Prop where
  made : ∃ e, h'.SmartAt a p nodes e ∧ (parent = .null → e.parent = .absent)
  new : h.fresh ≤ a
  grows : h.fresh ≤ h'.fresh
  linked : ∀ c ∈ children, ∃ f, h.get? c = some (.entity f) ∧ f.kind = .smart ∧
    h'.get? c = some (.entity { f with parent := .weak a })
  same : ∀ b, b < h.fresh → b ∉ children → h'.get? b = h.get? b

/-- The parts of a node say what a page says. -/
structure Parts.Match (parts : Parts) (p : Page) : Prop where
  type_eq : parts.type = .str p.type
  payload_eq : (if parts.value = .null then parts.val else parts.value) = p.payload
  extra_eq : parts.extra = p.extra.table

section Matching

variable {parts : Parts} {p : Page} (hp : parts.Match p)
include hp

theorem Parts.Match.type_isText : isText parts.type = true := by
  rw [hp.type_eq]
  rfl

theorem Parts.Match.free : parts.extra.all (fun entry ↦ !isReserved entry.1) = true := by
  rw [hp.extra_eq, List.all_eq_true]
  intro entry hmem
  rw [(p.extra.free entry.1 (List.mem_map_of_mem hmem)).1]
  rfl

theorem Parts.Match.blank_eq (nodes : Value) (k : Addr) :
    blank parts nodes k = ⟨.smart, attrsOf p nodes k, .absent⟩ := by
  rw [blank, hp.type_eq, hp.payload_eq, hp.extra_eq, attrsOf]

theorem Parts.Match.names_eq :
    parts.extra.map (fun entry ↦ Value.str entry.1) = p.extra.table.keys.map .str := by
  rw [hp.extra_eq, Table.keys, List.map_map]
  rfl

theorem growing_branched (h : Heap) : Growing (branched h parts) (h.fresh + 1) (h.fresh + 2)
    (blank parts (.ref (h.fresh + 2)) h.fresh) [] where
  found := get?_branched_self h parts
  genuine := by
    rw [hp.blank_eq]
    exact genuine_attrsOf p _ _ _
  kind := rfl
  nodes := by simp [blank, Table.get?_cons]
  orphan := rfl
  list := get?_branched_list h parts

/-- A node was made, perhaps its children were linked, and then its parent was set. -/
theorem raised_put {h h' : Heap} {nodes parent : Value} {children : List Addr}
    (hself : h'.get? (h.fresh + 1) = some (.entity (blank parts nodes h.fresh)))
    (hnames : h'.get? h.fresh = some (.list (parts.extra.map fun entry ↦ .str entry.1)))
    (hgrows : h.fresh ≤ h'.fresh)
    (hlinked : ∀ c ∈ children, c < h.fresh ∧ ∃ f, h.get? c = some (.entity f) ∧ f.kind = .smart ∧
      h'.get? c = some (.entity { f with parent := .weak (h.fresh + 1) }))
    (hsame : ∀ b, b < h.fresh → b ∉ children → h'.get? b = h.get? b) :
    Raised h
      (h'.put (h.fresh + 1)
        (.entity { blank parts nodes h.fresh with parent := linkFor h' .absent parent }))
      p parent (h.fresh + 1) nodes children where
  made := by
    have hlt := Heap.lt_fresh_of_get? hself
    have hne : h.fresh ≠ h.fresh + 1 := Nat.ne_of_lt (Nat.lt_succ_self _)
    rw [hp.blank_eq]
    refine ⟨_, smartAt_of_get? (Heap.get?_put_self hlt) ?_, fun hparent ↦ if_pos hparent⟩
    rw [Heap.get?_put_of_ne _ hne, hnames, hp.names_eq]
  new := Nat.le_succ _
  grows := by rw [Heap.fresh_put]; exact hgrows
  linked := by
    intro c hc
    obtain ⟨hlt, f, hget, hk, hget'⟩ := hlinked c hc
    refine ⟨f, hget, hk, ?_⟩
    rw [Heap.get?_put_of_ne _ (Nat.ne_of_lt (Nat.lt_succ_of_lt hlt)), hget']
  same := by
    intro b hb hbc
    rw [Heap.get?_put_of_ne _ (Nat.ne_of_lt (Nat.lt_succ_of_lt hb)), hsame b hb hbc]

/-- A leaf is made. -/
theorem smart_of_leaf (hnodes : parts.nodes = .null) (call : Caller σ) :
    ∃ a h, smart call parts w = .ok (.ref a) { w with heap := h } ∧
      Raised w.heap h p parts.parent a .null [] := by
  have hself := get?_started_self w.heap parts
  have hext := extends_started w.heap parts
  have hparent := setParent_apply (w := { w with heap := started w.heap parts }) hself rfl
    parts.parent
  exact ⟨_, _, (smart_of_childless hp.type_isText hp.free call hnodes).trans hparent,
    raised_put hp hself (get?_started_names w.heap parts) hext.grows
      (fun c hc ↦ absurd hc List.not_mem_nil) fun b hb _ ↦ hext.same b hb⟩

/-- A node with children is made. -/
theorem smart_of_list (foreign : Caller σ) (m : Nat) {n : Addr} {children : List Addr}
    (hnodes : parts.nodes = .ref n) (hn : w.heap.get? n = some (.list (children.map .ref)))
    (hchildren : ∀ c ∈ children, ∃ f, w.heap.get? c = some (.entity f) ∧ f.Genuine ∧
      f.kind = .smart)
    (hnodup : children.Nodup) :
    ∃ a l h, smart (invoke foreign (m + 1)) parts w = .ok (.ref a) { w with heap := h } ∧
      Raised w.heap h p parts.parent a (.ref l) children ∧
      h.get? l = some (.list (children.map .ref)) := by
  have hlt : n < w.heap.fresh := Heap.lt_fresh_of_get? hn
  have hlt' : ∀ c ∈ children, c < w.heap.fresh := by
    intro c hc
    obtain ⟨f, hget, -⟩ := hchildren c hc
    exact Heap.lt_fresh_of_get? hget
  have hn' : (branched w.heap parts).get? n = some (.list (children.map .ref)) := by
    rw [get?_branched_of_lt w.heap parts hlt, hn]
  have hchildren' : ∀ c ∈ children, c ≠ w.heap.fresh + 1 ∧
      ∃ f, (branched w.heap parts).get? c = some (.entity f) ∧ f.Genuine ∧ f.kind = .smart := by
    intro c hc
    rw [get?_branched_of_lt w.heap parts (hlt' c hc)]
    exact ⟨Nat.ne_of_lt (Nat.lt_succ_of_lt (hlt' c hc)), hchildren c hc⟩
  obtain ⟨h, hadd, hadopts, hgrown⟩ := addChildren_apply
    (w := { w with heap := branched w.heap parts }) foreign m (growing_branched hp w.heap) hn'
    (Nat.ne_of_lt (Nat.lt_add_right 2 hlt)) List.drop_zero
    (Nat.lt_add_of_pos_right (by decide : 0 < walkDepth)) hchildren' hnodup
  have hparent := setParent_apply (w := { w with heap := h }) hgrown.found rfl parts.parent
  refine ⟨w.heap.fresh + 1, w.heap.fresh + 2, _,
    (smart_of_branched hp.type_isText hp.free _ hnodes hn).trans ?_,
    raised_put hp hgrown.found ?_ ?_ ?_ ?_, ?_⟩
  · rw [List.length_map, bind_of_ok hadd]
    exact hparent
  · have hfree : w.heap.fresh ∉ children := fun hc ↦ Nat.lt_irrefl _ (hlt' _ hc)
    rw [hadopts.same _ (Nat.ne_of_lt (Nat.lt_add_of_pos_right Nat.two_pos)) hfree]
    exact get?_branched_names w.heap parts
  · rw [hadopts.fresh, fresh_branched]
    exact Nat.le_add_right _ _
  · intro c hc
    rw [← get?_branched_of_lt w.heap parts (hlt' c hc)]
    exact ⟨hlt' c hc, hadopts.linked c hc⟩
  · intro b hb hbc
    rw [hadopts.same b (Nat.ne_of_lt (Nat.lt_add_right 2 hb)) hbc,
      get?_branched_of_lt w.heap parts hb]
  · have hne : w.heap.fresh + 2 ≠ w.heap.fresh + 1 := Nat.ne_of_gt (Nat.lt_succ_self _)
    rw [Heap.get?_put_of_ne _ hne]
    exact hgrown.list

end Matching

end Node

end TagTree
