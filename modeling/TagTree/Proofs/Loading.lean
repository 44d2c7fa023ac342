import TagTree.Proofs.Making
import TagTree.Proofs.Reading

/-!
# Loading trees from documents

Building a tree of smart nodes from nested mappings reads a page off each mapping. Whenever it
succeeds there is a new tree of distinct nodes with the pages that were read, in which every node is
linked to the one that has it as a child; everything that was there before is as it was. It always
succeeds for mappings that ask for trees, and the tree can be dumped again.
-/

namespace TagTree

open Op
open Document (field)

/-! ## One step of loading -/

namespace Document

variable {σ : Type} {w w' : World σ} {root v : Value} {entries : List (Value × Value)}
  {extra : Table Value}

/-- What a node is made from, by the entries of a mapping. -/
def partsOf (entries : List (Value × Value)) (extra : Table Value) (nodes : Value) :
    Node.Parts where
  type := field entries "type"
  value := field entries "value"
  val := field entries "val"
  nodes := nodes
  parent := (Table.get? extra "parent").getD .null
  extra := Table.erase extra "parent"

/-- What is left to do once the children of a mapping are loaded. -/
def complete (call : Caller σ) (entries : List (Value × Value)) (nodes : Value) : Op σ Value := do
  let extra ← fromExcept (extras entries)
  if Table.contains extra "self" then throw .unsupported
  Node.smart call (partsOf entries extra nodes)

theorem complete_eq_ok_iff {call : Caller σ} {nodes : Value} :
    complete call entries nodes w = .ok root w' ↔
      ∃ extra, extras entries = .ok extra ∧ Table.contains extra "self" = false ∧
        Node.smart call (partsOf entries extra nodes) w = .ok root w' := by
  unfold complete
  cases hextra : extras entries with
  | error fault =>
    rw [bind_of_error (fromExcept_error_apply fault w)]
    simp
  | ok extra =>
    rw [bind_of_ok (fromExcept_ok_apply extra w)]
    cases hself : Table.contains extra "self" with
    | true => simp [bind_apply, hself]
    | false => simp [hself]

theorem toSmart_of_dict (call : Caller σ) (n : Nat) (hdict : w.heap.dict? v = some entries)
    (htext : isText (field entries "type") = true) :
    toSmart call (n + 1) v w =
      if field entries "nodes" = .null then complete call entries .null w
      else (do
        requireList (field entries "nodes") "data.nodes" false
        let children ← (← iterate (field entries "nodes")).mapM (toSmart call n)
        complete call entries (← new (.list children)) : Op σ Value) w := by
  rw [toSmart, bind_of_ok (heap_apply w), hdict]
  unfold field at htext ⊢
  simp only [htext, Bool.not_true, Bool.false_eq_true, if_false]
  split <;> rfl

/-- The children are loaded if they are in a list. -/
theorem loadList_eq_ok_iff {nodes : Value} {load : Value → Op σ Value}
    {next : List Value → Op σ Value} :
    (do
      requireList nodes "data.nodes" false
      let children ← (← iterate nodes).mapM load
      next children : Op σ Value) w = .ok root w' ↔
      ∃ items children w₁, w.heap.list? nodes = some items ∧ items.mapM load w = .ok children w₁ ∧
        next children w₁ = .ok root w' := by
  cases hlist : w.heap.list? nodes with
  | none =>
    have hrequire : (requireList nodes "data.nodes" false : Op σ Unit) w =
        .error (.argument (.expected "data.nodes" .array) (.str "data.nodes")) w :=
      require_apply_false (by simp [hlist]) _ _ w
    rw [bind_of_error hrequire]
    simp
  | some items =>
    obtain ⟨l, rfl, hget⟩ := Heap.get?_of_list? hlist
    have hrequire : (requireList (.ref l) "data.nodes" false : Op σ Unit) w = .ok () w :=
      require_apply_true (by simp [hlist]) _ _ w
    rw [bind_of_ok hrequire, bind_of_ok (iterate_apply hget), bind_eq_ok]
    simp

/-- Loading succeeds for mappings with a text as type only. The children, if there are any, are
loaded first. -/
theorem toSmart_eq_ok_iff {call : Caller σ} {n : Nat} :
    toSmart call (n + 1) v w = .ok root w' ↔
      ∃ entries, w.heap.dict? v = some entries ∧ isText (field entries "type") = true ∧
        (field entries "nodes" = .null ∧ complete call entries .null w = .ok root w' ∨
          ∃ items children w₁, w.heap.list? (field entries "nodes") = some items ∧
            items.mapM (toSmart call n) w = .ok children w₁ ∧
            complete call entries (.ref w₁.heap.fresh)
              { w₁ with heap := w₁.heap.add (.list children) } = .ok root w') := by
  cases hdict : w.heap.dict? v with
  | none =>
    have hrefused : toSmart call (n + 1) v w =
        .error (.argument (.expected "data" .dict) (.str "data")) w := by
      rw [toSmart, bind_of_ok (heap_apply w), hdict]
      rfl
    simp [hrefused]
  | some entries =>
    cases htext : isText (field entries "type") with
    | false =>
      have hrefused : toSmart call (n + 1) v w =
          .error (.argument (.expected "data.type" .string) (.str "data")) w := by
        unfold field at htext
        rw [toSmart, bind_of_ok (heap_apply w), hdict]
        simp only [htext, Bool.not_false, if_true]
        rfl
      simp [hrefused, htext]
    | true =>
      rw [toSmart_of_dict call n hdict htext]
      by_cases hnull : field entries "nodes" = .null
      · have hlist : w.heap.list? .null = none := rfl
        simp [hnull, htext, hlist]
      · rw [if_neg hnull]
        simp only [Option.some.injEq, exists_eq_left', htext, hnull, false_and, false_or, true_and]
        exact loadList_eq_ok_iff

/-! ## The pages of mappings -/

theorem isText_eq_true_iff {v : Value} : isText v = true ↔ ∃ text, v = .str text := by
  cases v <;> simp [isText]

/-- A mapping that a node can be made from says what is on a page. -/
theorem exists_page (hkeys : (entries.map Prod.fst).Nodup)
    (htext : isText (field entries "type") = true) (hextra : extras entries = .ok extra)
    (hself : Table.contains extra "self" = false)
    (hfree : ∀ entry ∈ Table.erase extra "parent", Node.isReserved entry.1 = false) :
    ∃ p : Page, p.ReadFrom entries ∧ ∀ nodes, (partsOf entries extra nodes).Match p := by
  obtain ⟨x, hx⟩ := exists_extras hkeys hextra hself hfree
  obtain ⟨type, htype⟩ := isText_eq_true_iff.mp htext
  refine ⟨⟨type, _, x⟩, ⟨htype, rfl, ?_⟩, fun nodes ↦ ⟨htype, rfl, hx.symm⟩⟩
  rw [Extras.entries, hx, entries_erase_parent hextra]

end Document

/-- A smart node that was made has no extra attribute with a reserved name. -/
theorem Node.free_of_smart {σ : Type} {w w' : World σ} {call : Caller σ} {parts : Parts}
    {root : Value} (hmade : smart call parts w = .ok root w') :
    ∀ entry ∈ parts.extra, isReserved entry.1 = false := by
  cases hfind : parts.extra.find? fun entry ↦ isReserved entry.1 with
  | none => simpa using List.find?_eq_none.mp hfind
  | some entry =>
    exfalso
    unfold smart at hmade
    cases htext : isText parts.type <;> simp [bind_apply, htext, hfind] at hmade

/-- What is completed was read from a page. -/
theorem Document.exists_page_of_complete {σ : Type} {w w' : World σ} {call : Caller σ}
    {nodes root : Value} {entries : List (Value × Value)} (hkeys : (entries.map Prod.fst).Nodup)
    (htext : isText (field entries "type") = true)
    (hmade : complete call entries nodes w = .ok root w') :
    ∃ p extra, p.ReadFrom entries ∧ extras entries = .ok extra ∧
      (∀ nodes, (partsOf entries extra nodes).Match p) ∧
      Node.smart call (partsOf entries extra nodes) w = .ok root w' := by
  obtain ⟨extra, hextra, hself, hsmart⟩ := complete_eq_ok_iff.mp hmade
  obtain ⟨p, hread, hmatch⟩ := exists_page hkeys htext hextra hself (Node.free_of_smart hsmart)
  exact ⟨p, extra, hread, hextra, hmatch, hsmart⟩

/-! ## Trees that were loaded -/

/-- A smart node: where it is, and the page it was made from. -/
structure Plant where
  addr : Addr
  page : Page

def Plant.site (x : Plant) : Site :=
  ⟨x.addr, .smart x.page⟩

namespace Heap

variable {h h' : Heap}

/-- What an object is linked to as its parent. -/
def linkAt? (h : Heap) (a : Addr) : Option Link :=
  match h.get? a with
  | some (.entity e) => some e.parent
  | _ => none

theorem Stands.madeAt_of_mem {t : Orchard Site} (ht : h.Stands t) :
    ∀ x ∈ t.labels, ∃ nodes, h.MadeAt x nodes := by
  induction t with
  | nil => exact fun x hx ↦ absurd hx List.not_mem_nil
  | leaf y rest ih =>
    intro x hx
    rcases List.mem_cons.mp hx with rfl | hx
    · exact ⟨_, ht.1⟩
    · exact ih ht.2 x hx
  | tree y below rest ihbelow ihrest =>
    obtain ⟨⟨nodes, hmade, -⟩, hbelow, hrest⟩ := ht
    intro x hx
    rcases List.mem_cons.mp hx with rfl | hx
    · exact ⟨nodes, hmade⟩
    · exact (List.mem_append.mp hx).elim (ihbelow hbelow x) (ihrest hrest x)

theorem Stands.append {s t : Orchard Site} (hs : h.Stands s) (ht : h.Stands t) :
    h.Stands (s.append t) := by
  induction s with
  | nil => exact ht
  | leaf x rest ih => exact ⟨hs.1, ih hs.2⟩
  | tree x below rest _ ih => exact ⟨hs.1, hs.2.1, ih hs.2.2⟩

/-- A value is among the children of another. -/
def HasChild (h : Heap) (p c : Value) : Prop :=
  ∃ items, h.sequence? (h.attrOrNull p "nodes") = some items ∧ c ∈ items

/-- The lower end of an edge is a child of the upper one. -/
theorem Stands.hasChild {t : Orchard Site} (ht : h.Stands t) :
    ∀ e ∈ t.edges, h.HasChild e.1.ref e.2.ref := by
  induction t with
  | nil => exact fun e he ↦ absurd he List.not_mem_nil
  | leaf x rest ih => exact ih ht.2
  | tree x below rest ihbelow ihrest =>
    obtain ⟨⟨nodes, hmade, hnodes⟩, hbelow, hrest⟩ := ht
    intro e he
    simp only [Orchard.edges, List.append_assoc, List.mem_append, List.mem_map] at he
    rcases he with ⟨y, hy, rfl⟩ | he | he
    · refine ⟨_, ?_, List.mem_map_of_mem hy⟩
      rw [hmade.attrOrNull_nodes, hnodes]
    · exact ihbelow hbelow e he
    · exact ihrest hrest e he

end Heap

/-- Trees of smart nodes were loaded from mappings: they are new, consist of distinct nodes, have
the pages that the mappings ask for, and each node in them is linked to the one above it. -/
structure Loaded (h h' : Heap) (docs : List Value) (t : Orchard Plant) : Prop where
  extends_heap : h.Extends h'
  stands : h'.Stands (t.map Plant.site)
  asks : h'.Asks (t.map Plant.page) docs
  new : ∀ x ∈ t.labels, h.fresh ≤ x.addr
  distinct : (t.labels.map Plant.addr).Nodup
  linked : ∀ e ∈ t.edges, h'.linkAt? e.2.addr = some (.weak e.1.addr)

namespace Loaded

variable {h h₁ h₂ h' : Heap} {docs others : List Value} {s t : Orchard Plant}

theorem nil (h : Heap) : Loaded h h [] .nil where
  extends_heap := .refl h
  stands := trivial
  asks := rfl
  new := fun _ hx ↦ absurd hx List.not_mem_nil
  distinct := List.nodup_nil
  linked := fun _ he ↦ absurd he List.not_mem_nil

theorem smartAt_of_mem (ht : Loaded h h' docs t) {x : Plant} (hx : x ∈ t.labels) :
    ∃ nodes e, h'.SmartAt x.addr x.page nodes e := by
  have hsite : x.site ∈ (t.map Plant.site).labels := by
    rw [Orchard.labels_map]
    exact List.mem_map_of_mem hx
  exact ht.stands.madeAt_of_mem x.site hsite

theorem lt_fresh (ht : Loaded h h' docs t) {x : Plant} (hx : x ∈ t.labels) : x.addr < h'.fresh := by
  obtain ⟨nodes, e, he⟩ := ht.smartAt_of_mem hx
  exact Heap.lt_fresh_of_get? he.found

theorem mem_labels_of_root {x : Plant} (hx : x ∈ t.roots) : x ∈ t.labels :=
  t.roots_append_edges_perm.subset (List.mem_append_left _ hx)

/-- No two roots are the same node. -/
theorem nodup_roots (ht : Loaded h h' docs t) : (t.roots.map Plant.addr).Nodup := by
  have hnodup := (t.roots_append_edges_perm.map Plant.addr).nodup_iff.mpr ht.distinct
  rw [List.map_append] at hnodup
  exact (List.nodup_append.mp hnodup).1

theorem smart_of_root (ht : Loaded h h' docs t) :
    ∀ c ∈ t.roots.map Plant.addr,
      ∃ f, h'.get? c = some (.entity f) ∧ f.Genuine ∧ f.kind = .smart := by
  intro c hc
  obtain ⟨x, hx, rfl⟩ := List.mem_map.mp hc
  obtain ⟨nodes, f, hf⟩ := ht.smartAt_of_mem (mem_labels_of_root hx)
  exact ⟨f, hf.found, hf.genuine, hf.kind⟩

theorem linkAt?_of_same {a : Addr} (ha : h'.get? a = h.get? a) : h'.linkAt? a = h.linkAt? a := by
  rw [Heap.linkAt?, Heap.linkAt?, ha]

/-- The lower ends of the edges are no roots, and are among the nodes. -/
theorem edge_lower (ht : Loaded h h' docs t) {e : Plant × Plant} (he : e ∈ t.edges) :
    e.2 ∈ t.labels ∧ e.2.addr ∉ t.roots.map Plant.addr := by
  have hperm := t.roots_append_edges_perm
  have hmem : e.2 ∈ t.edges.map Prod.snd := List.mem_map_of_mem he
  have hnodup := (hperm.map Plant.addr).nodup_iff.mpr ht.distinct
  rw [List.map_append] at hnodup
  refine ⟨hperm.subset (List.mem_append_right _ hmem), fun hroot ↦ ?_⟩
  exact (List.nodup_append.mp hnodup).2.2 _ hroot _ (List.mem_map_of_mem hmem) rfl

theorem hasChild (ht : Loaded h h' docs t) {e : Plant × Plant} (he : e ∈ t.edges) :
    h'.HasChild (.ref e.1.addr) (.ref e.2.addr) := by
  refine ht.stands.hasChild (e.1.site, e.2.site) ?_
  rw [Orchard.edges_map]
  exact List.mem_map_of_mem he

/-- What a smart node answers when it is asked for its parent. -/
theorem attrOrNull_parent (ht : Loaded h h' docs t) {x : Plant} (hx : x ∈ t.labels) {link : Link}
    (hlink : h'.linkAt? x.addr = some link) :
    h'.attrOrNull (.ref x.addr) "parent" = link.target h' := by
  obtain ⟨nodes, e, he⟩ := ht.smartAt_of_mem hx
  rw [Heap.linkAt?, he.found] at hlink
  cases hlink
  rw [Heap.attrOrNull_parent he.found he.genuine, Entity.parentIn, he.kind]

/-- The parent of a node is the one above it. -/
theorem parent_eq (ht : Loaded h h' docs t) {e : Plant × Plant} (he : e ∈ t.edges) :
    h'.attrOrNull (.ref e.2.addr) "parent" = .ref e.1.addr := by
  obtain ⟨nodes, f, hf⟩ := ht.smartAt_of_mem (Orchard.upper_mem_labels he)
  have hlive : (h'.get? e.1.addr).isSome = true := Option.isSome_of_eq_some hf.found
  rw [ht.attrOrNull_parent (ht.edge_lower he).1 (ht.linked e he), Link.target, if_pos hlive]

/-- Mappings are loaded one after the other. -/
theorem append (hs : Loaded h h₁ docs s) (ht : Loaded h₁ h' others t) :
    Loaded h h' (docs ++ others) (s.append t) where
  extends_heap := hs.extends_heap.trans ht.extends_heap
  stands := by
    rw [Orchard.map_append]
    exact (hs.stands.relinked ht.extends_heap.relinked).append ht.stands
  asks := by
    rw [Orchard.map_append]
    exact (hs.asks.relinked ht.extends_heap.relinked).append ht.asks
  new := by
    intro x hx
    rw [Orchard.labels_append] at hx
    rcases List.mem_append.mp hx with hx | hx
    · exact hs.new x hx
    · exact Nat.le_trans hs.extends_heap.grows (ht.new x hx)
  distinct := by
    rw [Orchard.labels_append, List.map_append, List.nodup_append]
    refine ⟨hs.distinct, ht.distinct, ?_⟩
    rintro _ ha _ hb rfl
    obtain ⟨x, hx, hxa⟩ := List.mem_map.mp ha
    obtain ⟨y, hy, hya⟩ := List.mem_map.mp hb
    have hlt := hs.lt_fresh hx
    have hle := ht.new y hy
    rw [hxa] at hlt
    rw [hya] at hle
    exact Nat.lt_irrefl _ (Nat.lt_of_lt_of_le hlt hle)
  linked := by
    intro e he
    rw [Orchard.edges_append] at he
    rcases List.mem_append.mp he with he | he
    · have hlt := hs.lt_fresh (hs.edge_lower he).1
      rw [linkAt?_of_same (ht.extends_heap.same _ hlt), hs.linked e he]
    · exact ht.linked e he

end Loaded

/-! ## Nodes made on the way -/

namespace Node.Raised

variable {h h₁ h₂ h' : Heap} {p : Page} {parent nodes v : Value} {a : Addr} {children : List Addr}
  {items : List Value} {entries : List (Value × Value)}

theorem relinked (hr : Raised h h' p parent a nodes children) : h.Relinked h' := by
  refine ⟨hr.grows, fun b o hb ↦ ?_⟩
  by_cases hbc : b ∈ children
  · obtain ⟨f, hget, hk, hget'⟩ := hr.linked b hbc
    rw [hb] at hget
    cases hget
    exact .inr ⟨f, _, rfl, hk, hget'⟩
  · rw [hr.same b (Heap.lt_fresh_of_get? hb) hbc]
    exact .inl hb

theorem madeAt (hr : Raised h h' p parent a nodes children) :
    h'.MadeAt (Plant.site ⟨a, p⟩) nodes := by
  obtain ⟨e, he, -⟩ := hr.made
  exact ⟨e, he⟩

/-- A node that was made without a parent has none. -/
theorem linkAt?_eq_absent (hr : Raised h h' p parent a nodes children) (hparent : parent = .null) :
    h'.linkAt? a = some .absent := by
  obtain ⟨e, he, horphan⟩ := hr.made
  rw [Heap.linkAt?, he.found]
  exact congrArg some (horphan hparent)

theorem linkAt?_eq_weak (hr : Raised h h' p parent a nodes children) {c : Addr}
    (hc : c ∈ children) : h'.linkAt? c = some (.weak a) := by
  obtain ⟨f, -, -, hget⟩ := hr.linked c hc
  rw [Heap.linkAt?, hget]

/-- A mapping without children was loaded. -/
theorem loaded_leaf (hr : Raised h h' p parent a .null []) (hdict : h.dict? v = some entries)
    (hread : p.ReadFrom entries) (hnull : field entries "nodes" = .null) :
    Loaded h h' [v] (.leaf ⟨a, p⟩ .nil) where
  extends_heap := ⟨hr.grows, fun b hb ↦ hr.same b hb List.not_mem_nil⟩
  stands := ⟨hr.madeAt, trivial⟩
  asks := ⟨v, [], entries, rfl, hr.relinked.dict? hdict, hread, hnull, rfl⟩
  new := by
    intro x hx
    cases List.mem_singleton.mp hx
    exact hr.new
  distinct := List.nodup_cons.mpr ⟨List.not_mem_nil, List.nodup_nil⟩
  linked := fun _ he ↦ absurd he List.not_mem_nil

/-- A mapping with children was loaded, these before it. -/
theorem loaded_tree {below : Orchard Plant} {l : Addr} (hbelow : Loaded h h₁ items below)
    (hx : h₁.Extends h₂)
    (hr : Raised h₂ h' p parent a (.ref l) (below.roots.map Plant.addr))
    (hl : h'.get? l = some (.list ((below.roots.map Plant.addr).map .ref)))
    (hdict : h.dict? v = some entries) (hread : p.ReadFrom entries)
    (hlist : h.list? (field entries "nodes") = some items) :
    Loaded h h' [v] (.tree ⟨a, p⟩ below .nil) where
  extends_heap := by
    have hx₂ := hbelow.extends_heap.trans hx
    refine ⟨Nat.le_trans hx₂.grows hr.grows, fun b hb ↦ ?_⟩
    have hold : b ∉ below.roots.map Plant.addr := by
      intro hmem
      obtain ⟨x, hroot, rfl⟩ := List.mem_map.mp hmem
      have hle := hbelow.new x (Loaded.mem_labels_of_root hroot)
      exact Nat.lt_irrefl _ (Nat.lt_of_lt_of_le hb hle)
    rw [hr.same b (Nat.lt_of_lt_of_le hb hx₂.grows) hold, hx₂.same b hb]
  stands := by
    have hseq : h'.sequence? (.ref l) = some ((below.map Plant.site).roots.map Site.ref) := by
      rw [Heap.sequence?_eq_some_iff, Orchard.roots_map]
      refine ⟨l, rfl, .inl ?_⟩
      rw [hl, List.map_map, List.map_map]
      rfl
    exact ⟨⟨_, hr.madeAt, hseq⟩, (hbelow.stands.relinked hx.relinked).relinked hr.relinked, trivial⟩
  asks := by
    have hdict' := hr.relinked.dict? (hx.relinked.dict? (hbelow.extends_heap.relinked.dict? hdict))
    have hlist' := hr.relinked.list? (hx.relinked.list? (hbelow.extends_heap.relinked.list? hlist))
    exact ⟨v, [], entries, items, rfl, hdict', hread, hlist',
      (hbelow.asks.relinked hx.relinked).relinked hr.relinked, rfl⟩
  new := by
    intro x hmem
    rcases List.mem_cons.mp hmem with rfl | hmem
    · exact Nat.le_trans (hbelow.extends_heap.trans hx).grows hr.new
    · exact hbelow.new x (by simpa [Orchard.labels] using hmem)
  distinct := by
    have hfresh : a ∉ below.labels.map Plant.addr := by
      intro hmem
      obtain ⟨x, hmem, hxa⟩ := List.mem_map.mp hmem
      have hlt := Nat.lt_of_lt_of_le (hbelow.lt_fresh hmem) (Nat.le_trans hx.grows hr.new)
      exact Nat.lt_irrefl _ (hxa ▸ hlt)
    simpa [Orchard.labels] using ⟨by simpa using hfresh, hbelow.distinct⟩
  linked := by
    intro e he
    simp only [Orchard.edges, List.append_nil] at he
    rcases List.mem_append.mp he with he | he
    · obtain ⟨x, hroot, rfl⟩ := List.mem_map.mp he
      exact hr.linkAt?_eq_weak (List.mem_map_of_mem hroot)
    · obtain ⟨hmem, hroot⟩ := hbelow.edge_lower he
      have hlt := hbelow.lt_fresh hmem
      rw [Loaded.linkAt?_of_same (hr.same _ (Nat.lt_of_lt_of_le hlt hx.grows) hroot),
        Loaded.linkAt?_of_same (hx.same _ hlt), hbelow.linked e he]

end Node.Raised

/-! ## What loading does -/

/-- Values of a kind that are loaded as documents: if they are mappings, no key comes twice, and
their children are again of that kind. -/
structure Keyed (P : Heap → Value → Prop) : Prop where
  extend : ∀ {h h' v}, P h v → h.Extends h' → P h' v
  distinct : ∀ {h v entries}, P h v → h.dict? v = some entries → (entries.map Prod.fst).Nodup
  items : ∀ {h v entries items}, P h v → h.dict? v = some entries →
    h.list? (field entries "nodes") = some items → ∀ u ∈ items, P h u

namespace Document

variable {σ : Type} {w w' : World σ} {P : Heap → Value → Prop} {root v : Value}

theorem parent_partsOf {entries : List (Value × Value)} {extra : Table Value}
    (hextra : extras entries = .ok extra) (nodes : Value) :
    (partsOf entries extra nodes).parent = field entries "parent" := by
  rw [partsOf, get?_of_extras hextra (by decide)]
  rfl

section Steps

variable {p : Page} {entries : List (Value × Value)} {extra : Table Value}
  (hdict : w.heap.dict? v = some entries) (hread : p.ReadFrom entries)
  (hextra : extras entries = .ok extra) (hmatch : ∀ nodes, (partsOf entries extra nodes).Match p)
include hdict hread hextra hmatch

/-- A mapping without children is loaded. -/
theorem smart_loads_leaf (hnull : field entries "nodes" = .null) (call : Caller σ) :
    ∃ a h, Node.smart call (partsOf entries extra .null) w = .ok (.ref a) { w with heap := h } ∧
      Loaded w.heap h [v] (.leaf ⟨a, p⟩ .nil) ∧
      (field entries "parent" = .null → h.linkAt? a = some .absent) := by
  obtain ⟨a, h, hsmart, hraised⟩ := Node.smart_of_leaf (w := w) (hmatch .null) rfl call
  rw [parent_partsOf hextra] at hraised
  exact ⟨a, h, hsmart, hraised.loaded_leaf hdict hread hnull, hraised.linkAt?_eq_absent⟩

/-- A mapping with children is loaded, once these are. -/
theorem smart_loads_tree {items : List Value} {below : Orchard Plant} {h₁ : Heap}
    (hlist : w.heap.list? (field entries "nodes") = some items)
    (hbelow : Loaded w.heap h₁ items below) (foreign : Caller σ) (m : Nat) :
    ∃ a h, Node.smart (invoke foreign (m + 1)) (partsOf entries extra (.ref h₁.fresh))
        { w with heap := h₁.add (.list ((below.roots.map Plant.addr).map .ref)) } =
          .ok (.ref a) { w with heap := h } ∧
      Loaded w.heap h [v] (.tree ⟨a, p⟩ below .nil) ∧
      (field entries "parent" = .null → h.linkAt? a = some .absent) := by
  have hext := Heap.extends_add h₁ (.list ((below.roots.map Plant.addr).map .ref))
  have hroots : ∀ c ∈ below.roots.map Plant.addr,
      ∃ f, (h₁.add (.list ((below.roots.map Plant.addr).map .ref))).get? c = some (.entity f) ∧
        f.Genuine ∧ f.kind = .smart := by
    intro c hc
    obtain ⟨f, hget, hf⟩ := hbelow.smart_of_root c hc
    exact ⟨f, hext.found hget, hf⟩
  obtain ⟨a, l, h, hsmart, hraised, hl⟩ := Node.smart_of_list
    (w := { w with heap := h₁.add (.list ((below.roots.map Plant.addr).map .ref)) })
    (hmatch (.ref h₁.fresh)) foreign m rfl (Heap.get?_add_fresh _ _) hroots hbelow.nodup_roots
  rw [parent_partsOf hextra] at hraised
  exact ⟨a, h, hsmart, hraised.loaded_tree hbelow hext hl hdict hread hlist,
    hraised.linkAt?_eq_absent⟩

end Steps

/-- A row of mappings was loaded, given what loading does to each of them. -/
theorem loaded_of_mapM (hP : Keyed P) {load : Value → Op σ Value}
    (hload : ∀ {w w' : World σ} {v root : Value}, P w.heap v → load v w = .ok root w' →
      ∃ x t h, t.roots = [x] ∧ root = .ref x.addr ∧ w' = { w with heap := h } ∧
        Loaded w.heap h [v] t)
    {docs children : List Value} (hdocs : ∀ u ∈ docs, P w.heap u)
    (hrun : docs.mapM load w = .ok children w') :
    ∃ t h, children = (t.roots.map Plant.addr).map .ref ∧ w' = { w with heap := h } ∧
      Loaded w.heap h docs t := by
  induction docs generalizing w children with
  | nil =>
    cases hrun
    exact ⟨.nil, _, rfl, rfl, .nil _⟩
  | cons v docs ih =>
    rw [List.mapM_cons, bind_eq_ok] at hrun
    obtain ⟨root, w₁, hfirst, hrun⟩ := hrun
    obtain ⟨others, w₂, hrest, hdone⟩ := bind_eq_ok.mp hrun
    cases hdone
    obtain ⟨x, s, h₁, hroots, rfl, rfl, hs⟩ := hload (hdocs v List.mem_cons_self) hfirst
    obtain ⟨t, h, rfl, rfl, ht⟩ := ih (w := { w with heap := h₁ })
      (fun u hu ↦ hP.extend (hdocs u (List.mem_cons_of_mem _ hu)) hs.extends_heap) hrest
    refine ⟨s.append t, h, ?_, rfl, hs.append ht⟩
    rw [Orchard.roots_append, hroots]
    rfl

/-- What the loader does when it is called. -/
theorem invoke_loader (foreign : Caller σ) (n : Nat) (v : Value) :
    invoke foreign (n + 1) .loader [v] [] w = toSmart (invoke foreign n) n v w :=
  rfl

/-- Loading that succeeds was given the means to. -/
theorem toSmart_of_invoke {foreign : Caller σ} {fuel : Nat}
    (hload : invoke foreign fuel .loader [v] [] w = .ok root w') :
    ∃ m n, toSmart (invoke foreign (m + 1)) n v w = .ok root w' := by
  cases fuel with
  | zero => cases hload
  | succ fuel =>
    rw [invoke_loader] at hload
    cases fuel with
    | zero => cases hload
    | succ m => exact ⟨m, _, hload⟩

/-- Loading a mapping makes a tree that is just as it asks for. The induction is on how far loading
counts. -/
theorem loaded_of_toSmart (hP : Keyed P) (foreign : Caller σ) (m : Nat) {n : Nat}
    (hv : P w.heap v) (hrun : toSmart (invoke foreign (m + 1)) n v w = .ok root w') :
    ∃ x t h, t.roots = [x] ∧ root = .ref x.addr ∧ w' = { w with heap := h } ∧
      Loaded w.heap h [v] t ∧ ∃ entries, w.heap.dict? v = some entries ∧
        (field entries "parent" = .null → h.linkAt? x.addr = some .absent) := by
  induction n generalizing w w' v root with
  | zero => cases hrun
  | succ n ih =>
    obtain ⟨entries, hdict, htext, hrun⟩ := toSmart_eq_ok_iff.mp hrun
    have hkeys := hP.distinct hv hdict
    rcases hrun with ⟨hnull, hmade⟩ | ⟨items, children, w₁, hlist, hchildren, hmade⟩
    · obtain ⟨p, extra, hread, hextra, hmatch, hsmart⟩ := exists_page_of_complete hkeys htext hmade
      obtain ⟨a, h, hsmart', hloaded, horphan⟩ :=
        smart_loads_leaf hdict hread hextra hmatch hnull (invoke foreign (m + 1))
      cases hsmart.symm.trans hsmart'
      exact ⟨⟨a, p⟩, _, h, rfl, rfl, rfl, hloaded, entries, hdict, horphan⟩
    · have hload : ∀ {w w' : World σ} {v root : Value}, P w.heap v →
          toSmart (invoke foreign (m + 1)) n v w = .ok root w' →
          ∃ x t h, t.roots = [x] ∧ root = .ref x.addr ∧ w' = { w with heap := h } ∧
            Loaded w.heap h [v] t := by
        intro w w' v root hv hrun
        obtain ⟨x, t, h, hroots, hroot, hw, hloaded, -⟩ := ih hv hrun
        exact ⟨x, t, h, hroots, hroot, hw, hloaded⟩
      obtain ⟨below, h₁, rfl, rfl, hbelow⟩ :=
        loaded_of_mapM hP hload (hP.items hv hdict hlist) hchildren
      obtain ⟨p, extra, hread, hextra, hmatch, hsmart⟩ := exists_page_of_complete hkeys htext hmade
      obtain ⟨a, h, hsmart', hloaded, horphan⟩ :=
        smart_loads_tree hdict hread hextra hmatch hlist hbelow foreign m
      cases hsmart.symm.trans hsmart'
      exact ⟨⟨a, p⟩, _, h, rfl, rfl, rfl, hloaded, entries, hdict, horphan⟩

/-! ## What is loaded -/

/-- A node can be made from a mapping that asks for one. -/
theorem complete_of_readFrom {p : Page} {entries : List (Value × Value)}
    (hread : p.ReadFrom entries) :
    ∃ extra, extras entries = .ok extra ∧ Table.contains extra "self" = false ∧
      ∀ nodes, (partsOf entries extra nodes).Match p := by
  obtain ⟨extra, hextra, herase⟩ := exists_extra_of_readFrom hread
  refine ⟨extra, hextra, ?_, fun nodes ↦ ⟨hread.type_eq, hread.payload_eq, herase⟩⟩
  cases hself : Table.get? extra "self" with
  | none => rw [Table.contains, hself]; rfl
  | some v =>
    have hmem : ("self", v) ∈ p.extra.table := by
      rw [← herase]
      exact List.mem_filter.mpr ⟨mem_of_lookup hself, rfl⟩
    exact absurd rfl (p.extra.free "self" (List.mem_map_of_mem hmem)).2.2

/-- Mappings are loaded that ask for trees. The induction is on the trees. -/
theorem mapM_toSmart_of_asks (foreign : Caller σ) (m : Nat) (D : Orchard Page) {n : Nat}
    {docs : List Value} (hasks : w.heap.Asks D docs) (hn : D.weight ≤ n) :
    ∃ t h, docs.mapM (toSmart (invoke foreign (m + 1)) n) w =
        .ok ((t.roots.map Plant.addr).map .ref) { w with heap := h } ∧
      Loaded w.heap h docs t ∧ t.map Plant.page = D := by
  induction D generalizing w n docs with
  | nil =>
    cases hasks
    exact ⟨.nil, w.heap, rfl, .nil _, rfl⟩
  | leaf p rest ih =>
    simp only [Orchard.weight] at hn
    obtain ⟨n, rfl⟩ : ∃ i, n = i + 1 := ⟨n - 1, by omega⟩
    obtain ⟨v, others, entries, rfl, hdict, hread, hnull, hrest⟩ := hasks
    obtain ⟨extra, hextra, hself, hmatch⟩ := complete_of_readFrom hread
    have htext := isText_eq_true_iff.mpr ⟨p.type, hread.type_eq⟩
    obtain ⟨a, h₁, hsmart, hfirst, -⟩ :=
      smart_loads_leaf hdict hread hextra hmatch hnull (invoke foreign (m + 1))
    have hrun : toSmart (invoke foreign (m + 1)) (n + 1) v w =
        .ok (.ref a) { w with heap := h₁ } :=
      toSmart_eq_ok_iff.mpr ⟨entries, hdict, htext,
        .inl ⟨hnull, complete_eq_ok_iff.mpr ⟨extra, hextra, hself, hsmart⟩⟩⟩
    obtain ⟨t, h, hothers, ht, rfl⟩ := ih (w := { w with heap := h₁ })
      (hrest.relinked hfirst.extends_heap.relinked) (Nat.le_of_succ_le hn)
    refine ⟨.leaf ⟨a, p⟩ t, h, ?_, hfirst.append ht, rfl⟩
    rw [List.mapM_cons, bind_of_ok hrun, bind_of_ok hothers]
    rfl
  | tree p below rest ihbelow ihrest =>
    simp only [Orchard.weight] at hn
    obtain ⟨n, rfl⟩ : ∃ i, n = i + 1 := ⟨n - 1, by omega⟩
    have hn' : below.weight ≤ n ∧ rest.weight ≤ n + 1 := by omega
    obtain ⟨v, others, entries, items, rfl, hdict, hread, hlist, hbelow, hrest⟩ := hasks
    obtain ⟨extra, hextra, hself, hmatch⟩ := complete_of_readFrom hread
    have htext := isText_eq_true_iff.mpr ⟨p.type, hread.type_eq⟩
    obtain ⟨s, h₀, hitems, hs, rfl⟩ := ihbelow hbelow hn'.1
    obtain ⟨a, h₁, hsmart, hfirst, -⟩ :=
      smart_loads_tree hdict hread hextra hmatch hlist hs foreign m
    have hrun : toSmart (invoke foreign (m + 1)) (n + 1) v w =
        .ok (.ref a) { w with heap := h₁ } :=
      toSmart_eq_ok_iff.mpr ⟨entries, hdict, htext, .inr ⟨items, _, _, hlist, hitems,
        complete_eq_ok_iff.mpr ⟨extra, hextra, hself, hsmart⟩⟩⟩
    obtain ⟨t, h, hothers, ht, rfl⟩ := ihrest (w := { w with heap := h₁ })
      (hrest.relinked hfirst.extends_heap.relinked) hn'.2
    refine ⟨.tree ⟨a, p⟩ s t, h, ?_, hfirst.append ht, rfl⟩
    rw [List.mapM_cons, bind_of_ok hrun, bind_of_ok hothers]
    rfl

/-- The loader makes a tree from a mapping that asks for one. -/
theorem loader_of_asks (foreign : Caller σ) {D : Orchard Page} {n : Nat}
    (hasks : w.heap.Asks D [v]) (hn : D.weight < n) :
    ∃ x t h, t.roots = [x] ∧
      invoke foreign n .loader [v] [] w = .ok (.ref x.addr) { w with heap := h } ∧
      Loaded w.heap h [v] t ∧ t.map Plant.page = D := by
  have hpos := D.weight_pos
  obtain ⟨m, rfl⟩ : ∃ i, n = i + 2 := ⟨n - 2, by omega⟩
  obtain ⟨t, h, hrun, ht, hpages⟩ :=
    mapM_toSmart_of_asks foreign m D hasks (Nat.le_of_lt_succ hn)
  rw [List.mapM_cons, bind_eq_ok] at hrun
  obtain ⟨root, w₁, hrun, hdone⟩ := hrun
  obtain ⟨hroot, rfl⟩ : [root] = (t.roots.map Plant.addr).map .ref ∧ w₁ = { w with heap := h } :=
    EStateM.Result.ok.inj hdone
  rw [List.map_map] at hroot
  obtain ⟨x, hroots, rfl⟩ := List.map_eq_singleton_iff.mp hroot.symm
  exact ⟨x, t, h, hroots, hrun, ht, hpages⟩

/-- What was loaded can be dumped, and gives the pages that were read. -/
theorem toDict_of_loaded (foreign : Caller σ) {h : Heap} {docs : List Value} {t : Orchard Plant}
    {x : Plant} (ht : Loaded h w.heap docs t) (hroots : t.roots = [x]) {n : Nat}
    (hn : t.weight < n) :
    ∃ doc h', invoke foreign n (.method x.addr .toDict) [] [] w = .ok doc { w with heap := h' } ∧
      w.heap.Extends h' ∧ h'.Shows (t.map Plant.page) [doc] := by
  have hsites : (t.map Plant.site).roots = [x.site] := by
    rw [Orchard.roots_map, hroots]
    rfl
  have hpages : (t.map Plant.site).map (Site.page w.heap) = t.map Plant.page := by
    rw [Orchard.map_map]
    rfl
  rw [← hpages]
  exact toDict_apply foreign (x := x.site) ht.stands hsites rfl (by rwa [Orchard.weight_map])

end Document

end TagTree
