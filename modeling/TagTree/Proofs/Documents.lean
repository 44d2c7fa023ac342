import TagTree.Invoke
import TagTree.Proofs.Children

/-!
# Trees and their documents

A document is a mapping with the type of a node, its payload unless that is null, its extra
attributes and, unless the node is a leaf, the list of the documents of its children. This module
says how a tree of smart and plain nodes stands in a heap, how a document lies there, and that
turning the tree into a document always succeeds and gives the document of that very tree.

Trees and documents are both orchards: labelled trees side by side. The label of a node is where it
is and what it was made from; the label of a document is a page.
-/

namespace TagTree

open Op

/-! ## Orchards -/

/-- Labelled trees side by side. The first tree is a leaf, or there is a row of trees below its
root, which may be empty. -/
inductive Orchard (α : Type)
  | nil
  | leaf (label : α) (rest : Orchard α)
  | tree (label : α) (below rest : Orchard α)

namespace Orchard

variable {α β : Type}

def map (f : α → β) : Orchard α → Orchard β
  | nil => nil
  | leaf x rest => leaf (f x) (rest.map f)
  | tree x below rest => tree (f x) (below.map f) (rest.map f)

def roots : Orchard α → List α
  | nil => []
  | leaf x rest | tree x _ rest => x :: rest.roots

/-- All labels, each before those below it. -/
def labels : Orchard α → List α
  | nil => []
  | leaf x rest => x :: rest.labels
  | tree x below rest => x :: (below.labels ++ rest.labels)

/-- The labels that are next to each other, upper one first. -/
def edges : Orchard α → List (α × α)
  | nil => []
  | leaf _ rest => rest.edges
  | tree x below rest => below.roots.map (x, ·) ++ below.edges ++ rest.edges

/-- Two rows of trees, one behind the other. -/
def append : Orchard α → Orchard α → Orchard α
  | nil, t => t
  | leaf x rest, t => leaf x (rest.append t)
  | tree x below rest, t => tree x below (rest.append t)

/-- How far a walk through the trees has to count at most. -/
def weight : Orchard α → Nat
  | nil => 1
  | leaf _ rest => rest.weight + 1
  | tree _ below rest => below.weight + rest.weight + 1

theorem weight_pos (t : Orchard α) : 0 < t.weight := by
  cases t <;> simp [weight]

@[simp]
theorem weight_map (f : α → β) (t : Orchard α) : (t.map f).weight = t.weight := by
  induction t with
  | nil => rfl
  | leaf x rest ih => simp [map, weight, ih]
  | tree x below rest ihbelow ihrest => simp [map, weight, ihbelow, ihrest]

theorem eq_nil_of_roots {t : Orchard α} (ht : t.roots = []) : t = nil := by
  cases t with
  | nil => rfl
  | _ => cases ht

theorem roots_append (s t : Orchard α) : (s.append t).roots = s.roots ++ t.roots := by
  induction s with
  | nil => rfl
  | leaf x rest ih | tree x _ rest _ ih => rw [append, roots, ih]; rfl

theorem labels_append (s t : Orchard α) : (s.append t).labels = s.labels ++ t.labels := by
  induction s with
  | nil => rfl
  | leaf x rest ih => rw [append, labels, ih]; rfl
  | tree x below rest _ ih => rw [append, labels, ih]; simp [labels]

theorem edges_append (s t : Orchard α) : (s.append t).edges = s.edges ++ t.edges := by
  induction s with
  | nil => rfl
  | leaf x rest ih => rw [append, edges, ih]; rfl
  | tree x below rest _ ih => rw [append, edges, ih]; simp [edges]

theorem map_append (f : α → β) (s t : Orchard α) :
    (s.append t).map f = (s.map f).append (t.map f) := by
  induction s with
  | nil => rfl
  | leaf x rest ih | tree x _ rest _ ih => rw [append, map, ih]; rfl

theorem map_map {γ : Type} (g : β → γ) (f : α → β) (t : Orchard α) :
    (t.map f).map g = t.map (g ∘ f) := by
  induction t with
  | nil => rfl
  | leaf x rest ih => rw [map, map, map, ih]; rfl
  | tree x below rest ihbelow ihrest => rw [map, map, map, ihbelow, ihrest]; rfl

theorem roots_map (f : α → β) (t : Orchard α) : (t.map f).roots = t.roots.map f := by
  induction t with
  | nil => rfl
  | leaf x rest ih | tree x _ rest _ ih => rw [map, roots, ih]; rfl

theorem labels_map (f : α → β) (t : Orchard α) : (t.map f).labels = t.labels.map f := by
  induction t with
  | nil => rfl
  | leaf x rest ih => rw [map, labels, ih]; rfl
  | tree x below rest ihbelow ihrest => rw [map, labels, ihbelow, ihrest]; simp [labels]

theorem edges_map (f : α → β) (t : Orchard α) :
    (t.map f).edges = t.edges.map fun e ↦ (f e.1, f e.2) := by
  induction t with
  | nil => rfl
  | leaf x rest ih => rw [map, edges, ih]; rfl
  | tree x below rest ihbelow ihrest =>
    rw [map, edges, ihbelow, ihrest, roots_map]
    simp [edges]

theorem upper_mem_labels {t : Orchard α} {e : α × α} (he : e ∈ t.edges) : e.1 ∈ t.labels := by
  induction t with
  | nil => cases he
  | leaf x rest ih => exact List.mem_cons_of_mem _ (ih he)
  | tree x below rest ihbelow ihrest =>
    simp only [edges, List.append_assoc, List.mem_append, List.mem_map] at he
    simp only [labels, List.mem_cons, List.mem_append]
    rcases he with ⟨y, -, rfl⟩ | he | he
    · exact .inl rfl
    · exact .inr (.inl (ihbelow he))
    · exact .inr (.inr (ihrest he))

/-- Each label is that of a root, or stands below exactly one other. -/
theorem roots_append_edges_perm (t : Orchard α) :
    (t.roots ++ t.edges.map Prod.snd).Perm t.labels := by
  induction t with
  | nil => exact .refl _
  | leaf x rest ih => exact ih.cons x
  | tree x below rest ihbelow ihrest =>
    have hbelow : (below.roots.map (x, ·)).map Prod.snd = below.roots := by
      rw [List.map_map]
      exact List.map_id _
    simp only [roots, edges, labels, List.map_append, hbelow, List.cons_append]
    apply List.Perm.cons
    exact (List.perm_append_comm_assoc _ _ _).trans (ihbelow.append ihrest)

end Orchard

/-! ## Pages -/

/-- Extra attributes as a smart node can be given them when it is made. -/
structure Extras where
  table : Table Value
  distinct : table.keys.Nodup
  free : ∀ name ∈ table.keys,
    Node.isReserved name = false ∧ name ∉ Node.knownNames ∧ name ≠ "self"

/-- What a document says about one node, apart from its children. -/
structure Page where
  type : String
  payload : Value
  extra : Extras

def Extras.none : Extras :=
  ⟨[], List.nodup_nil, fun _ h ↦ absurd h List.not_mem_nil⟩

/-- A table as entries of a mapping. -/
def Table.entries (t : Table Value) : List (Value × Value) :=
  t.map fun entry ↦ (.str entry.1, entry.2)

theorem Table.entries_cons (entry : String × Value) (t : Table Value) :
    Table.entries (entry :: t) = (.str entry.1, entry.2) :: t.entries :=
  rfl

theorem Table.keys_entries (t : Table Value) : t.entries.map Prod.fst = t.keys.map .str := by
  rw [Table.entries, Table.keys, List.map_map, List.map_map]
  rfl

def Extras.entries (x : Extras) : List (Value × Value) :=
  x.table.entries

/-- The entries of a mapping that says what a page says. -/
def Page.entries (p : Page) : List (Value × Value) :=
  (.str "type", .str p.type) ::
    ((if p.payload = .null then [] else [(.str "value", p.payload)]) ++ p.extra.entries)

theorem Node.notMem_reservedNames {name : String} (hfree : Node.isReserved name = false) :
    name ∉ Node.reservedNames := by
  rw [Node.isReserved, Bool.or_eq_false_iff] at hfree
  intro hreserved
  rw [List.contains_iff_mem.mpr hreserved] at hfree
  exact Bool.noConfusion hfree.2

theorem Extras.notMem_reservedNames (x : Extras) {name : String} (hmem : name ∈ x.table.keys) :
    name ∉ Node.reservedNames :=
  Node.notMem_reservedNames (x.free name hmem).1

/-- The names that a page has something to say for. -/
def Page.names (p : Page) : List String :=
  "type" :: ((if p.payload = .null then [] else ["value"]) ++ p.extra.table.keys)

theorem Page.keys_entries (p : Page) : p.entries.map Prod.fst = p.names.map .str := by
  unfold Page.entries Page.names Extras.entries
  split <;> simp [Table.keys_entries]

/-- The names are all different, and leave room for the children. -/
theorem Page.nodup_names (p : Page) : p.names.Nodup := by
  have hfree : ∀ name ∈ Node.knownNames, name ∉ p.extra.table.keys :=
    fun name hknown hmem ↦ (p.extra.free name hmem).2.1 hknown
  have htype := hfree "type" (by decide)
  have hvalue := hfree "value" (by decide)
  unfold Page.names
  split
  · simpa using ⟨htype, p.extra.distinct⟩
  · simpa using ⟨htype, hvalue, p.extra.distinct⟩

theorem Page.nodes_notMem_names (p : Page) : "nodes" ∉ p.names := by
  have hnodes : "nodes" ∉ p.extra.table.keys :=
    fun hmem ↦ (p.extra.free "nodes" hmem).2.1 (by decide)
  unfold Page.names
  split <;> simpa using hnodes

theorem Page.nodup_keys (p : Page) : (p.entries.map Prod.fst).Nodup := by
  rw [p.keys_entries]
  exact List.pairwise_map.mpr (p.nodup_names.imp fun hne heq ↦ hne (Value.str.inj heq))

theorem Page.nodes_notMem_keys (p : Page) : .str "nodes" ∉ p.entries.map Prod.fst := by
  rw [p.keys_entries]
  intro hmem
  obtain ⟨name, hname, heq⟩ := List.mem_map.mp hmem
  cases heq
  exact p.nodes_notMem_names hname

/-- Documents lie in a heap, in the order of the values that refer to them. -/
def Heap.Shows (h : Heap) : Orchard Page → List Value → Prop
  | .nil, docs => docs = []
  | .leaf p rest, docs =>
    ∃ a others, docs = .ref a :: others ∧ h.get? a = some (.dict p.entries) ∧ h.Shows rest others
  | .tree p below rest, docs =>
    ∃ a l items others, docs = .ref a :: others ∧
      h.get? a = some (.dict (p.entries ++ [(.str "nodes", .ref l)])) ∧
      h.get? l = some (.list items) ∧ h.Shows below items ∧ h.Shows rest others

/-! ## Trees in a heap -/

/-- What a node was made from, apart from its children. -/
inductive Making
  | smart (page : Page)
  | plain (type : String) (value val : Value)

def Making.type : Making → String
  | .smart p => p.type
  | .plain type _ _ => type

def Making.value : Making → Value
  | .smart p => p.payload
  | .plain _ value _ => value

/-- The value under its older name, which smart nodes do not keep. -/
def Making.val : Making → Value
  | .smart _ => .null
  | .plain _ _ val => val

/-- A node: where it is, and what it was made from. -/
structure Site where
  addr : Addr
  making : Making

/-- What the document of a node says. A plain node falls back on the older attribute if its value
counts as false. -/
def Making.page (h : Heap) : Making → Page
  | .smart p => p
  | .plain type value val => ⟨type, if h.truthy value then value else val, .none⟩

def Site.page (h : Heap) (x : Site) : Page :=
  x.making.page h

def Site.ref (x : Site) : Value :=
  .ref x.addr

/-- A smart node that was made from a page, and its children. -/
structure Heap.SmartAt (h : Heap) (a : Addr) (p : Page) (nodes : Value) (e : Entity) : Prop where
  found : h.get? a = some (.entity e)
  genuine : e.Genuine
  kind : e.kind = .smart
  type_eq : Table.get? e.attrs "type" = some (.str p.type)
  value_eq : Table.get? e.attrs "value" = some p.payload
  val_eq : Table.get? e.attrs "val" = none
  nodes_eq : Table.get? e.attrs "nodes" = some nodes
  names_eq : ∃ k, Table.get? e.attrs "_extra_keys" = some (.ref k) ∧
    h.get? k = some (.list (p.extra.table.keys.map .str))
  extra_eq : ∀ entry ∈ p.extra.table, Table.get? e.attrs entry.1 = some entry.2

/-- A plain node and its children. -/
structure Heap.PlainAt (h : Heap) (a : Addr) (type : String) (value val nodes : Value)
    (e : Entity) : Prop where
  found : h.get? a = some (.entity e)
  genuine : e.Genuine
  kind : e.kind = .plain
  type_eq : Table.get? e.attrs "type" = some (.str type)
  value_eq : Table.get? e.attrs "value" = some value
  val_eq : Table.get? e.attrs "val" = some val
  nodes_eq : Table.get? e.attrs "nodes" = some nodes
  settled : ∀ b, value = .ref b → b < h.fresh

/-- A node is where it should be, made from what it should be made from, with the given value in
the place of its children. -/
def Heap.MadeAt (h : Heap) (x : Site) (nodes : Value) : Prop :=
  match x.making with
  | .smart p => ∃ e, h.SmartAt x.addr p nodes e
  | .plain type value val => ∃ e, h.PlainAt x.addr type value val nodes e

/-- Trees of nodes stand in a heap. The children of each node are in a list or tuple, unless there
is none. -/
def Heap.Stands (h : Heap) : Orchard Site → Prop
  | .nil => True
  | .leaf x rest => h.MadeAt x .null ∧ h.Stands rest
  | .tree x below rest =>
    (∃ nodes, h.MadeAt x nodes ∧ h.sequence? nodes = some (below.roots.map Site.ref)) ∧
      h.Stands below ∧ h.Stands rest

namespace Heap

variable {h h' : Heap}

theorem Extends.refl (h : Heap) : h.Extends h :=
  ⟨Nat.le_refl _, fun _ _ ↦ rfl⟩

theorem Shows.extend {t : Orchard Page} {docs : List Value} (ht : h.Shows t docs)
    (hx : h.Extends h') : h'.Shows t docs := by
  induction t generalizing docs with
  | nil => exact ht
  | leaf p rest ih =>
    obtain ⟨a, others, rfl, hget, hrest⟩ := ht
    exact ⟨a, others, rfl, hx.found hget, ih hrest⟩
  | tree p below rest ihbelow ihrest =>
    obtain ⟨a, l, items, others, rfl, hget, hlist, hbelow, hrest⟩ := ht
    exact ⟨a, l, items, others, rfl, hx.found hget, hx.found hlist, ihbelow hbelow, ihrest hrest⟩

theorem Shows.append {s t : Orchard Page} {docs others : List Value} (hs : h.Shows s docs)
    (ht : h.Shows t others) : h.Shows (s.append t) (docs ++ others) := by
  induction s generalizing docs with
  | nil => cases hs; exact ht
  | leaf p rest ih =>
    obtain ⟨a, docs, rfl, hget, hrest⟩ := hs
    exact ⟨a, docs ++ others, rfl, hget, ih hrest⟩
  | tree p below rest _ ih =>
    obtain ⟨a, l, items, docs, rfl, hget, hlist, hbelow, hrest⟩ := hs
    exact ⟨a, l, items, docs ++ others, rfl, hget, hlist, hbelow, ih hrest⟩

/-- Every object is still there, and smart nodes may have got other links. -/
def Relinked (h h' : Heap) : Prop :=
  h.fresh ≤ h'.fresh ∧ ∀ a o, h.get? a = some o → h'.get? a = some o ∨
    ∃ e link, o = .entity e ∧ e.kind = .smart ∧ h'.get? a = some (.entity { e with parent := link })

theorem Extends.relinked (hx : h.Extends h') : h.Relinked h' :=
  ⟨hx.grows, fun _ _ ha ↦ .inl (hx.found ha)⟩

theorem Relinked.of_collection (hr : h.Relinked h') {a : Addr} {o : Object}
    (ho : ∀ e, o ≠ .entity e) (ha : h.get? a = some o) : h'.get? a = some o := by
  rcases hr.2 a o ha with ha' | ⟨e, -, rfl, -⟩
  · exact ha'
  · exact absurd rfl (ho e)

theorem sequence?_eq_some_iff {v : Value} {items : List Value} :
    h.sequence? v = some items ↔
      ∃ a, v = .ref a ∧ (h.get? a = some (.list items) ∨ h.get? a = some (.tuple items)) := by
  cases v with
  | ref a =>
    simp only [Heap.sequence?, object?]
    split <;> simp_all
  | _ => simp [Heap.sequence?, object?]

theorem Relinked.sequence? (hr : h.Relinked h') {v : Value} {items : List Value}
    (hv : h.sequence? v = some items) : h'.sequence? v = some items := by
  rw [sequence?_eq_some_iff] at hv ⊢
  obtain ⟨a, rfl, hget⟩ := hv
  exact ⟨a, rfl, hget.imp (hr.of_collection fun _ ↦ Object.noConfusion)
    (hr.of_collection fun _ ↦ Object.noConfusion)⟩

theorem SmartAt.relinked {a : Addr} {p : Page} {nodes : Value} {e : Entity}
    (ha : h.SmartAt a p nodes e) (hr : h.Relinked h') :
    ∃ link, h'.SmartAt a p nodes { e with parent := link } := by
  have hnames : ∃ k, Table.get? e.attrs "_extra_keys" = some (.ref k) ∧
      h'.get? k = some (.list (p.extra.table.keys.map .str)) := by
    obtain ⟨k, hk, hget⟩ := ha.names_eq
    exact ⟨k, hk, hr.of_collection (fun _ ↦ Object.noConfusion) hget⟩
  have hgenuine : ∀ link, Entity.Genuine { e with parent := link } :=
    fun link ↦ ⟨ha.genuine.kind, ha.genuine.unhidden⟩
  have hfound : ∃ link, h'.get? a = some (.entity { e with parent := link }) := by
    rcases hr.2 a _ ha.found with hsame | ⟨e', link, he', -, hnew⟩
    · exact ⟨e.parent, hsame⟩
    · cases he'
      exact ⟨link, hnew⟩
  obtain ⟨link, hfound⟩ := hfound
  exact ⟨link, hfound, hgenuine link, ha.kind, ha.type_eq, ha.value_eq, ha.val_eq, ha.nodes_eq,
    hnames, ha.extra_eq⟩

theorem PlainAt.relinked {a : Addr} {type : String} {value val nodes : Value}
    {e : Entity} (ha : h.PlainAt a type value val nodes e) (hr : h.Relinked h') :
    h'.PlainAt a type value val nodes e := by
  have hfound : h'.get? a = some (.entity e) := by
    rcases hr.2 a _ ha.found with hsame | ⟨e', link, he', hk, -⟩
    · exact hsame
    · cases he'
      rw [ha.kind] at hk
      cases hk
  exact { ha with
    found := hfound
    settled := fun b hb ↦ Nat.lt_of_lt_of_le (ha.settled b hb) hr.1 }

/-- Whether its value counts as true does not change when objects are added. -/
theorem PlainAt.truthy_eq {a : Addr} {type : String} {value val nodes : Value} {e : Entity}
    (ha : h.PlainAt a type value val nodes e) (hx : h.Extends h') :
    h'.truthy value = h.truthy value := by
  cases value with
  | ref b => simp only [truthy, hx.same b (ha.settled b rfl)]
  | _ => rfl

theorem MadeAt.relinked {x : Site} {nodes : Value} (hm : h.MadeAt x nodes) (hr : h.Relinked h') :
    h'.MadeAt x nodes := by
  unfold MadeAt at hm ⊢
  split at hm
  · obtain ⟨e, he⟩ := hm
    obtain ⟨link, he'⟩ := he.relinked hr
    exact ⟨_, he'⟩
  · obtain ⟨e, he⟩ := hm
    exact ⟨e, he.relinked hr⟩

theorem Stands.relinked {t : Orchard Site} (ht : h.Stands t) (hr : h.Relinked h') :
    h'.Stands t := by
  induction t with
  | nil => trivial
  | leaf x rest ih => exact ⟨ht.1.relinked hr, ih ht.2⟩
  | tree x below rest ihbelow ihrest =>
    obtain ⟨⟨nodes, hmade, hseq⟩, hbelow, hrest⟩ := ht
    exact ⟨⟨nodes, hmade.relinked hr, hr.sequence? hseq⟩, ihbelow hbelow, ihrest hrest⟩

/-! ## What nodes tell about themselves -/

theorem getAttr_of_genuine {σ : Type} {w : World σ} {a : Addr} {e : Entity}
    (ha : w.heap.get? a = some (.entity e)) (hg : e.Genuine) {name : String} {v : Value}
    (hn : name ∉ Node.reservedNames) (hv : Table.get? e.attrs name = some v) :
    (getAttr (.ref a) name : Op σ Value) w = .ok v w := by
  refine getAttr_of_attr? ?_ ?_ ?_
  · rw [attr?_of_genuine ha hg hn, hv]
  · rintro rfl; exact hn (by decide)
  · rintro rfl; exact hn (by decide)

section Telling

variable {a : Addr} {p : Page} {type : String} {value val nodes : Value} {e : Entity}

theorem PlainAt.attrOrNull (ha : h.PlainAt a type value val nodes e) {name : String} {v : Value}
    (hn : name ∉ Node.reservedNames) (hv : Table.get? e.attrs name = some v) :
    h.attrOrNull (.ref a) name = v := by
  rw [attrOrNull_of_genuine ha.found ha.genuine hn, hv]
  rfl

end Telling

/-- A node has the attributes it was made with, whatever its kind. -/
theorem MadeAt.attrs {x : Site} {nodes : Value} (hm : h.MadeAt x nodes) :
    ∃ e, h.get? x.addr = some (.entity e) ∧ e.Genuine ∧
      Table.get? e.attrs "nodes" = some nodes ∧
      (Table.get? e.attrs "value").getD .null = x.making.value ∧
      (Table.get? e.attrs "val").getD .null = x.making.val := by
  unfold MadeAt at hm
  split at hm
  · next p hp =>
    obtain ⟨e, he⟩ := hm
    exact ⟨e, he.found, he.genuine, he.nodes_eq, by rw [he.value_eq, hp]; rfl,
      by rw [he.val_eq, hp]; rfl⟩
  · next type value val hp =>
    obtain ⟨e, he⟩ := hm
    exact ⟨e, he.found, he.genuine, he.nodes_eq, by rw [he.value_eq, hp]; rfl,
      by rw [he.val_eq, hp]; rfl⟩

theorem MadeAt.isNode {x : Site} {nodes : Value} (hm : h.MadeAt x nodes) :
    h.isNode x.ref = true := by
  obtain ⟨e, hget, hgenuine, -⟩ := hm.attrs
  exact isNode_of_genuine hget hgenuine

theorem MadeAt.attrOrNull_nodes {x : Site} {nodes : Value} (hm : h.MadeAt x nodes) :
    h.attrOrNull x.ref "nodes" = nodes := by
  obtain ⟨e, hget, hgenuine, hnodes, -⟩ := hm.attrs
  rw [Site.ref, attrOrNull_of_genuine hget hgenuine (by decide), hnodes]
  rfl

theorem MadeAt.attrOrNull_value {x : Site} {nodes : Value} (hm : h.MadeAt x nodes) :
    h.attrOrNull x.ref "value" = x.making.value := by
  obtain ⟨e, hget, hgenuine, -, hvalue, -⟩ := hm.attrs
  rw [Site.ref, attrOrNull_of_genuine hget hgenuine (by decide), hvalue]

theorem MadeAt.attrOrNull_val {x : Site} {nodes : Value} (hm : h.MadeAt x nodes) :
    h.attrOrNull x.ref "val" = x.making.val := by
  obtain ⟨e, hget, hgenuine, -, -, hval⟩ := hm.attrs
  rw [Site.ref, attrOrNull_of_genuine hget hgenuine (by decide), hval]

theorem MadeAt.page_eq (hx : h.Extends h') {x : Site} {nodes : Value} (hm : h.MadeAt x nodes) :
    x.page h' = x.page h := by
  unfold MadeAt at hm
  unfold Site.page
  split at hm
  · next p hp => rw [hp]; rfl
  · next type value val hp =>
    obtain ⟨e, he⟩ := hm
    rw [hp, Making.page, Making.page, he.truthy_eq hx]

theorem Stands.pages_eq (hx : h.Extends h') {t : Orchard Site} (ht : h.Stands t) :
    t.map (Site.page h') = t.map (Site.page h) := by
  induction t with
  | nil => rfl
  | leaf x rest ih => rw [Orchard.map, Orchard.map, ht.1.page_eq hx, ih ht.2]
  | tree x below rest ihbelow ihrest =>
    obtain ⟨⟨nodes, hmade, -⟩, hbelow, hrest⟩ := ht
    rw [Orchard.map, Orchard.map, hmade.page_eq hx, ihbelow hbelow, ihrest hrest]

end Heap

/-! ## Dumping -/

namespace Document

theorem putEntry_of_new {key v : Value} {entries : List (Value × Value)}
    (hkey : key ∉ entries.map Prod.fst) : putEntry key v entries = entries ++ [(key, v)] := by
  induction entries with
  | nil => rfl
  | cons entry rest ih =>
    obtain ⟨k, x⟩ := entry
    simp only [List.map_cons, List.mem_cons, not_or] at hkey
    rw [putEntry, if_neg fun hk ↦ hkey.1 hk.symm, ih hkey.2]
    rfl

/-- Entries with new keys are put behind the others, in their order. -/
theorem putEntries_of_new {extras entries : List (Value × Value)}
    (hnew : ((entries ++ extras).map Prod.fst).Nodup) :
    extras.foldl (fun entries (key, v) ↦ putEntry key v entries) entries = entries ++ extras := by
  induction extras generalizing entries with
  | nil => simp
  | cons entry rest ih =>
    obtain ⟨key, v⟩ := entry
    have hkey : key ∉ entries.map Prod.fst := by
      rw [List.map_append, List.map_cons] at hnew
      exact fun hmem ↦ (List.nodup_append.mp hnew).2.2 _ hmem _ List.mem_cons_self rfl
    have hassoc : entries ++ (key, v) :: rest = (entries ++ [(key, v)]) ++ rest := by simp
    rw [List.foldl_cons]
    dsimp only
    rw [putEntry_of_new hkey, ih (hassoc ▸ hnew), ← hassoc]

variable {σ : Type} {w : World σ} {a : Addr} {p : Page} {nodes : Value} {e : Entity}

/-- What is left to do once the entries of a node are known. -/
def finish (entries : List (Value × Value)) (nodes : Value) (dumpAll : Op σ (List Value)) :
    Op σ Value :=
  if nodes = .null then withNodes entries none
  else do withNodes entries (some (← dumpAll))

theorem extraEntries_apply {t : Table Value} {v : Value}
    (ht : ∀ entry ∈ t, (getAttr v entry.1 : Op σ Value) w = .ok entry.2 w) :
    (t.keys.map .str).mapM (extraEntry v) w = .ok t.entries w := by
  induction t with
  | nil => rfl
  | cons entry rest ih =>
    have hentry : (extraEntry v (.str entry.1) : Op σ _) w = .ok (.str entry.1, entry.2) w := by
      rw [extraEntry, bind_of_ok (ht entry List.mem_cons_self)]
      rfl
    have hrest := ih fun entry hmem ↦ ht entry (List.mem_cons_of_mem _ hmem)
    change ((.str entry.1 :: (Table.keys rest).map .str).mapM (extraEntry v) : Op σ _) w = _
    rw [List.mapM_cons, bind_of_ok hentry, bind_of_ok hrest]
    rfl

/-- The entries of a smart node are those of its page. -/
theorem ofSmart_apply (call : Caller σ) (fuel : Nat) (ha : w.heap.SmartAt a p nodes e) :
    ofSmart call fuel (.ref a) w =
      finish p.entries nodes (mapAll fuel (ofChild call fuel) nodes) w := by
  obtain ⟨k, hk, hnames⟩ := ha.names_eq
  have hattr : ∀ {name v}, name ∉ Node.reservedNames → Table.get? e.attrs name = some v →
      (getAttr (.ref a) name : Op σ Value) w = .ok v w :=
    fun hn hv ↦ Heap.getAttr_of_genuine ha.found ha.genuine hn hv
  have hextra := extraEntries_apply (w := w) (v := .ref a) (t := p.extra.table) fun entry hmem ↦
    hattr (p.extra.notMem_reservedNames (List.mem_map_of_mem hmem)) (ha.extra_eq entry hmem)
  rw [ofSmart, bind_of_ok (hattr (by decide) ha.type_eq),
    bind_of_ok (hattr (by decide) ha.value_eq), bind_of_ok (hattr (by decide) hk),
    bind_of_ok (iterate_apply hnames), bind_of_ok hextra, putEntries_of_new p.nodup_keys,
    bind_of_ok (hattr (by decide) ha.nodes_eq)]
  rfl

/-- A plain child is written out by the one who asks. -/
theorem ofChild_of_plain (call : Caller σ) (fuel : Nat) {type : String} {value val : Value}
    (ha : w.heap.PlainAt a type value val nodes e) :
    ofChild call (fuel + 1) (.ref a) w =
      finish ((Making.plain type value val).page w.heap).entries nodes
        (mapAll fuel (ofChild call fuel) nodes) w := by
  have hdump : w.heap.capability (.ref a) "to_dict" = none :=
    Heap.capability_of_plain ha.found ha.genuine ha.kind (by decide)
  have hentries : ((Making.plain type value val).page w.heap).entries =
      (.str "type", .str type) ::
        if (if w.heap.truthy value then value else val) = .null then []
        else [(.str "value", if w.heap.truthy value then value else val)] :=
    congrArg _ (List.append_nil _)
  rw [ofChild, bind_of_ok (capability_apply _ _ w), hdump]
  dsimp only
  rw [bind_of_ok (Heap.getAttr_of_genuine ha.found ha.genuine (by decide) ha.type_eq),
    bind_of_ok (heap_apply w), ha.attrOrNull (by decide) ha.value_eq,
    ha.attrOrNull (by decide) ha.val_eq, ha.attrOrNull (by decide) ha.nodes_eq]
  rw [hentries]
  rfl

/-- A smart child writes itself. -/
theorem ofChild_of_smart (foreign : Caller σ) (m n : Nat) (ha : w.heap.SmartAt a p nodes e) :
    ofChild (invoke foreign (m + 1)) (n + 1) (.ref a) w =
      finish p.entries nodes (mapAll m (ofChild (invoke foreign m) m) nodes) w := by
  have hdump : w.heap.capability (.ref a) "to_dict" = some (.method a .toDict) :=
    Heap.capability_of_smart ha.found ha.genuine ha.kind rfl
  rw [ofChild, bind_of_ok (capability_apply _ _ w), hdump]
  dsimp only
  rw [invoke_method foreign m a rfl, Method.run, ofSmart_apply _ _ ha]

/-- The document of a child is that of its page, whatever its kind. -/
theorem ofChild_apply (foreign : Caller σ) {m n k : Nat} (hm : k < m) (hn : k < n) {x : Site}
    (hx : w.heap.MadeAt x nodes) :
    ∃ m' n', k ≤ m' ∧ k ≤ n' ∧ ofChild (invoke foreign m) n x.ref w =
      finish (x.page w.heap).entries nodes
        (mapAll n' (ofChild (invoke foreign m') n') nodes) w := by
  obtain ⟨m, rfl⟩ : ∃ i, m = i + 1 := ⟨m - 1, by omega⟩
  obtain ⟨n, rfl⟩ : ∃ i, n = i + 1 := ⟨n - 1, by omega⟩
  unfold Heap.MadeAt at hx
  unfold Site.ref Site.page
  split at hx
  · next p hp =>
    obtain ⟨e, he⟩ := hx
    refine ⟨m, m, by omega, by omega, ?_⟩
    rw [hp]
    exact ofChild_of_smart foreign m n he
  · next type value val hp =>
    obtain ⟨e, he⟩ := hx
    refine ⟨m + 1, n, by omega, by omega, ?_⟩
    rw [hp]
    exact ofChild_of_plain _ n he

/-! ## Dumping trees -/

/-- A leaf becomes a mapping. -/
theorem finish_of_leaf (entries : List (Value × Value)) (dumpAll : Op σ (List Value)) :
    finish entries .null dumpAll w =
      .ok (.ref w.heap.fresh) { w with heap := w.heap.add (.dict entries) } :=
  rfl

/-- The heap after a mapping was made with a list of documents as its last entry. -/
def addDocument (h : Heap) (entries : List (Value × Value)) (docs : List Value) : Heap :=
  (h.add (.list docs)).add (.dict (entries ++ [(.str "nodes", .ref h.fresh)]))

/-- Any other node becomes a mapping with a list. -/
theorem finish_of_list {entries : List (Value × Value)} {dumpAll : Op σ (List Value)}
    {docs : List Value} {h : Heap} (hnodes : nodes ≠ .null)
    (hkeys : .str "nodes" ∉ entries.map Prod.fst)
    (hdump : dumpAll w = .ok docs { w with heap := h }) :
    finish entries nodes dumpAll w =
      .ok (.ref (h.fresh + 1)) { w with heap := addDocument h entries docs } := by
  rw [finish, if_neg hnodes, bind_of_ok hdump, withNodes, bind_of_ok (new_apply _ _), new_apply,
    putEntry_of_new hkeys, Heap.fresh_add]
  rfl

theorem extends_addDocument (h : Heap) (entries : List (Value × Value)) (docs : List Value) :
    h.Extends (addDocument h entries docs) :=
  (Heap.extends_add _ _).trans (Heap.extends_add _ _)

/-- The new mapping and its list are where they should be. -/
theorem get?_addDocument (h : Heap) (entries : List (Value × Value)) (docs : List Value) :
    (addDocument h entries docs).get? (h.fresh + 1) =
        some (.dict (entries ++ [(.str "nodes", .ref h.fresh)])) ∧
      (addDocument h entries docs).get? h.fresh = some (.list docs) := by
  constructor
  · rw [addDocument, ← Heap.fresh_add h (.list docs), Heap.get?_add_fresh]
  · exact (Heap.extends_add _ _).found (Heap.get?_add_fresh h _)

theorem mapAll_of_sequence {f : Value → Op σ Value} {items : List Value}
    (hnodes : w.heap.sequence? nodes = some items) (fuel : Nat) :
    mapAll fuel f nodes w = mapItems f nodes fuel 0 w := by
  rw [mapAll, bind_of_ok (heap_apply w), hnodes]

theorem itemAt?_of_sequence {items : List Value}
    (hnodes : w.heap.sequence? nodes = some items) (index : Nat) :
    (itemAt? nodes index : Op σ (Option Value)) w = .ok items[index]? w := by
  rw [itemAt?, bind_of_ok (heap_apply w), hnodes]
  rfl

theorem drop_eq_cons {items rest : List Value} {index : Nat} {v : Value}
    (h : items.drop index = v :: rest) :
    items[index]? = some v ∧ items.drop (index + 1) = rest := by
  constructor
  · rw [← Nat.add_zero index, ← List.getElem?_drop, h]
    rfl
  · rw [← List.tail_drop, h]
    rfl

/-- One item is dumped, and then the rest. -/
theorem mapItems_step {f : Value → Op σ Value} {items rest docs : List Value} {index fuel : Nat}
    {v doc : Value} {w' w'' : World σ} (hnodes : w.heap.sequence? nodes = some items)
    (hitems : items.drop index = v :: rest) (hfirst : f v w = .ok doc w')
    (hrest : mapItems f nodes fuel (index + 1) w' = .ok docs w'') :
    mapItems f nodes (fuel + 1) index w = .ok (doc :: docs) w'' := by
  rw [mapItems, bind_of_ok (itemAt?_of_sequence hnodes index), (drop_eq_cons hitems).1]
  dsimp only
  rw [bind_of_ok hfirst, bind_of_ok hrest]
  rfl

/-- A child that is a leaf is dumped. -/
theorem ofChild_leaf (foreign : Caller σ) {m n k : Nat} {x : Site} (hm : k < m) (hn : k < n)
    (hx : w.heap.MadeAt x .null) :
    ∃ doc h, ofChild (invoke foreign m) n x.ref w = .ok doc { w with heap := h } ∧
      w.heap.Extends h ∧ h.Shows (.leaf (x.page w.heap) .nil) [doc] := by
  obtain ⟨_, _, -, -, hchild⟩ := ofChild_apply foreign hm hn hx
  rw [finish_of_leaf] at hchild
  exact ⟨_, _, hchild, Heap.extends_add _ _, _, [], rfl, Heap.get?_add_fresh _ _, rfl⟩

/-- A child with children is dumped, provided that these are. -/
theorem ofChild_tree (foreign : Caller σ) {m n k : Nat} {x : Site} {items : List Value}
    {below : Orchard Page} (hm : k < m) (hn : k < n) (hx : w.heap.MadeAt x nodes)
    (hnodes : w.heap.sequence? nodes = some items)
    (hbelow : ∀ i j, k ≤ i → k ≤ j →
      ∃ docs h, mapItems (ofChild (invoke foreign i) j) nodes j 0 w =
          .ok docs { w with heap := h } ∧ w.heap.Extends h ∧ h.Shows below docs) :
    ∃ doc h, ofChild (invoke foreign m) n x.ref w = .ok doc { w with heap := h } ∧
      w.heap.Extends h ∧ h.Shows (.tree (x.page w.heap) below .nil) [doc] := by
  obtain ⟨i, j, hi, hj, hchild⟩ := ofChild_apply foreign hm hn hx
  obtain ⟨docs, h, hrun, hext, hshows⟩ := hbelow i j hi hj
  rw [← mapAll_of_sequence hnodes] at hrun
  have hnull : nodes ≠ .null := by rintro rfl; cases hnodes
  rw [finish_of_list hnull (Page.nodes_notMem_keys _) hrun] at hchild
  have hext' := extends_addDocument h (x.page w.heap).entries docs
  obtain ⟨hdict, hlist⟩ := get?_addDocument h (x.page w.heap).entries docs
  exact ⟨_, _, hchild, hext.trans hext', _, _, docs, [], rfl, hdict, hlist, hshows.extend hext',
    rfl⟩

/-- Trees side by side are dumped one after the other, from any index in a list or tuple on. The
induction is on the trees; what was dumped before only adds to the heap. -/
theorem mapItems_apply (foreign : Caller σ) (t : Orchard Site) {m n fuel index : Nat}
    {nodes : Value} {items : List Value} (ht : w.heap.Stands t) (hm : t.weight ≤ m)
    (hn : t.weight ≤ n) (hfuel : t.weight ≤ fuel) (hnodes : w.heap.sequence? nodes = some items)
    (hitems : items.drop index = t.roots.map Site.ref) :
    ∃ docs h, mapItems (ofChild (invoke foreign m) n) nodes fuel index w =
        .ok docs { w with heap := h } ∧
      w.heap.Extends h ∧ h.Shows (t.map (Site.page w.heap)) docs := by
  induction t generalizing w m n fuel index nodes items with
  | nil =>
    simp only [Orchard.weight] at hfuel
    obtain ⟨fuel, rfl⟩ : ∃ i, fuel = i + 1 := ⟨fuel - 1, by omega⟩
    have hnone : items[index]? = none := List.getElem?_eq_none (List.drop_eq_nil_iff.mp hitems)
    refine ⟨[], w.heap, ?_, .refl _, rfl⟩
    rw [mapItems, bind_of_ok (itemAt?_of_sequence hnodes index), hnone]
    rfl
  | leaf x rest ih =>
    simp only [Orchard.weight] at hm hn hfuel
    obtain ⟨fuel, rfl⟩ : ∃ i, fuel = i + 1 := ⟨fuel - 1, by omega⟩
    obtain ⟨hmade, hrest⟩ := ht
    obtain ⟨doc, h₁, hchild, hext₁, hshows₁⟩ := ofChild_leaf foreign hm hn hmade
    obtain ⟨docs, h₂, hrun, hext₂, hshows₂⟩ := ih (w := { w with heap := h₁ })
      (hrest.relinked hext₁.relinked) (Nat.le_of_lt hm) (Nat.le_of_lt hn)
      (Nat.le_of_succ_le_succ hfuel) (hext₁.relinked.sequence? hnodes) (drop_eq_cons hitems).2
    rw [hrest.pages_eq hext₁] at hshows₂
    exact ⟨_, h₂, mapItems_step hnodes hitems hchild hrun, hext₁.trans hext₂,
      (hshows₁.extend hext₂).append hshows₂⟩
  | tree x below rest ihbelow ihrest =>
    simp only [Orchard.weight] at hm hn hfuel
    obtain ⟨fuel, rfl⟩ : ∃ i, fuel = i + 1 := ⟨fuel - 1, by omega⟩
    have hm' : below.weight < m ∧ rest.weight ≤ m := by omega
    have hn' : below.weight < n ∧ rest.weight ≤ n := by omega
    have hfuel' : rest.weight ≤ fuel := by omega
    obtain ⟨⟨children, hmade, hchildren⟩, hbelow, hrest⟩ := ht
    obtain ⟨doc, h₁, hchild, hext₁, hshows₁⟩ :=
      ofChild_tree foreign hm'.1 hn'.1 hmade hchildren fun i j hi hj ↦
        ihbelow hbelow hi hj hj hchildren List.drop_zero
    obtain ⟨docs, h₂, hrun, hext₂, hshows₂⟩ := ihrest (w := { w with heap := h₁ })
      (hrest.relinked hext₁.relinked) hm'.2 hn'.2 hfuel' (hext₁.relinked.sequence? hnodes)
      (drop_eq_cons hitems).2
    rw [hrest.pages_eq hext₁] at hshows₂
    exact ⟨_, h₂, mapItems_step hnodes hitems hchild hrun, hext₁.trans hext₂,
      (hshows₁.extend hext₂).append hshows₂⟩

/-- A tree with a smart root can be turned into a document, which then is the document of the
tree. -/
theorem toDict_apply (foreign : Caller σ) {t : Orchard Site} {x : Site} {n : Nat}
    (ht : w.heap.Stands t) (hroots : t.roots = [x]) (hx : x.making = .smart p)
    (hn : t.weight < n) :
    ∃ doc h, invoke foreign n (.method x.addr .toDict) [] [] w = .ok doc { w with heap := h } ∧
      w.heap.Extends h ∧ h.Shows (t.map (Site.page w.heap)) [doc] := by
  -- The root is asked in the same way as a child would be.
  have hask : ∀ nodes, w.heap.MadeAt x nodes → ofChild (invoke foreign n) n x.ref w =
      invoke foreign n (.method x.addr .toDict) [] [] w := by
    intro nodes hmade
    unfold Heap.MadeAt at hmade
    rw [hx] at hmade
    obtain ⟨e, ha⟩ := hmade
    obtain ⟨n, rfl⟩ : ∃ i, n = i + 1 := ⟨n - 1, by omega⟩
    have hdump : w.heap.capability x.ref "to_dict" = some (.method x.addr .toDict) :=
      Heap.capability_of_smart ha.found ha.genuine ha.kind rfl
    rw [ofChild, bind_of_ok (capability_apply _ _ w), hdump]
  cases t with
  | nil => cases hroots
  | leaf y rest =>
    obtain ⟨rfl, hrest⟩ := List.cons.inj hroots
    cases Orchard.eq_nil_of_roots hrest
    rw [← hask _ ht.1]
    exact ofChild_leaf foreign hn hn ht.1
  | tree y below rest =>
    obtain ⟨rfl, hrest⟩ := List.cons.inj hroots
    cases Orchard.eq_nil_of_roots hrest
    simp only [Orchard.weight] at hn
    have hn' : below.weight < n := by omega
    obtain ⟨⟨children, hmade, hchildren⟩, hbelow, -⟩ := ht
    rw [← hask _ hmade]
    exact ofChild_tree foreign hn' hn' hmade hchildren fun i j hi hj ↦
      mapItems_apply foreign below hbelow hi hj hj hchildren List.drop_zero

end Document

end TagTree
