import TagTree.Sentinel
import TagTree.Proofs.Editing

/-!
# Adding sentinels

A sentinel is a new node, made by one of the two makers, that becomes the first or the last child of
the node it is made for. This module says what the heap looks like after a node was made, and what
adding sentinels without a filter answers and leaves: always the new node and its parent's longer
list of children, provided that the type of the parent is a text; nothing at all otherwise.
-/

namespace TagTree

open Op

/-! ## Making nodes -/

/-- The makers of nodes. -/
inductive NodeMaker
  | smart
  | plain
  deriving DecidableEq

namespace NodeMaker

def value : NodeMaker → Value
  | smart => .maker .smart
  | plain => .maker .plain

def kind : NodeMaker → Kind
  | smart => .smart
  | plain => .plain

/-- Where a node will be that is made next. A smart node comes with a list of its extra names, which
is made before it. -/
def address (m : NodeMaker) (h : Heap) : Addr :=
  match m with
  | smart => h.fresh + 1
  | plain => h.fresh

/-- A node with a type and a value, as it is made. -/
def entity (m : NodeMaker) (h : Heap) (type : String) (x : Value) : Entity :=
  match m with
  | smart =>
    ⟨.smart, [("type", .str type), ("value", x), ("nodes", .null), ("_extra_keys", .ref h.fresh)],
      .absent⟩
  | plain =>
    ⟨.plain, [("type", .str type), ("value", x), ("val", .null), ("nodes", .null),
      ("parent", .null)], .absent⟩

/-- The heap after a node was made. -/
def made (m : NodeMaker) (h : Heap) (type : String) (x : Value) : Heap :=
  match m with
  | smart => (h.add (.list [])).add (.entity (smart.entity h type x))
  | plain => h.add (.entity (plain.entity h type x))

variable (m : NodeMaker) (h : Heap) (type : String) (x : Value)

theorem kind_entity : (m.entity h type x).kind = m.kind := by
  cases m <;> rfl

theorem genuine_entity : (m.entity h type x).Genuine := by
  -- The names of its attributes do not depend on what it is made from.
  have hapart : ∀ name ∈ (m.entity h type x).kind.ownNames,
      name ∉ Table.keys (m.entity h type x).attrs := by
    cases m with
    | smart =>
      change ∀ name ∈ Kind.smart.ownNames, name ∉ ["type", "value", "nodes", "_extra_keys"]
      decide
    | plain =>
      change ∀ name ∈ Kind.plain.ownNames, name ∉ ["type", "value", "val", "nodes", "parent"]
      decide
  refine ⟨by cases m <;> simp [entity], fun name hn ↦ ?_⟩
  rw [Table.get?, List.lookup_eq_none_iff]
  intro entry hentry
  have hkey : entry.1 ∈ Table.keys (m.entity h type x).attrs := List.mem_map_of_mem hentry
  have hne : name ≠ entry.1 := by
    rintro rfl
    exact hapart _ hn hkey
  simpa using hne

theorem fresh_le_address : h.fresh ≤ m.address h := by
  cases m with
  | smart => exact Nat.le_succ _
  | plain => exact Nat.le_refl _

theorem get?_made_address :
    (m.made h type x).get? (m.address h) = some (.entity (m.entity h type x)) := by
  cases m with
  | smart =>
    have hfresh := Heap.fresh_add h (.list [])
    simp only [made, address, ← hfresh, Heap.get?_add_fresh]
  | plain => exact Heap.get?_add_fresh _ _

/-- A new node has no children and no parent. -/
theorem nodeAt_made : (m.made h type x).NodeAt (m.address h) (m.entity h type x) where
  found := m.get?_made_address h type x
  genuine := m.genuine_entity h type x
  listed := by cases m <;> exact .inl rfl
  anchored := by cases m <;> simp [entity]

theorem attrOrNull_made_type :
    (m.made h type x).attrOrNull (.ref (m.address h)) "type" = .str type := by
  rw [Heap.attrOrNull_of_genuine (m.get?_made_address h type x) (m.genuine_entity h type x)
    (by decide)]
  cases m <;> rfl

theorem attrOrNull_made_nodes :
    (m.made h type x).attrOrNull (.ref (m.address h)) "nodes" = .null := by
  rw [(m.nodeAt_made h type x).attrOrNull_nodes]
  cases m <;> rfl

theorem attrOrNull_made_parent :
    (m.made h type x).attrOrNull (.ref (m.address h)) "parent" = .null := by
  rw [Heap.attrOrNull_parent (m.get?_made_address h type x) (m.genuine_entity h type x)]
  cases m <;> rfl

theorem extends_made : h.Extends (m.made h type x) := by
  cases m with
  | smart => exact (Heap.extends_add _ _).trans (Heap.extends_add _ _)
  | plain => exact Heap.extends_add _ _

end NodeMaker

/-- A world with three nodes that were just made: smart ones at 1 and 4, a plain one at 2. -/
def threeLeaves : World Unit where
  heap := NodeMaker.smart.made
    (NodeMaker.plain.made (NodeMaker.smart.made {} "a" .null) "b" .null) "c" .null
  client := ()

/-! ## Nodes after a child was added -/

namespace Heap

variable {h : Heap} {p c : Addr} {e f : Entity}

theorem NodeAt.insertChild {a : Addr} {g : Entity} (ha : h.NodeAt a g) (hp : h.NodeAt p e)
    (hc : h.get? c = some (.entity f)) (items : List Value) :
    ∃ g', (h.insertChild p c items).NodeAt a g' := by
  obtain ⟨g', hg'⟩ := ha.link hc (lt_fresh_of_get? hp.found)
  obtain ⟨e', he'⟩ := hp.link hc (lt_fresh_of_get? hp.found)
  exact hg'.setChildren he' items

theorem children_insertChild_self (hp : h.NodeAt p e) (hc : h.get? c = some (.entity f))
    (items : List Value) : (h.insertChild p c items).children (.ref p) = items := by
  obtain ⟨e', he'⟩ := hp.link hc (lt_fresh_of_get? hp.found)
  rw [children, Heap.insertChild, childList?_setChildren_self he']
  rfl

theorem attrOrNull_insertChild {b : Addr} {g : Entity} (hp : h.NodeAt p e)
    (hc : h.get? c = some (.entity f)) (hb : h.NodeAt b g) (items : List Value) {name : String}
    (hn : name ≠ "nodes") (hch : name ≠ "children") (hdiff : b ≠ c ∨ name ≠ "parent") :
    (h.insertChild p c items).attrOrNull (.ref b) name = h.attrOrNull (.ref b) name := by
  obtain ⟨e', he'⟩ := hp.link hc (lt_fresh_of_get? hp.found)
  obtain ⟨g', hg'⟩ := hb.link hc (lt_fresh_of_get? hp.found)
  rw [Heap.insertChild, attrOrNull_setChildren he' hg' items hn hch]
  refine attrOrNull_link hc p (hdiff.imp_left fun hne heq ↦ hne ?_)
  exact Value.ref.inj heq

theorem attrOrNull_insertChild_parent (hp : h.NodeAt p e) (hc : h.NodeAt c f)
    (items : List Value) : (h.insertChild p c items).attrOrNull (.ref c) "parent" = .ref p := by
  obtain ⟨e', he'⟩ := hp.link hc.found (lt_fresh_of_get? hp.found)
  obtain ⟨f', hf'⟩ := hc.link hc.found (lt_fresh_of_get? hp.found)
  rw [Heap.insertChild, attrOrNull_setChildren he' hf' items (by decide) (by decide),
    attrOrNull_link_parent hc.found hc.genuine hp.found]

theorem attrOrNull_nodes_insertChild_of_ne {b : Addr} {g : Entity} (hp : h.NodeAt p e)
    (hc : h.get? c = some (.entity f)) (hb : h.NodeAt b g) (hne : b ≠ p) (items : List Value) :
    (h.insertChild p c items).attrOrNull (.ref b) "nodes" = h.attrOrNull (.ref b) "nodes" := by
  obtain ⟨e', he'⟩ := hp.link hc (lt_fresh_of_get? hp.found)
  obtain ⟨g', hg'⟩ := hb.link hc (lt_fresh_of_get? hp.found)
  rw [Heap.insertChild, attrOrNull_nodes_setChildren_of_ne he' hg' hne,
    attrOrNull_link hc p (.inr (by decide))]

theorem kindAt?_insertChild (hp : h.NodeAt p e) (hc : h.get? c = some (.entity f))
    (items : List Value) (b : Addr) : (h.insertChild p c items).kindAt? b = h.kindAt? b := by
  obtain ⟨e', he'⟩ := hp.link hc (lt_fresh_of_get? hp.found)
  rw [Heap.insertChild, kindAt?_setChildren he', kindAt?_link hc]

theorem Forest.insertChild {S : Addr → Prop} (hF : h.Forest S) (hp : S p)
    (hc : h.get? c = some (.entity f)) (items : List Value) :
    (h.insertChild p c items).Forest S := by
  obtain ⟨e, he⟩ := hF.node p hp
  exact (hF.link hc (lt_fresh_of_get? he.found)).setChildren hp items

theorem Forest.children_insertChild {S : Addr → Prop} (hF : h.Forest S) (hp : S p)
    (hc : h.get? c = some (.entity f)) {b : Addr} (hb : S b) (hne : b ≠ p) (items : List Value) :
    (h.insertChild p c items).children (.ref b) = h.children (.ref b) := by
  obtain ⟨e, he⟩ := hF.node p hp
  have hlinked := hF.link hc (lt_fresh_of_get? he.found)
  rw [Heap.insertChild, hlinked.children_setChildren hp hb hne, children_link hc]

theorem keepsSettings_insertChild (hp : h.NodeAt p e) (hc : h.NodeAt c f) (items : List Value) :
    h.KeepsSettings (h.insertChild p c items) := by
  obtain ⟨e', he'⟩ := hp.link hc.found (lt_fresh_of_get? hp.found)
  have hkind : f.kind ≠ .settings := by
    rcases hc.genuine.kind with hk | hk <;> simp [hk]
  exact (keepsSettings_link hc.found hkind p).trans (keepsSettings_setChildren he' items)

end Heap

/-! ## Adding sentinels -/

/-- The value that a sentinel gets. -/
def sentinelValue (payload : Value) : Value :=
  if payload = .null then .str "" else payload

theorem sentinelValue_ne_null (payload : Value) : sentinelValue payload ≠ .null := by
  unfold sentinelValue
  split
  · exact Value.noConfusion
  · assumption

/-- The heap after a new node was made and became a child. -/
def Heap.addSentinel (h : Heap) (m : NodeMaker) (p : Addr) (type : String) (payload : Value)
    (items : List Value) : Heap :=
  (m.made h type (sentinelValue payload)).insertChild p (m.address h) items

section Making

variable {σ : Type} {w : World σ} {p : Addr} {e : Entity} {payload : Value}

theorem getAttr_type {v : Value} {t : String} (ht : w.heap.attrOrNull v "type" = .str t) :
    (getAttr v "type" : Op σ Value) w = .ok (.str t) w :=
  getAttr_of_attr? (Heap.attr?_of_attrOrNull ht) (by decide) (by decide)

theorem invoke_maker (foreign : Caller σ) (fuel : Nat) (m : NodeMaker) (type : String) {x : Value}
    (hx : x ≠ .null) (w : World σ) :
    invoke foreign (fuel + 1) m.value [] [("type", .str type), ("value", x)] w =
      .ok (.ref (m.address w.heap)) { w with heap := m.made w.heap type x } := by
  cases m with
  | smart =>
    have hparts : Node.smartParts [] [("type", .str type), ("value", x)] =
        .ok { type := .str type, value := x } := rfl
    simp only [NodeMaker.value, invoke, hparts]
    rw [bind_of_ok (fromExcept_ok_apply _ w)]
    simp [Node.smart, bind_apply, isText, hx, NodeMaker.address, NodeMaker.made, NodeMaker.entity]
  | plain => rfl

theorem callable_maker (m : NodeMaker) (h : Heap) : h.callable m.value = true := by
  cases m <;> rfl

/-- Without a filter a sentinel is made for every node whose type is a text. -/
theorem Sentinel.make_apply (foreign : Caller σ) (fuel : Nat) (m : NodeMaker)
    (hp : w.heap.NodeAt p e) {t : String} (ht : w.heap.attrOrNull (.ref p) "type" = .str t)
    (hpayload : w.heap.callable payload = false) (suffix : String) :
    Sentinel.make (invoke foreign (fuel + 1)) (.ref p) m.value (.str suffix) payload .null w =
      .ok (.ref (m.address w.heap))
        { w with heap := m.made w.heap (t ++ suffix) (sentinelValue payload) } := by
  have htype : (requireTypeName (.ref p) "node.type" : Op σ Unit) w = .ok () w :=
    require_apply_true (by rw [ht]; rfl) _ _ w
  have hsplit :
      Sentinel.payloadAndFilter w.heap payload .null = (sentinelValue payload, .null) := by
    simp [Sentinel.payloadAndFilter, hpayload, sentinelValue]
  rw [Sentinel.make, bind_of_ok (requireNode_apply (Heap.isNode_of_genuine hp.found hp.genuine) _),
    bind_of_ok (requireFunction_apply (callable_maker m _) _), bind_of_ok htype,
    bind_of_ok (heap_apply w), hsplit]
  simp only [if_true]
  rw [bind_of_ok (pure_apply true w)]
  simp only [if_true]
  rw [bind_of_ok (getAttr_type ht)]
  exact invoke_maker foreign fuel m (t ++ suffix) (sentinelValue_ne_null payload) w

/-- For any other node none is made, and nothing happens. -/
theorem Sentinel.make_of_no_text (call : Caller σ) (m : NodeMaker) (hp : w.heap.NodeAt p e)
    (ht : ∀ t, w.heap.attrOrNull (.ref p) "type" ≠ .str t) (suffix payload filter : Value) :
    ∃ fault, Sentinel.make call (.ref p) m.value suffix payload filter w = .error fault w := by
  have hno : isText (w.heap.attrOrNull (.ref p) "type") = false := by
    cases htype : w.heap.attrOrNull (.ref p) "type" with
    | str t => exact absurd htype (ht t)
    | _ => rfl
  have htype : (requireTypeName (.ref p) "node.type" : Op σ Unit) w =
      .error (.argument (.expected "node.type" .string) (.str "node.type")) w :=
    require_apply_false hno _ _ w
  rw [Sentinel.make, bind_of_ok (requireNode_apply (Heap.isNode_of_genuine hp.found hp.genuine) _),
    bind_of_ok (requireFunction_apply (callable_maker m _) _), bind_of_error htype]
  exact ⟨_, rfl⟩

end Making

/-! ## Nodes after a sentinel was added -/

namespace Heap

/-- The heap after an open sentinel was added. -/
def opened (h : Heap) (m : NodeMaker) (p : Addr) (type : String) (payload : Value) : Heap :=
  h.addSentinel m p type payload (.ref (m.address h) :: h.children (.ref p))

/-- The heap after a close sentinel was added. -/
def closed (h : Heap) (m : NodeMaker) (p : Addr) (type : String) (payload : Value) : Heap :=
  h.addSentinel m p type payload (h.children (.ref p) ++ [.ref (m.address h)])

/-- The heap after the children of a node of the given type were enclosed by sentinels. -/
def wrapped (h : Heap) (m : NodeMaker) (p : Addr) (type : String) (s : Settings) : Heap :=
  (h.opened m p (type ++ s.openSuffix) .null).closed m p (type ++ s.closeSuffix) .null

variable {h : Heap} {m : NodeMaker} {p : Addr} {e : Entity} {type : String} {payload : Value}
  {items : List Value}

theorem nodeAt_addSentinel {a : Addr} {g : Entity} (ha : h.NodeAt a g) (hp : h.NodeAt p e) :
    ∃ g', (h.addSentinel m p type payload items).NodeAt a g' :=
  (ha.extend (m.extends_made _ _ _)).insertChild (hp.extend (m.extends_made _ _ _))
    (m.get?_made_address h _ _) items

theorem fresh_le_addSentinel (h : Heap) (m : NodeMaker) (p : Addr) (type : String)
    (payload : Value) (items : List Value) :
    h.fresh ≤ (h.addSentinel m p type payload items).fresh := by
  have hmade : h.fresh ≤ (m.made h type (sentinelValue payload)).fresh :=
    Nat.le_trans (m.fresh_le_address h)
      (Nat.le_of_lt (lt_fresh_of_get? (m.get?_made_address h _ _)))
  refine Nat.le_trans hmade ?_
  rw [addSentinel, Heap.insertChild, ← fresh_link _ (m.address h) p]
  exact fresh_le_setChildren _ p items

theorem children_addSentinel (hp : h.NodeAt p e) :
    (h.addSentinel m p type payload items).children (.ref p) = items :=
  children_insertChild_self (hp.extend (m.extends_made _ _ _)) (m.get?_made_address h _ _) items

/-- Nothing is read off the other nodes differently, except for their children. -/
theorem attrOrNull_addSentinel {a : Addr} {g : Entity} (ha : h.NodeAt a g) (hp : h.NodeAt p e)
    {name : String} (hn : name ≠ "nodes") (hch : name ≠ "children") :
    (h.addSentinel m p type payload items).attrOrNull (.ref a) name =
      h.attrOrNull (.ref a) name := by
  have hne : a ≠ m.address h :=
    Nat.ne_of_lt (Nat.lt_of_lt_of_le (lt_fresh_of_get? ha.found) (m.fresh_le_address h))
  rw [addSentinel, attrOrNull_insertChild (hp.extend (m.extends_made _ _ _))
    (m.get?_made_address h _ _) (ha.extend (m.extends_made _ _ _)) items hn hch (.inl hne),
    (m.extends_made _ _ _).attrOrNull ha]

theorem kindAt?_addSentinel {a : Addr} (ha : a < h.fresh) (hp : h.NodeAt p e) :
    (h.addSentinel m p type payload items).kindAt? a = h.kindAt? a := by
  rw [addSentinel, kindAt?_insertChild (hp.extend (m.extends_made _ _ _))
    (m.get?_made_address h _ _), kindAt?_congr ((m.extends_made h _ _).same _ ha)]

theorem Forest.addSentinel {S : Addr → Prop} (hF : h.Forest S) (hp : S p) :
    (h.addSentinel m p type payload items).Forest fun b ↦ S b ∨ b = m.address h := by
  have hjoined := (hF.extend (m.extends_made _ type (sentinelValue payload))).join
    (m.nodeAt_made h _ _) (m.attrOrNull_made_nodes h _ _)
  exact hjoined.insertChild (.inl hp) (m.get?_made_address h _ _) items

theorem Forest.children_addSentinel_of_ne {S : Addr → Prop} (hF : h.Forest S) (hp : S p) {a : Addr}
    (ha : S a) (hne : a ≠ p) :
    (h.addSentinel m p type payload items).children (.ref a) = h.children (.ref a) := by
  obtain ⟨g, hg⟩ := hF.node a ha
  have hmade := hF.extend (m.extends_made h type (sentinelValue payload))
  rw [Heap.addSentinel, hmade.children_insertChild hp (m.get?_made_address h _ _) ha hne,
    (m.extends_made _ _ _).children hg]

/-- A sentinel in its place: without children, under the node that it was made for. -/
structure SentinelAt (h : Heap) (a p : Addr) (k : Kind) (type : String) : Prop where
  node : ∃ e, h.NodeAt a e
  kind : h.kindAt? a = some k
  nodes : h.attrOrNull (.ref a) "nodes" = .null
  parent : h.attrOrNull (.ref a) "parent" = .ref p
  type : h.attrOrNull (.ref a) "type" = .str type

theorem SentinelAt.extend {h h' : Heap} {a p : Addr} {k : Kind} {type : String}
    (ha : h.SentinelAt a p k type) (hx : h.Extends h') : h'.SentinelAt a p k type := by
  obtain ⟨e, hat⟩ := ha.node
  exact ⟨⟨e, hat.extend hx⟩,
    (kindAt?_congr (hx.same a (lt_fresh_of_get? hat.found))).trans ha.kind,
    (hx.attrOrNull hat _).trans ha.nodes, (hx.attrOrNull hat _).trans ha.parent,
    (hx.attrOrNull hat _).trans ha.type⟩

theorem sentinelAt_addSentinel (hp : h.NodeAt p e) :
    (h.addSentinel m p type payload items).SentinelAt (m.address h) p m.kind type := by
  have hp' := hp.extend (m.extends_made _ type (sentinelValue payload))
  have hnew := m.nodeAt_made h type (sentinelValue payload)
  have hne : m.address h ≠ p :=
    Nat.ne_of_gt (Nat.lt_of_lt_of_le (lt_fresh_of_get? hp.found) (m.fresh_le_address h))
  refine ⟨hnew.insertChild hp' hnew.found items, ?_, ?_, ?_, ?_⟩
  · rw [addSentinel, kindAt?_insertChild hp' hnew.found, kindAt?_of_get? hnew.found,
      m.kind_entity]
  · rw [addSentinel, attrOrNull_nodes_insertChild_of_ne hp' hnew.found hnew hne,
      m.attrOrNull_made_nodes]
  · exact attrOrNull_insertChild_parent hp' hnew items
  · rw [addSentinel, attrOrNull_insertChild hp' hnew.found hnew items (by decide) (by decide)
      (.inr (by decide)), m.attrOrNull_made_type]

/-- A sentinel stays in its place when another one is added elsewhere. -/
theorem SentinelAt.addSentinel {a q : Addr} {k : Kind} {t : String}
    (ha : h.SentinelAt a q k t) (hp : h.NodeAt p e) (hne : a ≠ p) :
    (h.addSentinel m p type payload items).SentinelAt a q k t := by
  obtain ⟨g, hg⟩ := ha.node
  refine ⟨nodeAt_addSentinel hg hp, ?_, ?_, ?_, ?_⟩
  · rw [kindAt?_addSentinel (lt_fresh_of_get? hg.found) hp, ha.kind]
  · have hp' := hp.extend (m.extends_made _ type (sentinelValue payload))
    have hg' := hg.extend (m.extends_made _ type (sentinelValue payload))
    rw [Heap.addSentinel,
      attrOrNull_nodes_insertChild_of_ne hp' (m.get?_made_address h _ _) hg' hne,
      (m.extends_made _ _ _).attrOrNull hg, ha.nodes]
  · rw [attrOrNull_addSentinel hg hp (by decide) (by decide), ha.parent]
  · rw [attrOrNull_addSentinel hg hp (by decide) (by decide), ha.type]

/-- A sentinel in its place that has no payload. -/
structure FenceAt (h : Heap) (a p : Addr) (k : Kind) (type : String) : Prop extends
    SentinelAt h a p k type where
  value : h.attrOrNull (.ref a) "value" = .str ""
  val : h.attrOrNull (.ref a) "val" = .null

theorem fenceAt_addSentinel (hp : h.NodeAt p e) :
    (h.addSentinel m p type .null items).FenceAt (m.address h) p m.kind type := by
  have hp' := hp.extend (m.extends_made _ type (sentinelValue .null))
  have hnew := m.nodeAt_made h type (sentinelValue .null)
  refine ⟨sentinelAt_addSentinel hp, ?_, ?_⟩
  · rw [addSentinel, attrOrNull_insertChild hp' hnew.found hnew items (by decide) (by decide)
      (.inr (by decide)), attrOrNull_of_genuine hnew.found hnew.genuine (by decide)]
    cases m <;> rfl
  · rw [addSentinel, attrOrNull_insertChild hp' hnew.found hnew items (by decide) (by decide)
      (.inr (by decide)), attrOrNull_of_genuine hnew.found hnew.genuine (by decide)]
    cases m <;> rfl

theorem FenceAt.addSentinel {a q : Addr} {k : Kind} {t : String} (ha : h.FenceAt a q k t)
    (hp : h.NodeAt p e) (hne : a ≠ p) :
    (h.addSentinel m p type payload items).FenceAt a q k t := by
  obtain ⟨f, hf⟩ := ha.node
  refine ⟨ha.toSentinelAt.addSentinel hp hne, ?_, ?_⟩
  · rw [attrOrNull_addSentinel hf hp (by decide) (by decide), ha.value]
  · rw [attrOrNull_addSentinel hf hp (by decide) (by decide), ha.val]

theorem keepsSettings_addSentinel (hp : h.NodeAt p e) :
    h.KeepsSettings (h.addSentinel m p type payload items) :=
  ((m.extends_made h _ _).keepsSettings).trans
    (keepsSettings_insertChild (hp.extend (m.extends_made _ _ _)) (m.nodeAt_made h _ _) items)

/-! Wrapping is opening and closing, one after the other. -/

section Wrapped

variable {S : Addr → Prop} {t : String} {s : Settings} {a : Addr} {g : Entity}

theorem nodeAt_opened (ha : h.NodeAt a g) (hp : h.NodeAt p e) (m : NodeMaker) (type : String) :
    ∃ g', (h.opened m p type .null).NodeAt a g' :=
  nodeAt_addSentinel ha hp

theorem attrOrNull_wrapped (ha : h.NodeAt a g) (hp : h.NodeAt p e) {name : String}
    (hn : name ≠ "nodes") (hch : name ≠ "children") :
    (h.wrapped m p t s).attrOrNull (.ref a) name = h.attrOrNull (.ref a) name := by
  obtain ⟨g₁, hg₁⟩ := nodeAt_opened ha hp m (t ++ s.openSuffix)
  obtain ⟨e₁, he₁⟩ := nodeAt_opened hp hp m (t ++ s.openSuffix)
  rw [wrapped, closed, attrOrNull_addSentinel hg₁ he₁ hn hch, opened,
    attrOrNull_addSentinel ha hp hn hch]

theorem kindAt?_wrapped (ha : h.NodeAt a g) (hp : h.NodeAt p e) :
    (h.wrapped m p t s).kindAt? a = h.kindAt? a := by
  obtain ⟨g₁, hg₁⟩ := nodeAt_opened ha hp m (t ++ s.openSuffix)
  obtain ⟨e₁, he₁⟩ := nodeAt_opened hp hp m (t ++ s.openSuffix)
  rw [wrapped, closed, kindAt?_addSentinel (lt_fresh_of_get? hg₁.found) he₁, opened,
    kindAt?_addSentinel (lt_fresh_of_get? ha.found) hp]

theorem Forest.wrapped (hF : h.Forest S) (hp : S p) :
    (h.wrapped m p t s).Forest fun b ↦
      (S b ∨ b = m.address h) ∨ b = m.address (h.opened m p (t ++ s.openSuffix) .null) := by
  have hF₁ : (h.opened m p (t ++ s.openSuffix) .null).Forest fun b ↦ S b ∨ b = m.address h :=
    hF.addSentinel hp
  rw [Heap.wrapped, closed]
  exact hF₁.addSentinel (.inl hp)

theorem Forest.children_wrapped_of_ne (hF : h.Forest S) (hp : S p) (ha : S a) (hne : a ≠ p) :
    (h.wrapped m p t s).children (.ref a) = h.children (.ref a) := by
  have hF₁ : (h.opened m p (t ++ s.openSuffix) .null).Forest fun b ↦ S b ∨ b = m.address h :=
    hF.addSentinel hp
  rw [Heap.wrapped, closed, hF₁.children_addSentinel_of_ne (.inl hp) (.inl ha) hne, opened,
    hF.children_addSentinel_of_ne hp ha hne]

theorem children_wrapped (hp : h.NodeAt p e) :
    (h.wrapped m p t s).children (.ref p) =
      .ref (m.address h) :: (h.children (.ref p) ++
        [.ref (m.address (h.opened m p (t ++ s.openSuffix) .null))]) := by
  obtain ⟨e₁, he₁⟩ := nodeAt_opened hp hp m (t ++ s.openSuffix)
  rw [wrapped, closed, children_addSentinel he₁, opened, children_addSentinel hp]
  rfl

theorem keepsSettings_wrapped (hp : h.NodeAt p e) : h.KeepsSettings (h.wrapped m p t s) := by
  obtain ⟨e₁, he₁⟩ := nodeAt_opened hp hp m (t ++ s.openSuffix)
  have hopened : h.KeepsSettings (h.opened m p (t ++ s.openSuffix) .null) :=
    keepsSettings_addSentinel hp
  rw [wrapped, closed]
  exact hopened.trans (keepsSettings_addSentinel he₁)

theorem SentinelAt.wrapped {b q : Addr} {k : Kind} {type : String} (hb : h.SentinelAt b q k type)
    (hp : h.NodeAt p e) (hne : b ≠ p) : (h.wrapped m p t s).SentinelAt b q k type := by
  have hb₁ : (h.opened m p (t ++ s.openSuffix) .null).SentinelAt b q k type :=
    hb.addSentinel hp hne
  obtain ⟨e₁, he₁⟩ := nodeAt_opened hp hp m (t ++ s.openSuffix)
  rw [Heap.wrapped, closed]
  exact hb₁.addSentinel he₁ hne

theorem FenceAt.wrapped {b q : Addr} {k : Kind} {type : String} (hb : h.FenceAt b q k type)
    (hp : h.NodeAt p e) (hne : b ≠ p) : (h.wrapped m p t s).FenceAt b q k type := by
  obtain ⟨f, hf⟩ := hb.node
  refine ⟨hb.toSentinelAt.wrapped hp hne, ?_, ?_⟩
  · rw [attrOrNull_wrapped hf hp (by decide) (by decide), hb.value]
  · rw [attrOrNull_wrapped hf hp (by decide) (by decide), hb.val]

/-- Both sentinels are in their places. -/
theorem fenceAt_wrapped (hp : h.NodeAt p e) (m : NodeMaker) (t : String) (s : Settings) :
    (h.wrapped m p t s).FenceAt (m.address h) p m.kind (t ++ s.openSuffix) ∧
      (h.wrapped m p t s).FenceAt (m.address (h.opened m p (t ++ s.openSuffix) .null)) p m.kind
        (t ++ s.closeSuffix) := by
  obtain ⟨e₁, he₁⟩ := nodeAt_opened hp hp m (t ++ s.openSuffix)
  have hne : m.address h ≠ p :=
    Nat.ne_of_gt (Nat.lt_of_lt_of_le (lt_fresh_of_get? hp.found) (m.fresh_le_address h))
  have hopen : (h.opened m p (t ++ s.openSuffix) .null).FenceAt (m.address h) p m.kind
      (t ++ s.openSuffix) := fenceAt_addSentinel hp
  rw [wrapped, closed]
  exact ⟨hopen.addSentinel he₁ hne, fenceAt_addSentinel he₁⟩

end Wrapped

end Heap

theorem World.Uses.of_keepsSettings {σ : Type} {w : World σ} {s : Settings} {h : Heap}
    (hs : w.Uses s) (hkeep : w.heap.KeepsSettings h) (log : Log) :
    ({ w with heap := h, log := log } : World σ).Uses s := by
  unfold World.Uses at hs ⊢
  cases hactive : w.active with
  | none => simpa only [hactive] using hs
  | some a =>
    simp only [hactive] at hs ⊢
    exact hkeep a _ hs rfl

/-- The types of a new sentinel and of the node that it is for are texts, so that there is no
trouble to report its addition. -/
theorem NodeMaker.reportFault?_made (m : NodeMaker) {h : Heap} {p : Addr} {e : Entity} {t : String}
    (hp : h.NodeAt p e) (ht : h.attrOrNull (.ref p) "type" = .str t) (type : String) (x : Value)
    (items : List Value) :
    ((m.made h type x).insertChild p (m.address h) items).reportFault? (.ref (m.address h))
      (.ref p) = none := by
  have hextends := m.extends_made h type x
  apply Heap.reportFault?_insertChild (hp.extend hextends) (m.get?_made_address h type x)
  · rw [m.attrOrNull_made_type]
    trivial
  · rw [hextends.attrOrNull hp, ht]
    trivial

section Sentinels

variable {σ : Type} {w : World σ} {s : Settings} {p : Addr} {e : Entity} {payload : Value}
  {t : String}

section Text

variable (foreign : Caller σ) (fuel : Nat) (m : NodeMaker) (hs : w.Uses s)
  (hp : w.heap.NodeAt p e) (ht : w.heap.attrOrNull (.ref p) "type" = .str t)
include hs hp ht

theorem Sentinel.addOpen_gives (hpayload : w.heap.callable payload = false) :
    (Sentinel.addOpen (invoke foreign (fuel + 2)) (.ref p) m.value payload .null).Gives w
      (.ref (m.address w.heap)) (w.heap.opened m p (t ++ s.openSuffix) payload) := by
  let h := m.made w.heap (t ++ s.openSuffix) (sentinelValue payload)
  have hp' : h.NodeAt p e := hp.extend (m.extends_made _ _ _)
  have hmake := Sentinel.make_apply foreign (fuel + 1) m hp ht hpayload s.openSuffix
  obtain ⟨log, hunshift⟩ := (Tree.unshift_inserts (w := { w with heap := h }) foreign fuel hp'
    (m.get?_made_address w.heap _ _) (.genuine (m.genuine_entity w.heap _ _))).gives
    (m.reportFault?_made hp ht _ _ _)
  refine ⟨log, ?_⟩
  rw [Sentinel.addOpen, bind_of_ok hs.openSuffix_apply, bind_of_ok hmake]
  simp only [ne_eq, reduceCtorEq, not_false_eq_true, if_true]
  rw [bind_of_ok hunshift, (m.extends_made _ _ _).children hp]
  rfl

theorem Sentinel.addClose_gives (hpayload : w.heap.callable payload = false) :
    (Sentinel.addClose (invoke foreign (fuel + 2)) (.ref p) m.value payload .null).Gives w
      (.ref (m.address w.heap)) (w.heap.closed m p (t ++ s.closeSuffix) payload) := by
  let h := m.made w.heap (t ++ s.closeSuffix) (sentinelValue payload)
  have hp' : h.NodeAt p e := hp.extend (m.extends_made _ _ _)
  have hmake := Sentinel.make_apply foreign (fuel + 1) m hp ht hpayload s.closeSuffix
  obtain ⟨log, hpush⟩ := (Tree.push_inserts (w := { w with heap := h }) foreign fuel hp'
    (m.get?_made_address w.heap _ _) (.genuine (m.genuine_entity w.heap _ _))).gives
    (m.reportFault?_made hp ht _ _ _)
  refine ⟨log, ?_⟩
  rw [Sentinel.addClose, bind_of_ok hs.closeSuffix_apply, bind_of_ok hmake]
  simp only [ne_eq, reduceCtorEq, not_false_eq_true, if_true]
  rw [bind_of_ok hpush, (m.extends_made _ _ _).children hp]
  rfl

/-- A node is wrapped by adding both sentinels, one after the other. -/
theorem Sentinel.wrap_gives :
    (Sentinel.wrap (invoke foreign (fuel + 2)) (.ref p) m.value .null).Gives w (.ref p)
      (w.heap.wrapped m p t s) := by
  let h := w.heap.opened m p (t ++ s.openSuffix) .null
  obtain ⟨log, hopen⟩ := Sentinel.addOpen_gives foreign fuel m hs hp ht
    (show w.heap.callable .null = false from rfl)
  have hp' : ∃ e', h.NodeAt p e' := Heap.nodeAt_addSentinel hp hp
  obtain ⟨e', hp'⟩ := hp'
  have hs' : ({ w with heap := h, log := log } : World σ).Uses s :=
    hs.of_keepsSettings (Heap.keepsSettings_addSentinel hp) log
  have ht' : h.attrOrNull (.ref p) "type" = .str t :=
    (Heap.attrOrNull_addSentinel hp hp (by decide) (by decide)).trans ht
  obtain ⟨log', hclose⟩ := Sentinel.addClose_gives foreign fuel m hs' hp' ht'
    (show h.callable .null = false from rfl)
  refine ⟨log', ?_⟩
  rw [Sentinel.wrap, bind_of_ok (requireNode_apply (Heap.isNode_of_genuine hp.found hp.genuine) _),
    bind_of_ok (requireFunction_apply (callable_maker m _) _), bind_of_ok hopen,
    bind_of_ok hclose]
  rfl

end Text

section NoText

variable (call : Caller σ) (m : NodeMaker) (hs : w.Uses s) (hp : w.heap.NodeAt p e)
  (ht : ∀ t, w.heap.attrOrNull (.ref p) "type" ≠ .str t)
include hs hp ht

theorem Sentinel.addOpen_of_no_text (payload : Value) :
    ∃ fault, Sentinel.addOpen call (.ref p) m.value payload .null w = .error fault w := by
  obtain ⟨fault, hmake⟩ := Sentinel.make_of_no_text call m hp ht (.str s.openSuffix) payload .null
  exact ⟨fault, by rw [Sentinel.addOpen, bind_of_ok hs.openSuffix_apply, bind_of_error hmake]⟩

theorem Sentinel.addClose_of_no_text (payload : Value) :
    ∃ fault, Sentinel.addClose call (.ref p) m.value payload .null w = .error fault w := by
  obtain ⟨fault, hmake⟩ := Sentinel.make_of_no_text call m hp ht (.str s.closeSuffix) payload .null
  exact ⟨fault, by rw [Sentinel.addClose, bind_of_ok hs.closeSuffix_apply, bind_of_error hmake]⟩

theorem Sentinel.wrap_of_no_text :
    ∃ fault, Sentinel.wrap call (.ref p) m.value .null w = .error fault w := by
  obtain ⟨fault, hopen⟩ := Sentinel.addOpen_of_no_text call m hs hp ht .null
  refine ⟨fault, ?_⟩
  rw [Sentinel.wrap, bind_of_ok (requireNode_apply (Heap.isNode_of_genuine hp.found hp.genuine) _),
    bind_of_ok (requireFunction_apply (callable_maker m _) _), bind_of_error hopen]

end NoText

end Sentinels

end TagTree
