import TagTree.Proofs.Sentinels

/-!
# Parents in the course of editing

However nodes are pushed, unshifted, popped, shifted, removed and enclosed by sentinels, the parent
of a node is the node under which it was inserted last. Taking a node out changes no parent at all,
so a node can be among the children of several others; it is then the child of the latest of them.

A run of edits is recorded with its insertions. One lemma says what each kind of change to a heap
(inserting a known node, making a node, taking children out) does to the agreement between heap and
record, another one that every edit is made of such changes, and a run keeps the agreement by
induction.
-/

namespace TagTree

open Op

/-! ## Edits -/

/-- An edit of the children of nodes. Sentinels are added without a filter. -/
inductive Edit
  | push (parent node : Value)
  | unshift (parent node : Value)
  | pop (node : Value)
  | shift (node : Value)
  | remove (parent node : Value)
  | addOpen (node : Value) (maker : NodeMaker) (payload : Value)
  | addClose (node : Value) (maker : NodeMaker) (payload : Value)
  | wrap (node : Value) (maker : NodeMaker)

/-- A node and the node under which it was inserted. -/
abbrev Insertion := Value × Value

namespace Edit

variable {σ : Type}

def run (call : Caller σ) : Edit → Op σ Value
  | push parent node => Tree.push call parent node
  | unshift parent node => Tree.unshift call parent node
  | pop node => Tree.pop call node
  | shift node => Tree.shift call node
  | remove parent node => Tree.remove call parent node
  | addOpen node maker payload => Sentinel.addOpen call node maker.value payload .null
  | addClose node maker payload => Sentinel.addClose call node maker.value payload .null
  | wrap node maker => Sentinel.wrap call node maker.value .null

/-- The nodes that are given to an edit. -/
def operands : Edit → List Value
  | push parent node | unshift parent node | remove parent node => [parent, node]
  | pop node | shift node => [node]
  | addOpen node _ _ | addClose node _ _ | wrap node _ => [node]

/-- The payload of the sentinel that an edit adds. -/
def payload : Edit → Value
  | addOpen _ _ x | addClose _ _ x => x
  | _ => .null

/-- Whether an edit only takes nodes out. -/
def isRemoval : Edit → Bool
  | pop _ | shift _ | remove _ _ => true
  | _ => false

/-- What an edit inserts when it is made in the given world: the node that it is given, the sentinel
that it answers, or the sentinels that enclose the children afterwards. -/
def insertions (call : Caller σ) (w : World σ) (edit : Edit) : List Insertion :=
  match edit with
  | push parent node | unshift parent node => [(node, parent)]
  | pop _ | shift _ | remove _ _ => []
  | addOpen node _ _ | addClose node _ _ =>
    match edit.run call w with
    | .ok sentinel _ => [(sentinel, node)]
    | .error _ _ => []
  | wrap node _ =>
    match edit.run call w with
    | .ok _ w' =>
      let children := w'.heap.children node
      [(children.head?.getD .null, node), (children.getLast?.getD .null, node)]
    | .error _ _ => []

end Edit

/-! ## Records of insertions -/

/-- The node under which a node was inserted last. -/
def lastParent (history : List Insertion) (v : Value) : Option Value :=
  history.reverse.lookup v

theorem lastParent_append (earlier later : List Insertion) (v : Value) :
    lastParent (earlier ++ later) v = (lastParent later v).or (lastParent earlier v) := by
  rw [lastParent, List.reverse_append, List.lookup_append]
  rfl

theorem lastParent_append_self (history : List Insertion) (c p : Value) :
    lastParent (history ++ [(c, p)]) c = some p := by
  simp [lastParent]

theorem lastParent_append_of_ne {c v : Value} (hne : v ≠ c) (history : List Insertion) (p : Value) :
    lastParent (history ++ [(c, p)]) v = lastParent history v := by
  simp [lastParent, List.lookup_cons, beq_false_of_ne hne]

theorem lastParent_eq_none {history : List Insertion} {v : Value}
    (hnone : ∀ p, (v, p) ∉ history) : lastParent history v = none := by
  rw [lastParent, List.lookup_eq_none_iff]
  rintro ⟨c, p⟩ hentry
  have hne : v ≠ c := by
    rintro rfl
    exact hnone p (List.mem_reverse.mp hentry)
  simpa using hne

theorem mem_of_lastParent {history : List Insertion} {v p : Value}
    (hlast : lastParent history v = some p) : (v, p) ∈ history :=
  List.mem_reverse.mp (mem_of_lookup hlast)

/-- After the last of several insertions under one node, the node is the last parent, unless there
is an insertion under another one. -/
theorem exists_last_insertion {history : List Insertion} {c p : Value} (hmem : (c, p) ∈ history) :
    ∃ earlier later, history = earlier ++ (c, p) :: later ∧ (c, p) ∉ later ∧
      (lastParent history c = some p ∨ ∃ q, q ≠ p ∧ (c, q) ∈ later) := by
  obtain ⟨l₁, l₂, hsplit, hfirst⟩ := List.eq_append_cons_of_mem (List.mem_reverse.mpr hmem)
  have hhistory : history = l₂.reverse ++ (c, p) :: l₁.reverse := by
    rw [← history.reverse_reverse, hsplit]
    simp
  have hlater : (c, p) ∉ l₁.reverse := by simpa using hfirst
  refine ⟨l₂.reverse, l₁.reverse, hhistory, hlater, ?_⟩
  cases hlast : lastParent l₁.reverse c with
  | none =>
    left
    rw [hhistory, List.append_cons, lastParent_append, hlast, lastParent_append_self]
    rfl
  | some q =>
    right
    have hq : (c, q) ∈ l₁.reverse := mem_of_lastParent hlast
    refine ⟨q, ?_, hq⟩
    rintro rfl
    exact hlater hq

/-! ## Agreement of heaps and records -/

/-- A heap agrees with a record of insertions on some nodes: their parents are those they were
inserted under last, and each of their children was inserted under them. -/
structure Traced (known : Value → Prop) (history : List Insertion) (h : Heap) : Prop where
  isRef : ∀ v, known v → ∃ a, v = .ref a
  forest : h.Forest fun a ↦ known (.ref a)
  entered : ∀ c p, (c, p) ∈ history → known c
  parent : ∀ v, known v → h.attrOrNull v "parent" = (lastParent history v).getD .null
  recorded : ∀ v, known v → ∀ c ∈ h.children v, (c, v) ∈ history

section Agreement

variable {known : Value → Prop} {history : List Insertion} {h : Heap} {p c : Addr}
  {items : List Value}

/-- A known node is inserted under another one. -/
theorem Traced.insertChild (ht : Traced known history h) (hp : known (.ref p))
    (hc : known (.ref c)) (hitems : ∀ v ∈ items, v = .ref c ∨ v ∈ h.children (.ref p)) :
    Traced known (history ++ [(.ref c, .ref p)]) (h.insertChild p c items) := by
  obtain ⟨e, he⟩ := ht.forest.node p hp
  obtain ⟨f, hf⟩ := ht.forest.node c hc
  refine ⟨ht.isRef, ht.forest.insertChild hp hf.found items, ?_, ?_, ?_⟩
  · intro v q hmem
    rcases List.mem_append.mp hmem with hold | hnew
    · exact ht.entered v q hold
    · obtain ⟨rfl, -⟩ : v = .ref c ∧ q = .ref p := by simpa using hnew
      exact hc
  · intro v hv
    obtain ⟨a, rfl⟩ := ht.isRef v hv
    obtain ⟨g, hg⟩ := ht.forest.node a hv
    by_cases hac : a = c
    · subst hac
      rw [Heap.attrOrNull_insertChild_parent he hg, lastParent_append_self]
      rfl
    · have hne : Value.ref a ≠ .ref c := by simpa using hac
      rw [Heap.attrOrNull_insertChild he hf.found hg items (by decide) (by decide) (.inl hac),
        ht.parent _ hv, lastParent_append_of_ne hne]
  · intro v hv u hu
    obtain ⟨a, rfl⟩ := ht.isRef v hv
    by_cases hap : a = p
    · subst hap
      rw [Heap.children_insertChild_self he hf.found] at hu
      rcases hitems u hu with rfl | hold
      · exact List.mem_append_right _ (List.mem_singleton.mpr rfl)
      · exact List.mem_append_left _ (ht.recorded _ hv u hold)
    · rw [ht.forest.children_insertChild hp hf.found hv hap] at hu
      exact List.mem_append_left _ (ht.recorded _ hv u hu)

/-- A node is made. -/
theorem Traced.made (ht : Traced known history h) (m : NodeMaker) (type : String) (x : Value) :
    Traced (fun v ↦ known v ∨ v = .ref (m.address h)) history (m.made h type x) := by
  have hnew := m.nodeAt_made h type x
  have hnodes := m.attrOrNull_made_nodes h type x
  -- No known node is at the address of the new one.
  have hunknown : ¬ known (.ref (m.address h)) := by
    intro hold
    obtain ⟨e, he⟩ := ht.forest.node _ hold
    exact absurd (Heap.lt_fresh_of_get? he.found) (Nat.not_lt.mpr (m.fresh_le_address h))
  refine ⟨?_, ?_, fun c p hmem ↦ .inl (ht.entered c p hmem), ?_, ?_⟩
  · rintro v (hv | rfl)
    · exact ht.isRef v hv
    · exact ⟨_, rfl⟩
  · have hjoined := (ht.forest.extend (m.extends_made _ type x)).join hnew hnodes
    simpa only [Value.ref.injEq] using hjoined
  · rintro v (hv | rfl)
    · obtain ⟨a, rfl⟩ := ht.isRef v hv
      obtain ⟨e, he⟩ := ht.forest.node a hv
      rw [(m.extends_made _ type x).attrOrNull he, ht.parent _ hv]
    · have hnever : lastParent history (.ref (m.address h)) = none :=
        lastParent_eq_none fun p hmem ↦ hunknown (ht.entered _ p hmem)
      rw [m.attrOrNull_made_parent, hnever]
      rfl
  · rintro v (hv | rfl) u hu
    · obtain ⟨a, rfl⟩ := ht.isRef v hv
      obtain ⟨e, he⟩ := ht.forest.node a hv
      rw [(m.extends_made _ type x).children he] at hu
      exact ht.recorded _ hv u hu
    · rw [Heap.children_of_null hnodes] at hu
      cases hu

/-- Children are taken out. -/
theorem Traced.trimChildren (ht : Traced known history h) (hp : known (.ref p))
    (hitems : items ⊆ h.children (.ref p)) : Traced known history (h.trimChildren p items) := by
  cases hlist : h.childList? (.ref p) with
  | none =>
    have hsame : h.trimChildren p items = h := by simp [Heap.trimChildren, hlist]
    rwa [hsame]
  | some old =>
    have hset : h.trimChildren p items = h.setChildren p items := by
      simp [Heap.trimChildren, hlist]
    obtain ⟨e, he⟩ := ht.forest.node p hp
    refine ⟨ht.isRef, hset ▸ ht.forest.setChildren hp items, ht.entered, ?_, ?_⟩
    · intro v hv
      rw [Heap.attrOrNull, Heap.attr?_trimChildren, ← Heap.attrOrNull, ht.parent v hv]
    · intro v hv u hu
      obtain ⟨a, rfl⟩ := ht.isRef v hv
      rw [hset] at hu
      by_cases hap : a = p
      · subst hap
        rw [Heap.children, Heap.childList?_setChildren_self he] at hu
        exact ht.recorded _ hv u (hitems hu)
      · rw [ht.forest.children_setChildren hp hv hap] at hu
        exact ht.recorded _ hv u hu

/-- A sentinel is made and inserted. -/
theorem Traced.addSentinel (ht : Traced known history h) (hp : known (.ref p)) (m : NodeMaker)
    (type : String) (payload : Value)
    (hitems : ∀ v ∈ items, v = .ref (m.address h) ∨ v ∈ h.children (.ref p)) :
    Traced (fun v ↦ known v ∨ v = .ref (m.address h)) (history ++ [(.ref (m.address h), .ref p)])
      (h.addSentinel m p type payload items) := by
  obtain ⟨e, he⟩ := ht.forest.node p hp
  refine (ht.made m type (sentinelValue payload)).insertChild (.inl hp) (.inr rfl) ?_
  intro v hv
  rw [(m.extends_made _ _ _).children he]
  exact hitems v hv

end Agreement

/-! ## Runs -/

/-- A node as it is made: without children and without a parent. -/
def Heap.Leaf (h : Heap) (v : Value) : Prop :=
  ∃ a e, v = .ref a ∧ h.get? a = some (.entity e) ∧ e.Genuine ∧
    Table.get? e.attrs "nodes" = some .null ∧ e.parent = .absent ∧
    h.attrOrNull v "parent" = .null

/-- The nodes that there were at the beginning and those that were inserted since. -/
def Known (founders : Value → Prop) (history : List Insertion) (v : Value) : Prop :=
  founders v ∨ ∃ p, (v, p) ∈ history

/-- The worlds that edits of known nodes lead to, each with a record of all insertions. An edit that
fails may be part of a run; what it did until then stays done. -/
inductive EditRun {σ : Type} (call : Caller σ) (founders : Value → Prop) (w₀ : World σ) :
    List Insertion → World σ → Prop
  | start : EditRun call founders w₀ [] w₀
  | edit {history : List Insertion} {w : World σ} (edit : Edit) :
    EditRun call founders w₀ history w →
    (∀ v ∈ edit.operands, Known founders history v) →
    w.heap.callable edit.payload = false →
    EditRun call founders w₀ (history ++ edit.insertions call w) ((edit.run call).after w)

section Steps

variable {σ : Type} {founders : Value → Prop} {history : List Insertion} {w : World σ}
  {s : Settings}

theorem known_append_of_known {c p : Value} (hc : Known founders history c) :
    Known founders (history ++ [(c, p)]) = Known founders history := by
  funext v
  apply propext
  constructor
  · rintro (hv | ⟨q, hq⟩)
    · exact .inl hv
    · rcases List.mem_append.mp hq with hold | hnew
      · exact .inr ⟨q, hold⟩
      · obtain ⟨rfl, -⟩ : v = c ∧ q = p := by simpa using hnew
        exact hc
  · exact Or.imp_right fun ⟨q, hq⟩ ↦ ⟨q, List.mem_append_left _ hq⟩

theorem known_append (c p : Value) :
    Known founders (history ++ [(c, p)]) = fun v ↦ Known founders history v ∨ v = c := by
  funext v
  apply propext
  simp only [Known, List.mem_append, List.mem_singleton, Prod.mk.injEq]
  constructor
  · rintro (hv | ⟨q, hold | ⟨rfl, -⟩⟩)
    · exact .inl (.inl hv)
    · exact .inl (.inr ⟨q, hold⟩)
    · exact .inr rfl
  · rintro ((hv | ⟨q, hq⟩) | rfl)
    · exact .inl hv
    · exact .inr ⟨q, .inl hq⟩
    · exact .inr ⟨p, .inr ⟨rfl, rfl⟩⟩

/-- An operation leaves the configurations and a heap that agrees with the record extended by some
insertions. -/
def Records (founders : Value → Prop) (history : List Insertion) (x : Op σ Value) (w : World σ)
    (new : List Insertion) : Prop :=
  ∃ h, x.Leaves w h ∧ w.heap.KeepsSettings h ∧
    Traced (Known founders (history ++ new)) (history ++ new) h

section Step

variable (ht : Traced (Known founders history) history w.heap)
include ht

/-- Nothing happens. -/
theorem Traced.records_error {x : Op σ Value} {fault : Fault} (hx : x w = .error fault w) :
    Records founders history x w [] := by
  refine ⟨w.heap, ⟨w.log, after_of_error hx⟩, Heap.KeepsSettings.refl _, ?_⟩
  rwa [List.append_nil]

/-- A known node is a node of the heap. -/
theorem Traced.exists_node {v : Value}
    (hv : Known founders history v) :
    ∃ p e, v = .ref p ∧ w.heap.NodeAt p e := by
  obtain ⟨p, rfl⟩ := ht.isRef v hv
  obtain ⟨e, he⟩ := ht.forest.node p hv
  exact ⟨p, e, rfl, he⟩

/-- The parent and the child of an edit that has both. -/
theorem Traced.exists_nodes {v u : Value}
    (hops : ∀ x ∈ [v, u], Known founders history x) :
    ∃ p c e f, v = .ref p ∧ u = .ref c ∧ Known founders history (.ref p) ∧
      Known founders history (.ref c) ∧ w.heap.NodeAt p e ∧ w.heap.NodeAt c f := by
  have hv := hops v List.mem_cons_self
  have hu := hops u (List.mem_cons_of_mem _ List.mem_cons_self)
  obtain ⟨p, e, rfl, he⟩ := ht.exists_node hv
  obtain ⟨c, f, rfl, hf⟩ := ht.exists_node hu
  exact ⟨p, c, e, f, rfl, rfl, hv, hu, he, hf⟩

theorem Traced.records_insertChild {x : Op σ Value} {p c : Addr} {items : List Value}
    (hp : Known founders history (.ref p)) (hc : Known founders history (.ref c))
    (hitems : ∀ v ∈ items, v = .ref c ∨ v ∈ w.heap.children (.ref p))
    (hx : x.Leaves w (w.heap.insertChild p c items)) :
    Records founders history x w [(.ref c, .ref p)] := by
  obtain ⟨e, he⟩ := ht.forest.node p hp
  obtain ⟨f, hf⟩ := ht.forest.node c hc
  refine ⟨_, hx, Heap.keepsSettings_insertChild he hf items, ?_⟩
  rw [known_append_of_known hc]
  exact ht.insertChild hp hc hitems

theorem Traced.records_trimChildren {x : Op σ Value} {p : Addr} {items : List Value}
    (hp : Known founders history (.ref p)) (hitems : items ⊆ w.heap.children (.ref p))
    (hx : x.Leaves w (w.heap.trimChildren p items)) : Records founders history x w [] := by
  refine ⟨_, hx, ?_, ?_⟩
  · cases hlist : w.heap.childList? (.ref p) with
    | none => simpa [Heap.trimChildren, hlist] using Heap.KeepsSettings.refl _
    | some old =>
      obtain ⟨e, he⟩ := ht.forest.node p hp
      simpa [Heap.trimChildren, hlist] using Heap.keepsSettings_setChildren he items
  · rw [List.append_nil]
    exact ht.trimChildren hp hitems

end Step

section Sentinels

variable {h : Heap} (ht : Traced (Known founders history) history h) {p : Addr}
  (hp : Known founders history (.ref p)) (m : NodeMaker) (type : String) (payload : Value)
include ht hp

theorem Traced.opened :
    Traced (Known founders (history ++ [(.ref (m.address h), .ref p)]))
      (history ++ [(.ref (m.address h), .ref p)]) (h.opened m p type payload) := by
  rw [known_append]
  exact ht.addSentinel hp m type payload fun v hv ↦ List.mem_cons.mp hv

theorem Traced.closed :
    Traced (Known founders (history ++ [(.ref (m.address h), .ref p)]))
      (history ++ [(.ref (m.address h), .ref p)]) (h.closed m p type payload) := by
  rw [known_append]
  refine ht.addSentinel hp m type payload fun v hv ↦ ?_
  rcases List.mem_append.mp hv with hold | hnew
  · exact .inr hold
  · exact .inl (List.mem_singleton.mp hnew)

end Sentinels

section Edits

variable (foreign : Caller σ) (fuel : Nat) (ht : Traced (Known founders history) history w.heap)
include ht

/-- Taking out leaves some of the children of one node. -/
theorem Traced.removal_leaves {edit : Edit} (hremoval : edit.isRemoval = true)
    (hops : ∀ v ∈ edit.operands, Known founders history v) :
    ∃ p items, Known founders history (.ref p) ∧ items ⊆ w.heap.children (.ref p) ∧
      (edit.run (invoke foreign (fuel + 2))).Leaves w (w.heap.trimChildren p items) := by
  cases edit with
  | pop v =>
    have hv := hops v List.mem_cons_self
    obtain ⟨p, e, rfl, he⟩ := ht.exists_node hv
    exact ⟨p, _, hv, List.dropLast_subset _, (Tree.pop_gives foreign (fuel + 1) he).leaves⟩
  | shift v =>
    have hv := hops v List.mem_cons_self
    obtain ⟨p, e, rfl, he⟩ := ht.exists_node hv
    exact ⟨p, _, hv, fun _ ↦ List.mem_of_mem_tail, (Tree.shift_gives foreign (fuel + 1) he).leaves⟩
  | remove v u =>
    obtain ⟨p, c, e, f, rfl, rfl, hv, -, he, hf⟩ := ht.exists_nodes hops
    obtain ⟨items, hitems, hleaves⟩ :=
      Tree.remove_leaves foreign (fuel + 1) he hf.found (.genuine hf.genuine)
    exact ⟨p, items, hv, hitems, hleaves⟩
  | _ => cases hremoval

variable (hs : w.Uses s)
include hs

theorem Traced.records_addOpen {p : Addr} (hp : Known founders history (.ref p)) (m : NodeMaker)
    {payload : Value} (hpayload : w.heap.callable payload = false) :
    Records founders history ((Edit.addOpen (.ref p) m payload).run (invoke foreign (fuel + 2))) w
      ((Edit.addOpen (.ref p) m payload).insertions (invoke foreign (fuel + 2)) w) := by
  obtain ⟨e, he⟩ := ht.forest.node p hp
  by_cases htext : ∃ t, w.heap.attrOrNull (.ref p) "type" = .str t
  · obtain ⟨t, htype⟩ := htext
    obtain ⟨log, hrun⟩ := Sentinel.addOpen_gives foreign fuel m hs he htype hpayload
    simp only [Edit.insertions, Edit.run, hrun]
    exact ⟨_, ⟨log, after_of_ok hrun⟩, Heap.keepsSettings_addSentinel he,
      ht.opened hp m (t ++ s.openSuffix) payload⟩
  · obtain ⟨fault, hrun⟩ := Sentinel.addOpen_of_no_text (invoke foreign (fuel + 2)) m hs he
      (not_exists.mp htext) payload
    simp only [Edit.insertions, Edit.run, hrun]
    exact ht.records_error hrun

theorem Traced.records_addClose {p : Addr} (hp : Known founders history (.ref p)) (m : NodeMaker)
    {payload : Value} (hpayload : w.heap.callable payload = false) :
    Records founders history ((Edit.addClose (.ref p) m payload).run (invoke foreign (fuel + 2))) w
      ((Edit.addClose (.ref p) m payload).insertions (invoke foreign (fuel + 2)) w) := by
  obtain ⟨e, he⟩ := ht.forest.node p hp
  by_cases htext : ∃ t, w.heap.attrOrNull (.ref p) "type" = .str t
  · obtain ⟨t, htype⟩ := htext
    obtain ⟨log, hrun⟩ := Sentinel.addClose_gives foreign fuel m hs he htype hpayload
    simp only [Edit.insertions, Edit.run, hrun]
    exact ⟨_, ⟨log, after_of_ok hrun⟩, Heap.keepsSettings_addSentinel he,
      ht.closed hp m (t ++ s.closeSuffix) payload⟩
  · obtain ⟨fault, hrun⟩ := Sentinel.addClose_of_no_text (invoke foreign (fuel + 2)) m hs he
      (not_exists.mp htext) payload
    simp only [Edit.insertions, Edit.run, hrun]
    exact ht.records_error hrun

theorem Traced.records_wrap {p : Addr} (hp : Known founders history (.ref p)) (m : NodeMaker) :
    Records founders history ((Edit.wrap (.ref p) m).run (invoke foreign (fuel + 2))) w
      ((Edit.wrap (.ref p) m).insertions (invoke foreign (fuel + 2)) w) := by
  obtain ⟨e, he⟩ := ht.forest.node p hp
  by_cases htext : ∃ t, w.heap.attrOrNull (.ref p) "type" = .str t
  · obtain ⟨t, htype⟩ := htext
    let h := w.heap.opened m p (t ++ s.openSuffix) .null
    have hopened := ht.opened hp m (t ++ s.openSuffix) .null
    have hp' : Known founders (history ++ [(.ref (m.address w.heap), .ref p)]) (.ref p) := by
      rw [known_append]
      exact .inl hp
    have hclosed := hopened.closed hp' m (t ++ s.closeSuffix) .null
    obtain ⟨log, hrun⟩ := Sentinel.wrap_gives foreign fuel m hs he htype
    have hnew : (Edit.wrap (.ref p) m).insertions (invoke foreign (fuel + 2)) w =
        [(.ref (m.address w.heap), .ref p)] ++ [(.ref (m.address h), .ref p)] := by
      simp [Edit.insertions, Edit.run, hrun, Heap.children_wrapped he, List.getLast?_cons, h]
    rw [hnew, Records, ← List.append_assoc]
    exact ⟨_, ⟨log, after_of_ok hrun⟩, Heap.keepsSettings_wrapped he, hclosed⟩
  · obtain ⟨fault, hrun⟩ := Sentinel.wrap_of_no_text (invoke foreign (fuel + 2)) m hs he
      (not_exists.mp htext)
    simp only [Edit.insertions, Edit.run, hrun]
    exact ht.records_error hrun

/-- Every edit of known nodes keeps heap and record in agreement. -/
theorem Traced.records_edit (edit : Edit) (hops : ∀ v ∈ edit.operands, Known founders history v)
    (hpayload : w.heap.callable edit.payload = false) :
    Records founders history (edit.run (invoke foreign (fuel + 2))) w
      (edit.insertions (invoke foreign (fuel + 2)) w) := by
  have hremoval (hr : edit.isRemoval = true) :
      Records founders history (edit.run (invoke foreign (fuel + 2))) w [] := by
    obtain ⟨p, items, hp, hitems, hleaves⟩ := ht.removal_leaves foreign fuel hr hops
    exact ht.records_trimChildren hp hitems hleaves
  cases edit with
  | push v u =>
    obtain ⟨p, c, e, f, rfl, rfl, hv, hu, he, hf⟩ := ht.exists_nodes hops
    refine ht.records_insertChild hv hu (fun x hx ↦ ?_)
      (Tree.push_inserts foreign fuel he hf.found (.genuine hf.genuine)).leaves
    rcases List.mem_append.mp hx with hold | hnew
    · exact .inr hold
    · exact .inl (List.mem_singleton.mp hnew)
  | unshift v u =>
    obtain ⟨p, c, e, f, rfl, rfl, hv, hu, he, hf⟩ := ht.exists_nodes hops
    exact ht.records_insertChild hv hu (fun x hx ↦ List.mem_cons.mp hx)
      (Tree.unshift_inserts foreign fuel he hf.found (.genuine hf.genuine)).leaves
  | pop v => exact hremoval rfl
  | shift v => exact hremoval rfl
  | remove v u => exact hremoval rfl
  | addOpen v m x =>
    have hv := hops v List.mem_cons_self
    obtain ⟨p, rfl⟩ := ht.isRef v hv
    exact ht.records_addOpen foreign fuel hs hv m hpayload
  | addClose v m x =>
    have hv := hops v List.mem_cons_self
    obtain ⟨p, rfl⟩ := ht.isRef v hv
    exact ht.records_addClose foreign fuel hs hv m hpayload
  | wrap v m =>
    have hv := hops v List.mem_cons_self
    obtain ⟨p, rfl⟩ := ht.isRef v hv
    exact ht.records_wrap foreign fuel hs hv m

end Edits

end Steps

section Runs

variable {σ : Type} {founders : Value → Prop} {history : List Insertion} {w₀ w : World σ}
  {s : Settings}

/-- Before any edit there is nothing to agree on. -/
theorem traced_of_leaves {h : Heap} (hleaf : ∀ v, founders v → h.Leaf v) :
    Traced (Known founders []) [] h := by
  have hfounder : ∀ v, Known founders [] v → h.Leaf v := by
    rintro v (hv | ⟨p, hp⟩)
    · exact hleaf v hv
    · cases hp
  have hnode : ∀ a, Known founders [] (.ref a) →
      (∃ e, h.NodeAt a e) ∧ h.attrOrNull (.ref a) "nodes" = .null := by
    intro a ha
    obtain ⟨b, e, hb, hfound, hgenuine, hnodes, habsent, -⟩ := hfounder _ ha
    obtain rfl : a = b := by simpa using hb
    have hat : h.NodeAt a e := ⟨hfound, hgenuine, .inl hnodes, by simp [habsent]⟩
    exact ⟨⟨e, hat⟩, by rw [hat.attrOrNull_nodes, hnodes]; rfl⟩
  have href : ∀ v, Known founders [] v → ∃ a, v = .ref a := by
    intro v hv
    obtain ⟨a, -, rfl, -⟩ := hfounder v hv
    exact ⟨a, rfl⟩
  refine ⟨href, ⟨fun a ha ↦ (hnode a ha).1, ?_⟩, fun _ _ hmem ↦ absurd hmem List.not_mem_nil,
    ?_, ?_⟩
  · intro a b l ha hb hl
    rw [(hnode a ha).2] at hl
    cases hl
  · intro v hv
    obtain ⟨-, -, -, -, -, -, -, hparent⟩ := hfounder v hv
    exact hparent
  · intro v hv c hc
    obtain ⟨a, rfl⟩ := href v hv
    rw [Heap.children_of_null (hnode a hv).2] at hc
    cases hc

theorem EditRun.traced {foreign : Caller σ} {fuel : Nat} (hs : w₀.Uses s)
    (hleaf : ∀ v, founders v → w₀.heap.Leaf v)
    (hrun : EditRun (invoke foreign (fuel + 2)) founders w₀ history w) :
    w.Uses s ∧ Traced (Known founders history) history w.heap := by
  induction hrun with
  | start => exact ⟨hs, traced_of_leaves hleaf⟩
  | edit edit _ hops hpayload ih =>
    obtain ⟨hs', ht⟩ := ih
    obtain ⟨h, ⟨log, hafter⟩, hkeeps, ht'⟩ := ht.records_edit foreign fuel hs' edit hops hpayload
    rw [hafter]
    exact ⟨hs'.of_keepsSettings hkeeps log, ht'⟩

/-- At every point of every run of edits: the parent of a node is the node under which it was
inserted last, and none if it was never inserted; taking nodes out changes no parent; and whoever is
among the children of a node was inserted under it and has it as parent, unless it was inserted
under another one since. -/
theorem parent_eq_lastParent_of_run {foreign : Caller σ} {fuel : Nat} (hs : w₀.Uses s)
    (hleaf : ∀ v, founders v → w₀.heap.Leaf v)
    (hrun : EditRun (invoke foreign (fuel + 2)) founders w₀ history w) :
    (∀ v, Known founders history v →
      w.heap.attrOrNull v "parent" = (lastParent history v).getD .null) ∧
    (∀ edit : Edit, edit.isRemoval = true →
      (∀ v ∈ edit.operands, Known founders history v) → ∀ v,
      ((edit.run (invoke foreign (fuel + 2))).after w).heap.attrOrNull v "parent" =
        w.heap.attrOrNull v "parent") ∧
    ∀ p, Known founders history p → ∀ c ∈ w.heap.children p,
      ∃ earlier later, history = earlier ++ (c, p) :: later ∧ (c, p) ∉ later ∧
        (w.heap.attrOrNull c "parent" = p ∨ ∃ q, q ≠ p ∧ (c, q) ∈ later) := by
  obtain ⟨-, ht⟩ := hrun.traced hs hleaf
  refine ⟨ht.parent, ?_, ?_⟩
  · intro edit hremoval hops v
    obtain ⟨p, items, -, -, log, hafter⟩ := ht.removal_leaves foreign fuel hremoval hops
    rw [hafter, Heap.attrOrNull, Heap.attr?_trimChildren, ← Heap.attrOrNull]
  · intro p hp c hc
    have hmem : (c, p) ∈ history := ht.recorded p hp c hc
    obtain ⟨earlier, later, hsplit, hlast, hcases⟩ := exists_last_insertion hmem
    refine ⟨earlier, later, hsplit, hlast, hcases.imp_left fun hparent ↦ ?_⟩
    rw [ht.parent c (.inr ⟨p, hmem⟩), hparent]
    rfl

/-- The plain node is pushed under one smart node and then under the other one, and taken out there.
It is still among the children of the first, and the second is still its parent. -/
theorem parent_after_push_push_pop :
    let call := invoke (fun _ _ _ ↦ throw .unsupported : Caller Unit) 2
    let founders := (· ∈ [Value.ref 1, .ref 2, .ref 4])
    let w₁ := ((Edit.push (.ref 1) (.ref 2)).run call).after threeLeaves
    let w₂ := ((Edit.push (.ref 4) (.ref 2)).run call).after w₁
    let w₃ := ((Edit.pop (.ref 4)).run call).after w₂
    threeLeaves.Uses {} ∧ (∀ v, founders v → threeLeaves.heap.Leaf v) ∧
      EditRun call founders threeLeaves [(.ref 2, .ref 1), (.ref 2, .ref 4)] w₃ ∧
      w₃.heap.children (.ref 1) = [.ref 2] ∧ w₃.heap.children (.ref 4) = [] ∧
      w₃.heap.attrOrNull (.ref 2) "parent" = .ref 4 := by
  intro call founders w₁ w₂ w₃
  have hs : threeLeaves.Uses {} := rfl
  have hleaf : ∀ v, founders v → threeLeaves.heap.Leaf v := by
    intro v hv
    simp only [founders, List.mem_cons, List.not_mem_nil, or_false] at hv
    rcases hv with rfl | rfl | rfl
    · exact ⟨1, _, rfl, rfl, NodeMaker.smart.genuine_entity {} "a" .null, rfl, rfl, rfl⟩
    · exact ⟨2, _, rfl, rfl, NodeMaker.plain.genuine_entity {} "b" .null, rfl, rfl, rfl⟩
    · exact ⟨4, _, rfl, rfl,
        NodeMaker.smart.genuine_entity (NodeMaker.plain.made
          (NodeMaker.smart.made {} "a" .null) "b" .null) "c" .null, rfl, rfl, rfl⟩
  have hrun : EditRun call founders threeLeaves [(.ref 2, .ref 1), (.ref 2, .ref 4)] w₃ := by
    have h₀ : EditRun call founders threeLeaves [] threeLeaves := .start
    have h₁ := h₀.edit (.push (.ref 1) (.ref 2)) (by simp [Edit.operands, Known, founders]) rfl
    have h₂ := h₁.edit (.push (.ref 4) (.ref 2)) (by simp [Edit.operands, Known, founders]) rfl
    exact h₂.edit (.pop (.ref 4)) (by simp [Edit.operands, Known, founders]) rfl
  refine ⟨hs, hleaf, hrun, by decide +kernel, by decide +kernel, ?_⟩
  exact (parent_eq_lastParent_of_run hs hleaf hrun).1 (.ref 2) (.inl (by simp [founders]))

end Runs

end TagTree
