import TagTree.Proofs.Loading
import TagTree.Walk

/-!
# Dumping and loading a tree

A tree of smart and plain nodes is dumped, and a tree of smart nodes is loaded from the document.
The two trees have the same shape and the same types, carry the same payloads as far as these count
as true, agree on which of their nodes are empty, and have the same document.
-/

namespace TagTree

open Op

/-! ## Trees of pairs -/

/-- Two trees with the same labels under some view are the two sides of one tree of pairs. -/
theorem Orchard.exists_pairing {α β γ : Type} {f : α → γ} {g : β → γ} {s : Orchard α}
    {t : Orchard β} (heq : s.map f = t.map g) :
    ∃ z : Orchard (α × β), z.map Prod.fst = s ∧ z.map Prod.snd = t ∧
      ∀ q ∈ z.labels, f q.1 = g q.2 := by
  induction s generalizing t with
  | nil =>
    cases t with
    | nil => exact ⟨.nil, rfl, rfl, fun q hq ↦ absurd hq List.not_mem_nil⟩
    | _ => cases heq
  | leaf x rest ih =>
    cases t with
    | leaf y others =>
      simp only [map, leaf.injEq] at heq
      obtain ⟨z, rfl, rfl, hz⟩ := ih heq.2
      refine ⟨.leaf (x, y) z, rfl, rfl, ?_⟩
      simpa [labels] using ⟨heq.1, fun a b hab ↦ hz (a, b) hab⟩
    | _ => cases heq
  | tree x below rest ihbelow ihrest =>
    cases t with
    | tree y lower others =>
      simp only [map, tree.injEq] at heq
      obtain ⟨z₁, rfl, rfl, hz₁⟩ := ihbelow heq.2.1
      obtain ⟨z₂, rfl, rfl, hz₂⟩ := ihrest heq.2.2
      refine ⟨.tree (x, y) z₁ z₂, rfl, rfl, ?_⟩
      intro q hq
      rcases List.mem_cons.mp hq with rfl | hq
      · exact heq.1
      · exact (List.mem_append.mp hq).elim (hz₁ q) (hz₂ q)
    | _ => cases heq

theorem Orchard.map_congr {α β : Type} {f g : α → β} {t : Orchard α}
    (hlabels : ∀ x ∈ t.labels, f x = g x) : t.map f = t.map g := by
  induction t with
  | nil => rfl
  | leaf x rest ih =>
    obtain ⟨hx, hrest⟩ := List.forall_mem_cons.mp hlabels
    rw [map, map, hx, ih hrest]
  | tree x below rest ihbelow ihrest =>
    obtain ⟨hx, hlower⟩ := List.forall_mem_cons.mp hlabels
    obtain ⟨hbelow, hrest⟩ := List.forall_mem_append.mp hlower
    rw [map, map, hx, ihbelow hbelow, ihrest hrest]

/-! ## Payloads -/

namespace Making

/-- The payload that a node tells when it is asked. -/
def payload (h : Heap) (m : Making) : Value :=
  if h.truthy m.value then m.value else m.val

theorem page_type (h : Heap) (m : Making) : (m.page h).type = m.type := by
  cases m <;> rfl

theorem truthy_payload (h : Heap) (m : Making) :
    h.truthy (m.payload h) = h.truthy (m.page h).payload := by
  cases m with
  | smart p =>
    change h.truthy (if h.truthy p.payload then p.payload else .null) = h.truthy p.payload
    split
    · rfl
    · next hfalse => exact (Bool.eq_false_iff.mpr hfalse).symm
  | plain type value val => rfl

/-- Only a payload that counts as false may differ from what the document says. -/
theorem payload_eq_of_truthy {h : Heap} {m : Making} (htrue : h.truthy (m.payload h) = true) :
    m.payload h = (m.page h).payload := by
  rw [truthy_payload] at htrue
  cases m with
  | smart p => exact if_pos htrue
  | plain type value val => rfl

end Making

section Payloads

variable {σ : Type} {w : World σ} {x : Site} {nodes : Value}

theorem value_apply (hx : w.heap.MadeAt x nodes) :
    (Payload.value x.ref : Op σ Value) w = .ok (x.making.payload w.heap) w := by
  rw [Payload.value, bind_of_ok (requireNode_apply hx.isNode "node"), bind_of_ok (heap_apply w),
    hx.attrOrNull_value, hx.attrOrNull_val]
  rfl

/-- Nodes with the same page tell the same payload, unless both payloads count as false. -/
theorem value_agrees {y : Site} {nodes' : Value} (hx : w.heap.MadeAt x nodes)
    (hy : w.heap.MadeAt y nodes') (hpage : x.page w.heap = y.page w.heap) :
    ∃ a b, (Payload.value x.ref : Op σ Value) w = .ok a w ∧
      (Payload.value y.ref : Op σ Value) w = .ok b w ∧
      (w.heap.truthy a = true ∨ w.heap.truthy b = true → a = b) := by
  refine ⟨_, _, value_apply hx, value_apply hy, fun htrue ↦ ?_⟩
  have hsame : w.heap.truthy (x.making.payload w.heap) =
      w.heap.truthy (y.making.payload w.heap) := by
    rw [Making.truthy_payload, Making.truthy_payload]
    exact congrArg (fun p : Page ↦ w.heap.truthy p.payload) hpage
  have hboth : w.heap.truthy (x.making.payload w.heap) = true := htrue.elim id hsame.trans
  rw [Making.payload_eq_of_truthy hboth, Making.payload_eq_of_truthy (hsame.symm.trans hboth)]
  exact congrArg Page.payload hpage

end Payloads

/-! ## Emptiness -/

/-- Whether all trees in a row carry no content, by what is on their pages. -/
def Heap.barren (h : Heap) : Orchard Page → Bool
  | .nil => true
  | .leaf p rest => !h.truthy p.payload && h.barren rest
  | .tree _ below rest => h.barren below && h.barren rest

section Emptiness

variable {σ : Type} {w : World σ} {x : Site} {nodes : Value}

/-- Without a predicate, the children are asked if there are any, and the payload otherwise. -/
theorem isEmpty_apply (hx : w.heap.MadeAt x nodes)
    (hnodes : nodes = .null ∨ (w.heap.sequence? nodes).isSome = true) (call : Caller σ) (n : Nat) :
    Walk.isEmpty call .null (n + 1) x.ref w =
      if nodes ≠ .null then Walk.allEmpty call .null n nodes 0 w
      else .ok (!w.heap.truthy (x.page w.heap).payload) w := by
  have hnode := requireNode_apply hx.isNode "node"
  have hsequence : (requireSequence nodes "node.nodes" true : Op σ Unit) w = .ok () w := by
    rcases hnodes with rfl | hnodes
    · rfl
    · exact requireSequence_apply hnodes _ _
  rw [Walk.isEmpty, bind_of_ok hnode]
  dsimp only
  rw [if_neg (by simp), bind_of_ok (heap_apply w), hx.attrOrNull_nodes, bind_of_ok hsequence]
  split
  · rfl
  · rw [if_neg (by simp), bind_of_ok (value_apply hx), bind_of_ok (heap_apply w),
      Making.truthy_payload]
    rfl

theorem isEmpty_leaf (hx : w.heap.MadeAt x .null) (call : Caller σ) (n : Nat) :
    Walk.isEmpty call .null (n + 1) x.ref w =
      .ok (!w.heap.truthy (x.page w.heap).payload) w := by
  rw [isEmpty_apply hx (.inl rfl), if_neg (by simp)]

/-- A node is as empty as its children are. -/
theorem isEmpty_tree {items : List Value} {answer : Bool} (hx : w.heap.MadeAt x nodes)
    (hnodes : w.heap.sequence? nodes = some items) {call : Caller σ} {n : Nat}
    (hall : Walk.allEmpty call .null n nodes 0 w = .ok answer w) :
    Walk.isEmpty call .null (n + 1) x.ref w = .ok answer w := by
  have hne : nodes ≠ .null := by
    rintro rfl
    cases hnodes
  rw [isEmpty_apply hx (.inr (Option.isSome_of_eq_some hnodes)), if_pos hne, hall]

/-- One tree is asked, and the others only if it is empty. -/
theorem allEmpty_step {items rest : List Value} {index n : Nat} {v : Value} {first others : Bool}
    {call : Caller σ} (hnodes : w.heap.sequence? nodes = some items)
    (hitems : items.drop index = v :: rest) (hfirst : Walk.isEmpty call .null n v w = .ok first w)
    (hothers : Walk.allEmpty call .null n nodes (index + 1) w = .ok others w) :
    Walk.allEmpty call .null (n + 1) nodes index w = .ok (first && others) w := by
  rw [Walk.allEmpty, bind_of_ok (Document.itemAt?_of_sequence hnodes index),
    (Document.drop_eq_cons hitems).1]
  dsimp only
  rw [bind_of_ok hfirst]
  cases first with
  | true => exact hothers
  | false => rfl

/-- A row of trees is as empty as their pages say, from any index in a list or tuple on. The
induction is on the trees. -/
theorem allEmpty_apply (call : Caller σ) (t : Orchard Site) {fuel index : Nat} {nodes : Value}
    {items : List Value} (ht : w.heap.Stands t) (hfuel : t.weight ≤ fuel)
    (hnodes : w.heap.sequence? nodes = some items)
    (hitems : items.drop index = t.roots.map Site.ref) :
    Walk.allEmpty call .null fuel nodes index w =
      .ok (w.heap.barren (t.map (Site.page w.heap))) w := by
  induction t generalizing fuel index nodes items with
  | nil =>
    simp only [Orchard.weight] at hfuel
    obtain ⟨fuel, rfl⟩ : ∃ i, fuel = i + 1 := ⟨fuel - 1, by omega⟩
    have hnone : items[index]? = none := List.getElem?_eq_none (List.drop_eq_nil_iff.mp hitems)
    rw [Walk.allEmpty, bind_of_ok (Document.itemAt?_of_sequence hnodes index), hnone]
    rfl
  | leaf x rest ih =>
    simp only [Orchard.weight] at hfuel
    have hpos := rest.weight_pos
    obtain ⟨fuel, rfl⟩ : ∃ i, fuel = i + 2 := ⟨fuel - 2, by omega⟩
    exact allEmpty_step hnodes hitems (isEmpty_leaf ht.1 call fuel)
      (ih ht.2 (Nat.le_of_succ_le_succ hfuel) hnodes (Document.drop_eq_cons hitems).2)
  | tree x below rest ihbelow ihrest =>
    simp only [Orchard.weight] at hfuel
    have hpos := rest.weight_pos
    obtain ⟨fuel, rfl⟩ : ∃ i, fuel = i + 2 := ⟨fuel - 2, by omega⟩
    have hbelow' : below.weight ≤ fuel := by omega
    have hrest' : rest.weight ≤ fuel + 1 := by omega
    obtain ⟨⟨children, hmade, hchildren⟩, hbelow, hrest⟩ := ht
    exact allEmpty_step hnodes hitems
      (isEmpty_tree hmade hchildren (ihbelow hbelow hbelow' hchildren List.drop_zero))
      (ihrest hrest hrest' hnodes (Document.drop_eq_cons hitems).2)

/-- Corresponding nodes of two trees with the same pages are both empty, or both are not. -/
theorem isEmpty_agrees (call : Caller σ) {α : Type} {f g : α → Site} (z : Orchard α) {n : Nat}
    (hf : w.heap.Stands (z.map f)) (hg : w.heap.Stands (z.map g))
    (hpages : ∀ q ∈ z.labels, (f q).page w.heap = (g q).page w.heap) (hn : z.weight ≤ n) :
    ∀ q ∈ z.labels, ∃ answer, Walk.isEmpty call .null n (f q).ref w = .ok answer w ∧
      Walk.isEmpty call .null n (g q).ref w = .ok answer w := by
  induction z with
  | nil => exact fun q hq ↦ absurd hq List.not_mem_nil
  | leaf x rest ih =>
    simp only [Orchard.weight] at hn
    obtain ⟨hx, hrest⟩ := List.forall_mem_cons.mp hpages
    obtain ⟨n, rfl⟩ : ∃ i, n = i + 1 := ⟨n - 1, by omega⟩
    intro q hq
    rcases List.mem_cons.mp hq with rfl | hq
    · refine ⟨_, isEmpty_leaf hf.1 call n, ?_⟩
      rw [hx]
      exact isEmpty_leaf hg.1 call n
    · exact ih hf.2 hg.2 hrest (Nat.le_of_succ_le hn) q hq
  | tree x below rest ihbelow ihrest =>
    simp only [Orchard.weight] at hn
    have hn' : below.weight + 1 ≤ n ∧ rest.weight ≤ n := by omega
    obtain ⟨-, hlower⟩ := List.forall_mem_cons.mp hpages
    obtain ⟨hbelow, hrest⟩ := List.forall_mem_append.mp hlower
    obtain ⟨⟨nodes, hmade, hnodes⟩, hfbelow, hfrest⟩ := hf
    obtain ⟨⟨nodes', hmade', hnodes'⟩, hgbelow, hgrest⟩ := hg
    intro q hq
    rcases List.mem_cons.mp hq with rfl | hq
    · obtain ⟨n, rfl⟩ : ∃ i, n = i + 1 := ⟨n - 1, by omega⟩
      have hsame : (below.map f).map (Site.page w.heap) = (below.map g).map (Site.page w.heap) := by
        rw [Orchard.map_map, Orchard.map_map]
        exact Orchard.map_congr hbelow
      have hweight : ∀ k : α → Site, (below.map k).weight ≤ n := by
        intro k
        rw [Orchard.weight_map]
        exact Nat.le_of_succ_le_succ hn'.1
      have hfall := allEmpty_apply call _ hfbelow (hweight f) hnodes List.drop_zero
      have hgall := allEmpty_apply call _ hgbelow (hweight g) hnodes' List.drop_zero
      rw [← hsame] at hgall
      exact ⟨_, isEmpty_tree hmade hnodes hfall, isEmpty_tree hmade' hnodes' hgall⟩
    · rcases List.mem_append.mp hq with hq | hq
      · exact ihbelow hfbelow hgbelow hbelow (Nat.le_of_succ_le hn'.1) q hq
      · exact ihrest hfrest hgrest hrest hn'.2 q hq

end Emptiness

/-! ## There and back -/

section ThereAndBack

variable {σ : Type} {w : World σ}

/-- Nodes with the same page are alike in type, payload and emptiness. -/
theorem pairs_agree (call : Caller σ) {z : Orchard (Site × Plant)} {n : Nat}
    (hfirst : w.heap.Stands (z.map Prod.fst)) (hsecond : w.heap.Stands (z.map fun q ↦ q.2.site))
    (hpages : ∀ q ∈ z.labels, q.1.page w.heap = q.2.page) (hn : z.weight ≤ n) :
    ∀ q ∈ z.labels, q.1.making.type = q.2.page.type ∧
      (∃ a b, Payload.value q.1.ref w = .ok a w ∧ Payload.value (.ref q.2.addr) w = .ok b w ∧
        (w.heap.truthy a = true ∨ w.heap.truthy b = true → a = b)) ∧
      ∃ answer, Walk.isEmpty call .null n q.1.ref w = .ok answer w ∧
        Walk.isEmpty call .null n (.ref q.2.addr) w = .ok answer w := by
  intro q hq
  obtain ⟨nodes, hmade⟩ := hfirst.madeAt_of_mem q.1
    (by rw [Orchard.labels_map]; exact List.mem_map_of_mem hq)
  obtain ⟨nodes', hmade'⟩ := hsecond.madeAt_of_mem q.2.site
    (by rw [Orchard.labels_map]; exact List.mem_map_of_mem hq)
  have hvalue := value_agrees hmade hmade' (hpages q hq)
  have hempty := isEmpty_agrees call z hfirst hsecond hpages hn q hq
  have htype : q.1.making.type = q.2.page.type := by
    rw [← Making.page_type w.heap]
    exact congrArg Page.type (hpages q hq)
  exact ⟨htype, hvalue, hempty⟩

/-- A tree of smart and plain nodes with a smart root is dumped, a tree is loaded from its document,
and that tree is dumped in turn. All this succeeds, and both documents are the document of the first
tree. The two trees are the two sides of one tree of pairs, hence have the same shape; the nodes of
each pair have the same type, tell the same payload unless both payloads count as false, and are
both empty or both not. -/
theorem load_dump_preserves_tree (foreign : Caller σ) {t : Orchard Site} {x : Site} {p : Page}
    (ht : w.heap.Stands t) (hroots : t.roots = [x]) (hx : x.making = .smart p) :
    ∃ bound, ∀ n ≥ bound, ∃ u w₁ y w₂ u' w₃, ∃ z : Orchard (Site × Plant),
      invoke foreign n (.method x.addr .toDict) [] [] w = .ok u w₁ ∧
      invoke foreign n .loader [u] [] w₁ = .ok (.ref y) w₂ ∧
      invoke foreign n (.method y .toDict) [] [] w₂ = .ok u' w₃ ∧
      w₃.heap.Shows (t.map (Site.page w.heap)) [u] ∧
      w₃.heap.Shows (t.map (Site.page w.heap)) [u'] ∧
      z.map Prod.fst = t ∧ z.roots.map (fun q ↦ q.2.addr) = [y] ∧
      w₃.heap.Stands (z.map fun q ↦ q.2.site) ∧
      ∀ q ∈ z.labels, q.1.making.type = q.2.page.type ∧
        (∃ a b, Payload.value q.1.ref w₃ = .ok a w₃ ∧
          Payload.value (.ref q.2.addr) w₃ = .ok b w₃ ∧
          (w₃.heap.truthy a = true ∨ w₃.heap.truthy b = true → a = b)) ∧
        ∃ answer, Walk.isEmpty (invoke foreign n) .null n q.1.ref w₃ = .ok answer w₃ ∧
          Walk.isEmpty (invoke foreign n) .null n (.ref q.2.addr) w₃ = .ok answer w₃ := by
  refine ⟨t.weight + 1, fun n hn ↦ ?_⟩
  obtain ⟨u, h₁, hdump, hext₁, hshows⟩ := Document.toDict_apply foreign ht hroots hx hn
  obtain ⟨y, t', h₂, hroots', hload, hloaded, hpages⟩ :=
    Document.loader_of_asks (w := { w with heap := h₁ }) foreign hshows.asks
      (by rw [Orchard.weight_map]; exact hn)
  have hweight : t'.weight = t.weight := by
    rw [← Orchard.weight_map Plant.page, hpages, Orchard.weight_map]
  obtain ⟨u', h₃, hdump', hext₃, hshows'⟩ :=
    Document.toDict_of_loaded (w := { w with heap := h₂ }) foreign hloaded hroots'
      (by rw [hweight]; exact hn)
  have hext : w.heap.Extends h₃ := hext₁.trans (hloaded.extends_heap.trans hext₃)
  have hsame : t.map (Site.page h₃) = t'.map Plant.page := by
    rw [ht.pages_eq hext, hpages]
  rw [hpages] at hshows'
  obtain ⟨z, rfl, rfl, hz⟩ := Orchard.exists_pairing hsame
  have haddr := congrArg (List.map Plant.addr) hroots'
  have hsecond := hloaded.stands.relinked hext₃.relinked
  rw [Orchard.roots_map, List.map_map] at haddr
  rw [Orchard.map_map] at hsecond
  rw [Orchard.weight_map] at hn
  have hagree := pairs_agree (w := { w with heap := h₃ }) (invoke foreign n)
    (ht.relinked hext.relinked) hsecond hz (Nat.le_of_succ_le hn)
  exact ⟨u, _, y.addr, _, u', _, z, hdump, hload, hdump',
    hshows.extend (hloaded.extends_heap.trans hext₃), hshows', rfl, haddr, hsecond, hagree⟩

end ThereAndBack

/-- A smart node with an extra attribute, over plain nodes with children in a tuple and in an empty
list, over a smart leaf with a payload that counts as false. -/
def mixedTree : Orchard Site :=
  .tree ⟨1, .smart ⟨"a", .null, ⟨[("lang", .str "en")], by decide, by decide⟩⟩⟩
    (.tree ⟨3, .plain "b" (.str "") (.str "x")⟩
      (.leaf ⟨6, .smart ⟨"c", .int 0, .none⟩⟩ .nil)
      (.tree ⟨7, .plain "d" .null (.bool false)⟩ .nil .nil))
    .nil

/-- A world with nothing but this tree. -/
def mixedWorld : World Unit where
  heap := ⟨#[some (.list [.str "lang"]),
    some (.entity ⟨.smart, [("type", .str "a"), ("value", .null), ("nodes", .ref 2),
      ("_extra_keys", .ref 0), ("lang", .str "en")], .absent⟩),
    some (.list [.ref 3, .ref 7]),
    some (.entity ⟨.plain, [("type", .str "b"), ("value", .str ""), ("val", .str "x"),
      ("nodes", .ref 4), ("parent", .ref 1)], .absent⟩),
    some (.tuple [.ref 6]),
    some (.list []),
    some (.entity ⟨.smart, [("type", .str "c"), ("value", .int 0), ("nodes", .null),
      ("_extra_keys", .ref 5)], .absent⟩),
    some (.entity ⟨.plain, [("type", .str "d"), ("value", .null), ("val", .bool false),
      ("nodes", .ref 8), ("parent", .ref 1)], .absent⟩),
    some (.list [])]⟩
  client := ()

theorem stands_mixedTree : mixedWorld.heap.Stands mixedTree := by
  have ha : mixedWorld.heap.SmartAt 1
      ⟨"a", .null, ⟨[("lang", .str "en")], by decide, by decide⟩⟩ (.ref 2) _ :=
    ⟨rfl, ⟨.inl rfl, by decide⟩, rfl, rfl, rfl, rfl, rfl, ⟨0, rfl, rfl⟩, by decide⟩
  have hb : mixedWorld.heap.PlainAt 3 "b" (.str "") (.str "x") (.ref 4) _ :=
    ⟨rfl, ⟨.inr rfl, by decide⟩, rfl, rfl, rfl, rfl, rfl, fun _ ↦ Value.noConfusion⟩
  have hc : mixedWorld.heap.SmartAt 6 ⟨"c", .int 0, .none⟩ .null _ :=
    ⟨rfl, ⟨.inl rfl, by decide⟩, rfl, rfl, rfl, rfl, rfl, ⟨5, rfl, rfl⟩, by decide⟩
  have hd : mixedWorld.heap.PlainAt 7 "d" .null (.bool false) (.ref 8) _ :=
    ⟨rfl, ⟨.inr rfl, by decide⟩, rfl, rfl, rfl, rfl, rfl, fun _ ↦ Value.noConfusion⟩
  have hrow : mixedWorld.heap.Stands (.tree ⟨7, .plain "d" .null (.bool false)⟩ .nil .nil) :=
    ⟨⟨_, ⟨_, hd⟩, rfl⟩, trivial, trivial⟩
  exact ⟨⟨_, ⟨_, ha⟩, rfl⟩, ⟨⟨_, ⟨_, hb⟩, rfl⟩, ⟨⟨_, hc⟩, trivial⟩, hrow⟩, trivial⟩

/-- It is dumped, loaded and dumped again. -/
theorem load_dump_mixedTree :
    let foreign : Caller Unit := fun _ _ _ ↦ throw .unsupported
    mixedWorld.heap.Stands mixedTree ∧ mixedTree.labels.map Site.addr = [1, 3, 6, 7] ∧
      ∃ bound, ∀ n ≥ bound, ∃ u w₁ y w₂ u' w₃, ∃ z : Orchard (Site × Plant),
        invoke foreign n (.method 1 .toDict) [] [] mixedWorld = .ok u w₁ ∧
        invoke foreign n .loader [u] [] w₁ = .ok (.ref y) w₂ ∧
        invoke foreign n (.method y .toDict) [] [] w₂ = .ok u' w₃ ∧
        w₃.heap.Shows (mixedTree.map (Site.page mixedWorld.heap)) [u'] ∧
        z.map Prod.fst = mixedTree ∧ ∀ q ∈ z.labels, q.1.making.type = q.2.page.type := by
  intro foreign
  obtain ⟨bound, hround⟩ := load_dump_preserves_tree foreign stands_mixedTree rfl rfl
  refine ⟨stands_mixedTree, rfl, bound, fun n hn ↦ ?_⟩
  obtain ⟨u, w₁, y, w₂, u', w₃, z, hdump, hload, hdump', -, hshows, hz, -, -, hagree⟩ := hround n hn
  exact ⟨u, w₁, y, w₂, u', w₃, z, hdump, hload, hdump', hshows, hz, fun q hq ↦ (hagree q hq).1⟩

end TagTree
