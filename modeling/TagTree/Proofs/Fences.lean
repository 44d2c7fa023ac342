import TagTree.Proofs.Emptiness
import TagTree.Proofs.Sentinels

/-!
# Fences around fences

When the children of a node are enclosed several times, they are between as many open and close
sentinels, the later ones around the earlier ones. This module says what the heap looks like then:
the sentinels are new, empty and in their places, and nothing else has changed but the children of
the node.
-/

namespace TagTree

open Op

/-! ## Changes to the children of one node -/

namespace Heap

/-- There may be new objects, and one node may have other children in the list that it has, or in a
new list if it has none. Everything else is the same. -/
structure OnlyChildren (h h' : Heap) (p : Addr) : Prop where
  grows : h.fresh ≤ h'.fresh
  same : ∀ a, a < h.fresh → a ≠ p → .ref a ≠ h.attrOrNull (.ref p) "nodes" → h'.get? a = h.get? a
  owner : ∀ e, h.get? p = some (.entity e) → ∃ e', h'.get? p = some (.entity e') ∧
    e'.kind = e.kind ∧ e'.parent = e.parent ∧
    ∀ name, name ≠ "nodes" → Table.get? e'.attrs name = Table.get? e.attrs name
  place : h'.attrOrNull (.ref p) "nodes" = h.attrOrNull (.ref p) "nodes" ∨
    h.attrOrNull (.ref p) "nodes" = .null ∧
      ∃ l, h.fresh ≤ l ∧ h'.attrOrNull (.ref p) "nodes" = .ref l
  list : ∀ l items, h.attrOrNull (.ref p) "nodes" = .ref l → h.get? l = some (.list items) →
    ∃ items', h'.get? l = some (.list items')

section Changing

variable {h h' h'' : Heap} {p : Addr} {e : Entity} {m : NodeMaker} {type t : String}
  {payload : Value} {items : List Value} {s : Settings}

theorem Extends.onlyChildren (hx : h.Extends h') (hp : h.NodeAt p e) : h.OnlyChildren h' p where
  grows := hx.grows
  same := fun a ha _ _ ↦ hx.same a ha
  owner := fun e he ↦ ⟨e, hx.found he, rfl, rfl, fun _ _ ↦ rfl⟩
  place := .inl (hx.attrOrNull hp "nodes")
  list := fun _ items _ hl ↦ ⟨items, hx.found hl⟩

/-- The list of a node stays where it is, once there is one. -/
theorem OnlyChildren.place_of_list (hc : h.OnlyChildren h' p) {l : Addr}
    (hl : h.attrOrNull (.ref p) "nodes" = .ref l) : h'.attrOrNull (.ref p) "nodes" = .ref l := by
  rcases hc.place with hsame | ⟨hnull, -⟩
  · rw [hsame, hl]
  · rw [hl] at hnull
    cases hnull

theorem OnlyChildren.trans (h₁ : h.OnlyChildren h' p) (h₂ : h'.OnlyChildren h'' p) :
    h.OnlyChildren h'' p where
  grows := Nat.le_trans h₁.grows h₂.grows
  same := by
    intro a ha hap hal
    have hal' : .ref a ≠ h'.attrOrNull (.ref p) "nodes" := by
      rcases h₁.place with hsame | ⟨-, l, hl, hnew⟩
      · rw [hsame]
        exact hal
      · rw [hnew]
        intro heq
        exact absurd ha (Nat.not_lt.mpr (Value.ref.inj heq ▸ hl))
    rw [h₂.same a (Nat.lt_of_lt_of_le ha h₁.grows) hap hal', h₁.same a ha hap hal]
  owner := by
    intro e he
    obtain ⟨e₁, he₁, hk₁, hl₁, ha₁⟩ := h₁.owner e he
    obtain ⟨e₂, he₂, hk₂, hl₂, ha₂⟩ := h₂.owner e₁ he₁
    refine ⟨e₂, he₂, hk₂.trans hk₁, hl₂.trans hl₁, fun name hn ↦ ?_⟩
    rw [ha₂ name hn, ha₁ name hn]
  place := by
    rcases h₁.place with hsame | ⟨hnull, l, hl, hnew⟩
    · rcases h₂.place with hsame' | ⟨hnull', l, hl, hnew⟩
      · exact .inl (hsame'.trans hsame)
      · exact .inr ⟨hsame.symm.trans hnull', l, Nat.le_trans h₁.grows hl, hnew⟩
    · exact .inr ⟨hnull, l, hl, h₂.place_of_list hnew⟩
  list := by
    intro l items hl hitems
    obtain ⟨items', hitems'⟩ := h₁.list l items hl hitems
    exact h₂.list l items' (h₁.place_of_list hl) hitems'

theorem NodeAt.onlyChildren_setChildren (hp : h.NodeAt p e) (items : List Value) :
    h.OnlyChildren (h.setChildren p items) p := by
  rcases hp.nodes_cases with hnull | ⟨l, old, hl, hold⟩
  · have hself := get?_setChildren_self hp.found hnull items
    refine ⟨fresh_le_setChildren h p items, ?_, ?_, .inr ⟨hnull, h.fresh, Nat.le_refl _, ?_⟩, ?_⟩
    · intro a ha hap _
      exact get?_setChildren_of_ne hp.found hnull items (Nat.ne_of_lt ha) hap
    · intro e' he'
      cases hp.found.symm.trans he'
      exact ⟨_, hself, rfl, rfl, fun name hn ↦ Table.get?_put_of_ne hn _ _⟩
    · exact attrOrNull_nodes_setChildren_first hp.found hnull hp.genuine items
    · intro l old hl
      rw [hnull] at hl
      cases hl
  · have hpl : p ≠ l := by
      rintro rfl
      simp [hp.found] at hold
    rw [setChildren_of_list hl]
    refine ⟨by simp, ?_, ?_, .inl ?_, ?_⟩
    · intro a _ _ hal
      refine get?_put_of_ne _ fun hal' ↦ hal ?_
      rw [hal', hl]
    · intro e' he'
      exact ⟨e', (get?_put_of_ne _ hpl).trans he', rfl, rfl, fun _ _ ↦ rfl⟩
    · rw [attrOrNull, attr?_put_list hold]
      rfl
    · intro l' old' hl' _
      obtain rfl : l = l' := Value.ref.inj (hl.symm.trans hl')
      exact ⟨items, get?_put_self (lt_fresh_of_get? hold)⟩

/-- A new object that is told about its parent is still a new object. -/
theorem extends_link (hx : h.Extends h') {c : Addr} (hc : h.fresh ≤ c) (p : Addr) :
    h.Extends (h'.link c p) where
  grows := by
    rw [fresh_link]
    exact hx.grows
  same := by
    intro a ha
    rw [get?_link_of_ne c p (Nat.ne_of_lt (Nat.lt_of_lt_of_le ha hc)), hx.same a ha]

theorem onlyChildren_addSentinel (hp : h.NodeAt p e) :
    h.OnlyChildren (h.addSentinel m p type payload items) p := by
  have hmade : h.Extends ((m.made h type (sentinelValue payload)).link (m.address h) p) :=
    extends_link (m.extends_made _ _ _) (m.fresh_le_address h) p
  have hp' := hp.extend hmade
  exact (hmade.onlyChildren hp).trans (hp'.onlyChildren_setChildren items)

theorem onlyChildren_wrapped (hp : h.NodeAt p e) : h.OnlyChildren (h.wrapped m p t s) p := by
  obtain ⟨e', hp'⟩ := nodeAt_opened hp hp m (t ++ s.openSuffix)
  have hopened : h.OnlyChildren (h.opened m p (t ++ s.openSuffix) .null) p :=
    onlyChildren_addSentinel hp
  exact hopened.trans (onlyChildren_addSentinel hp')

end Changing

/-! ## Sentinels without content -/

section Fences

variable {h : Heap} {a p : Addr} {k : Kind} {type : String}

theorem FenceAt.lt_fresh (ha : h.FenceAt a p k type) : a < h.fresh := by
  obtain ⟨f, hf⟩ := ha.node
  exact lt_fresh_of_get? hf.found

theorem FenceAt.isNode (ha : h.FenceAt a p k type) : h.isNode (.ref a) = true := by
  obtain ⟨f, hf⟩ := ha.node
  exact isNode_of_genuine hf.found hf.genuine

/-- Such a sentinel is an empty leaf. -/
theorem FenceAt.sight (ha : h.FenceAt a p k type) : h.sight (.ref a) = .said (.ok true) := by
  rw [sight_of_null ha.isNode ha.nodes, payload, ha.value, ha.val]
  rfl

end Fences

/-! ## Fences around fences -/

/-- What became of a heap when a node was wrapped several times: `pairs` are the sentinels that were
added, in the order in which they were made. -/
structure Fenced (h₀ h : Heap) (m : NodeMaker) (p : Addr) (t : String) (s : Settings)
    (pairs : List (Addr × Addr)) : Prop where
  frame : h₀.OnlyChildren h p
  settings : h₀.KeepsSettings h
  node : ∃ e, h.NodeAt p e
  self : ∀ name, name ≠ "nodes" → name ≠ "children" →
    h.attrOrNull (.ref p) name = h₀.attrOrNull (.ref p) name
  children : h.children (.ref p) =
    (pairs.map fun x ↦ .ref x.1).reverse ++ h₀.children (.ref p) ++ pairs.map fun x ↦ .ref x.2
  opens : ∀ x ∈ pairs, h.FenceAt x.1 p m.kind (t ++ s.openSuffix)
  closes : ∀ x ∈ pairs, h.FenceAt x.2 p m.kind (t ++ s.closeSuffix)
  order : (pairs.flatMap fun x ↦ [x.1, x.2]).Pairwise (· < ·)
  new : ∀ x ∈ pairs, h₀.fresh ≤ x.1 ∧ h₀.fresh ≤ x.2

section Fencing

variable {h₀ h : Heap} {m : NodeMaker} {p : Addr} {e : Entity} {t : String} {s : Settings}
  {pairs : List (Addr × Addr)}

theorem fenced_nil (hp : h.NodeAt p e) (m : NodeMaker) (t : String) (s : Settings) :
    Fenced h h m p t s [] where
  frame := Extends.onlyChildren ⟨Nat.le_refl _, fun _ _ ↦ rfl⟩ hp
  settings := .refl h
  node := ⟨e, hp⟩
  self := fun _ _ _ ↦ rfl
  children := by simp
  opens := by simp
  closes := by simp
  order := by simp
  new := by simp

theorem Fenced.lt_fresh (hf : Fenced h₀ h m p t s pairs) {a : Addr}
    (ha : a ∈ pairs.flatMap fun x ↦ [x.1, x.2]) : a < h.fresh := by
  simp only [List.mem_flatMap, List.mem_cons, List.not_mem_nil, or_false] at ha
  obtain ⟨x, hx, rfl | rfl⟩ := ha
  · exact (hf.opens x hx).lt_fresh
  · exact (hf.closes x hx).lt_fresh

/-- The node is wrapped once more. -/
theorem Fenced.wrapped (hf : Fenced h₀ h m p t s pairs) (hp₀ : p < h₀.fresh) :
    Fenced h₀ (h.wrapped m p t s) m p t s
      (pairs ++ [(m.address h, m.address (h.opened m p (t ++ s.openSuffix) .null))]) := by
  obtain ⟨e, hp⟩ := hf.node
  obtain ⟨e', hp'⟩ := nodeAt_opened hp hp m (t ++ s.openSuffix)
  obtain ⟨hopen, hclose⟩ := fenceAt_wrapped hp m t s
  have hopened : (h.opened m p (t ++ s.openSuffix) .null).FenceAt (m.address h) p m.kind
      (t ++ s.openSuffix) := fenceAt_addSentinel hp
  have hfresh := m.fresh_le_address h
  -- The close sentinel is made after the open one.
  have hlater : m.address h < m.address (h.opened m p (t ++ s.openSuffix) .null) :=
    Nat.lt_of_lt_of_le hopened.lt_fresh (m.fresh_le_address _)
  have hne : ∀ {a}, h₀.fresh ≤ a → a ≠ p := fun ha ↦ Nat.ne_of_gt (Nat.lt_of_lt_of_le hp₀ ha)
  refine ⟨hf.frame.trans (onlyChildren_wrapped hp), hf.settings.trans (keepsSettings_wrapped hp),
    nodeAt_addSentinel hp' hp', ?_, ?_, ?_, ?_, ?_, ?_⟩
  · intro name hn hch
    rw [attrOrNull_wrapped hp hp hn hch, hf.self name hn hch]
  · rw [children_wrapped hp, hf.children]
    simp
  · intro x hx
    rcases List.mem_append.mp hx with hx | hx
    · exact (hf.opens x hx).wrapped hp (hne (hf.new x hx).1)
    · rw [List.mem_singleton.mp hx]
      exact hopen
  · intro x hx
    rcases List.mem_append.mp hx with hx | hx
    · exact (hf.closes x hx).wrapped hp (hne (hf.new x hx).2)
    · rw [List.mem_singleton.mp hx]
      exact hclose
  · rw [List.flatMap_append, List.pairwise_append]
    refine ⟨hf.order, by simpa using hlater, fun a ha b hb ↦ ?_⟩
    have hold := hf.lt_fresh ha
    simp only [List.flatMap_cons, List.flatMap_nil, List.append_nil, List.mem_cons,
      List.not_mem_nil, or_false] at hb
    rcases hb with rfl | rfl
    · exact Nat.lt_of_lt_of_le hold hfresh
    · calc
        a < h.fresh := hold
        _ ≤ m.address h := hfresh
        _ < _ := hlater
  · intro x hx
    rcases List.mem_append.mp hx with hx | hx
    · exact hf.new x hx
    · rw [List.mem_singleton.mp hx]
      have hnew := Nat.le_trans hf.frame.grows hfresh
      exact ⟨hnew, Nat.le_trans hnew (Nat.le_of_lt hlater)⟩

end Fencing

end Heap

end TagTree
