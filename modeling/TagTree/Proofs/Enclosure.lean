import TagTree.Proofs.Sentinels

/-!
# Trees with enclosed children

A grove is a row of trees side by side, given by the addresses of their nodes. This module says how
a grove stands in a heap, and what becomes of its nodes when the children of some of them are
enclosed by sentinels: they keep everything but their children, and those are then between two
sentinels.
-/

namespace TagTree

open Op

/-! ## Groves -/

/-- Trees side by side: the root of the first one, what is below it, and the rest of the row. -/
inductive Grove
  | nil
  | cons (root : Addr) (below rest : Grove)

namespace Grove

def roots : Grove → List Addr
  | nil => []
  | cons a _ rest => a :: rest.roots

/-- All nodes, each before those below it. -/
def nodes : Grove → List Addr
  | nil => []
  | cons a below rest => a :: (below.nodes ++ rest.nodes)

end Grove

/-- A grove stands under a parent: all links go to the right parents, and all children are there in
order. -/
def Heap.Planted (h : Heap) (parent : Value) : Grove → Prop
  | .nil => True
  | .cons a below rest =>
    h.attrOrNull (.ref a) "parent" = parent ∧ h.children (.ref a) = below.roots.map .ref ∧
      h.Planted (.ref a) below ∧ h.Planted parent rest

/-- The parent of each node is the one that the grove stands under, or in the grove. -/
theorem Heap.Planted.parent {h : Heap} {parent : Value} {g : Grove}
    (hplanted : h.Planted parent g) :
    ∀ a ∈ g.nodes, h.attrOrNull (.ref a) "parent" = parent ∨
      ∃ p ∈ g.nodes, h.attrOrNull (.ref a) "parent" = .ref p := by
  induction g generalizing parent with
  | nil => exact fun a ha ↦ absurd ha List.not_mem_nil
  | cons root below rest ihbelow ihrest =>
    obtain ⟨hroot, -, hbelow, hrest⟩ := hplanted
    intro a ha
    simp only [Grove.nodes, List.mem_cons, List.mem_append] at ha ⊢
    rcases ha with rfl | ha | ha
    · exact .inl hroot
    · rcases ihbelow hbelow a ha with hlink | ⟨p, hp, hlink⟩
      · exact .inr ⟨root, .inl rfl, hlink⟩
      · exact .inr ⟨p, .inr (.inl hp), hlink⟩
    · exact (ihrest hrest a ha).imp_right fun ⟨p, hp, hlink⟩ ↦ ⟨p, .inr (.inr hp), hlink⟩

/-- A tree of distinct smart nodes, of which the root has no parent. -/
structure Heap.IsTree (h : Heap) (root : Addr) (below : Grove) : Prop where
  forest : h.Forest (· ∈ root :: below.nodes)
  smart : ∀ a ∈ root :: below.nodes, h.kindAt? a = some .smart
  distinct : (root :: below.nodes).Nodup
  planted : h.Planted .null (.cons root below .nil)

/-! ## Enclosed children -/

/-- What became of some nodes of a heap when the children of those in `W` were enclosed: `op` and
`cl` give the sentinels. -/
structure Enclosed (h₀ h : Heap) (s : Settings) (nodes : List Addr) (W : Addr → Prop)
    (op cl : Addr → Addr) : Prop where
  within : ∀ a, W a → a ∈ nodes
  forest : h.Forest fun a ↦ a ∈ nodes ∨ ∃ b, W b ∧ (a = op b ∨ a = cl b)
  smart : ∀ a ∈ nodes, h.kindAt? a = some .smart
  same : ∀ a ∈ nodes, ∀ name, name ≠ "nodes" → name ≠ "children" →
    h.attrOrNull (.ref a) name = h₀.attrOrNull (.ref a) name
  bare : ∀ a ∈ nodes, ¬ W a → h.children (.ref a) = h₀.children (.ref a)
  fenced : ∀ a, W a →
    h.children (.ref a) = .ref (op a) :: (h₀.children (.ref a) ++ [.ref (cl a)])
  apart : ∀ a, W a → op a ∉ nodes ∧ cl a ∉ nodes
  sentinels : ∀ a, W a → ∀ t, h₀.attrOrNull (.ref a) "type" = .str t →
    h.SentinelAt (op a) a .smart (t ++ s.openSuffix) ∧
      h.SentinelAt (cl a) a .smart (t ++ s.closeSuffix)

section Wrapping

variable {h₀ h : Heap} {s : Settings} {nodes : List Addr} {W : Addr → Prop} {op cl : Addr → Addr}

/-- Before anything is enclosed. -/
theorem enclosed_none (hF : h.Forest (· ∈ nodes)) (hsmart : ∀ a ∈ nodes, h.kindAt? a = some .smart)
    (op cl : Addr → Addr) : Enclosed h h s nodes (fun _ ↦ False) op cl where
  within := fun _ ha ↦ ha.elim
  forest := by simpa using hF
  smart := hsmart
  same := fun _ _ _ _ _ ↦ rfl
  bare := fun _ _ _ ↦ rfl
  fenced := fun _ ha ↦ ha.elim
  apart := fun _ ha ↦ ha.elim
  sentinels := fun _ ha ↦ ha.elim

/-- The children of one more node are enclosed. -/
theorem Enclosed.wrapped (he : Enclosed h₀ h s nodes W op cl) {a : Addr} (ha : a ∈ nodes)
    (hnew : ¬ W a) {t : String} (ht : h₀.attrOrNull (.ref a) "type" = .str t) :
    Enclosed h₀ (h.wrapped .smart a t s) s nodes (fun b ↦ W b ∨ b = a)
      (fun b ↦ if b = a then NodeMaker.smart.address h else op b)
      (fun b ↦ if b = a then NodeMaker.smart.address (h.opened .smart a (t ++ s.openSuffix) .null)
        else cl b) := by
  obtain ⟨e, hat⟩ := he.forest.node a (.inl ha)
  have hopen := NodeMaker.smart.fresh_le_address h
  have hclose : h.fresh ≤ NodeMaker.smart.address (h.opened .smart a (t ++ s.openSuffix) .null) :=
    Nat.le_trans (h.fresh_le_addSentinel _ _ _ _ _)
      (NodeMaker.smart.fresh_le_address (h.opened .smart a (t ++ s.openSuffix) .null))
  have hold : ∀ x, h.fresh ≤ x → x ∉ nodes := by
    intro x hx hmem
    obtain ⟨g, hg⟩ := he.forest.node x (.inl hmem)
    exact absurd (Heap.lt_fresh_of_get? hg.found) (Nat.not_lt.mpr hx)
  have hother : ∀ b, W b → b ≠ a := by
    rintro b hb rfl
    exact hnew hb
  refine ⟨?_, ?_, ?_, ?_, ?_, ?_, ?_, ?_⟩
  · rintro b (hb | rfl)
    · exact he.within b hb
    · exact ha
  · refine (he.forest.wrapped (.inl ha)).mono ?_
    rintro x (hx | ⟨b, hb | rfl, hx⟩)
    · exact .inl (.inl (.inl hx))
    · simp only [if_neg (hother b hb)] at hx
      exact .inl (.inl (.inr ⟨b, hb, hx⟩))
    · simp only [if_pos] at hx
      exact hx.elim (fun hx ↦ .inl (.inr hx)) .inr
  · intro b hb
    obtain ⟨g, hg⟩ := he.forest.node b (.inl hb)
    rw [Heap.kindAt?_wrapped hg hat, he.smart b hb]
  · intro b hb name hn hch
    obtain ⟨g, hg⟩ := he.forest.node b (.inl hb)
    rw [Heap.attrOrNull_wrapped hg hat hn hch, he.same b hb name hn hch]
  · intro b hb hout
    rw [he.forest.children_wrapped_of_ne (.inl ha) (.inl hb) fun heq ↦ hout (.inr heq)]
    exact he.bare b hb fun hW ↦ hout (.inl hW)
  · rintro b (hb | rfl)
    · simp only [if_neg (hother b hb)]
      rw [he.forest.children_wrapped_of_ne (.inl ha) (.inl (he.within b hb)) (hother b hb),
        he.fenced b hb]
    · simp only [if_true]
      rw [Heap.children_wrapped hat, he.bare b ha hnew]
  · rintro b (hb | rfl)
    · simp only [if_neg (hother b hb)]
      exact he.apart b hb
    · simp only [if_true]
      exact ⟨hold _ hopen, hold _ hclose⟩
  · rintro b (hb | rfl) t' ht'
    · -- A sentinel that was there before is not the node that is wrapped now.
      have hne := he.apart b hb
      have hs := he.sentinels b hb t' ht'
      simp only [if_neg (hother b hb)]
      exact ⟨hs.1.wrapped hat fun heq ↦ hne.1 (heq ▸ ha),
        hs.2.wrapped hat fun heq ↦ hne.2 (heq ▸ ha)⟩
    · obtain rfl : t = t' := by simpa [ht] using ht'
      simp only [if_true]
      obtain ⟨hopened, hclosed⟩ := Heap.fenceAt_wrapped hat .smart t s
      exact ⟨hopened.toSentinelAt, hclosed.toSentinelAt⟩

/-- Objects that come later change nothing. -/
theorem Enclosed.extend {h' : Heap} (he : Enclosed h₀ h s nodes W op cl) (hx : h.Extends h') :
    Enclosed h₀ h' s nodes W op cl where
  within := he.within
  forest := he.forest.extend hx
  smart := fun a ha ↦ by
    obtain ⟨e, hat⟩ := he.forest.node a (.inl ha)
    rw [← he.smart a ha, Heap.kindAt?_congr (hx.same a (Heap.lt_fresh_of_get? hat.found))]
  same := fun a ha name hn hch ↦ by
    obtain ⟨e, hat⟩ := he.forest.node a (.inl ha)
    rw [hx.attrOrNull hat, he.same a ha name hn hch]
  bare := fun a ha hW ↦ by
    obtain ⟨e, hat⟩ := he.forest.node a (.inl ha)
    rw [hx.children hat, he.bare a ha hW]
  fenced := fun a hW ↦ by
    obtain ⟨e, hat⟩ := he.forest.node a (.inl (he.within a hW))
    rw [hx.children hat, he.fenced a hW]
  apart := he.apart
  sentinels := fun a hW t ht ↦
    ⟨(he.sentinels a hW t ht).1.extend hx, (he.sentinels a hW t ht).2.extend hx⟩

end Wrapping

/-- Encloses the children of several nodes by smart sentinels, one node after the other. -/
def wrapAll {σ : Type} (call : Caller σ) : List Addr → Op σ Unit
  | [] => pure ()
  | a :: rest => do
    let _ ← Sentinel.wrap call (.ref a) (.maker .smart) .null
    wrapAll call rest

section Runs

variable {σ : Type} {w : World σ} {h₀ : Heap} {s : Settings} {nodes : List Addr}
  {W : Addr → Prop} {op cl : Addr → Addr}

theorem Enclosed.wrap_gives (foreign : Caller σ) (fuel : Nat) (hs : w.Uses s)
    (he : Enclosed h₀ w.heap s nodes W op cl) {a : Addr} (ha : a ∈ nodes) (hnew : ¬ W a)
    {t : String} (ht : h₀.attrOrNull (.ref a) "type" = .str t) :
    ∃ h op' cl', (Sentinel.wrap (invoke foreign (fuel + 2)) (.ref a) (.maker .smart) .null).Gives w
        (.ref a) h ∧ w.heap.KeepsSettings h ∧
      Enclosed h₀ h s nodes (fun b ↦ W b ∨ b = a) op' cl' := by
  obtain ⟨e, hat⟩ := he.forest.node a (.inl ha)
  have ht' : w.heap.attrOrNull (.ref a) "type" = .str t :=
    (he.same a ha "type" (by decide) (by decide)).trans ht
  exact ⟨_, _, _, Sentinel.wrap_gives foreign fuel .smart hs hat ht',
    Heap.keepsSettings_wrapped hat, he.wrapped ha hnew ht⟩

/-- Enclosing the children of several nodes succeeds and encloses the children of each of them. -/
theorem Enclosed.wrapAll_gives (foreign : Caller σ) (fuel : Nat) (ws : List Addr)
    (hs : w.Uses s) (he : Enclosed h₀ w.heap s nodes W op cl)
    (htext : ∀ a ∈ nodes, ∃ t, h₀.attrOrNull (.ref a) "type" = .str t)
    (hsub : ws ⊆ nodes) (hnew : ∀ a ∈ ws, ¬ W a) (hnodup : ws.Nodup) :
    ∃ h op' cl', (wrapAll (invoke foreign (fuel + 2)) ws).Gives w () h ∧ w.heap.KeepsSettings h ∧
      Enclosed h₀ h s nodes (fun b ↦ W b ∨ b ∈ ws) op' cl' := by
  induction ws generalizing w W op cl with
  | nil => exact ⟨w.heap, op, cl, ⟨w.log, rfl⟩, .refl _, by simpa using he⟩
  | cons a rest ih =>
    have ha : a ∈ nodes := hsub List.mem_cons_self
    obtain ⟨t, ht⟩ := htext a ha
    obtain ⟨h₁, op₁, cl₁, ⟨log, hwrap⟩, hkeeps, he₁⟩ :=
      he.wrap_gives foreign fuel hs ha (hnew a List.mem_cons_self) ht
    obtain ⟨hfirst, hrest⟩ := List.nodup_cons.mp hnodup
    have hnew₁ : ∀ b ∈ rest, ¬ (W b ∨ b = a) := by
      rintro b hb (hW | rfl)
      · exact hnew b (List.mem_cons_of_mem _ hb) hW
      · exact hfirst hb
    obtain ⟨h, op', cl', ⟨log', hgives⟩, hkeeps', he'⟩ :=
      ih (hs.of_keepsSettings hkeeps log) he₁ (fun b hb ↦ hsub (List.mem_cons_of_mem _ hb)) hnew₁
        hrest
    refine ⟨h, op', cl', ⟨log', ?_⟩, hkeeps.trans hkeeps', ?_⟩
    · rw [wrapAll, bind_of_ok hwrap, hgives]
    · simpa only [List.mem_cons, or_assoc] using he'

end Runs

end TagTree
