import TagTree.Collect
import TagTree.Proofs.Blocks
import TagTree.Proofs.Fences

/-!
# Wrapping a node again and again

A node that is wrapped several times has its children between as many open and close sentinels.
Nothing else happens to anything that was there before. The node is a block then, and carries
content just if it did before: sentinels carry none. Only a node without children whose payload
counts as content loses it to its sentinels.
-/

namespace TagTree

open Op

namespace Heap

/-! ## What others are seen to be -/

/-- No reference and no link leads to an address that was not given out. -/
structure Grounded (h : Heap) : Prop where
  targets : ∀ a, ∀ b ∈ h.targets a, b < h.fresh
  links : ∀ a e q, h.get? a = some (.entity e) → e.parent = .weak q → q < h.fresh

/-- No other object refers to the list that a node has its children in. -/
def Unshared (h : Heap) (p : Addr) : Prop :=
  ∀ l a, h.attrOrNull (.ref p) "nodes" = .ref l → l ∈ h.targets a → a = p

/-- What an object refers to by an attribute, other than its parent, it keeps alive. -/
theorem mem_targets_of_attr? {h : Heap} {a b : Addr} {name : String} (hname : name ≠ "parent")
    (hb : h.attr? (.ref a) name = some (.ref b)) : b ∈ h.targets a := by
  unfold attr? at hb
  cases hget : h.get? a with
  | none => simp [hget] at hb
  | some o =>
    cases o with
    | entity e =>
      simp only [hget] at hb
      rcases entityAttr?_cases hname hb with ⟨other, -, hattr⟩ | ⟨-, hmember⟩ | hb | hb
      · have hmem : b ∈ e.attrs.filterMap (·.2.target?) :=
          List.mem_filterMap.mpr ⟨_, mem_of_lookup hattr, rfl⟩
        simp only [Heap.targets, hget, Option.map_some, Option.getD_some, Object.targets,
          List.mem_append]
        exact .inl (.inr hmem)
      · -- What comes with the kind is no reference.
        unfold smartMember? at hmember
        split at hmember
        · cases hmember
        · split at hmember
          · cases hmember
          · simp at hmember
      · cases hb
      · cases hb
    | _ => simp [hget] at hb

section Others

variable {h h' : Heap} {a p : Addr} {e : Entity} {v x : Value}

/-- A value that is not the list of children of a node, and does not lead to nowhere. -/
def Apart (h : Heap) (p : Addr) (x : Value) : Prop :=
  ∀ b, x = .ref b → b < h.fresh ∧ .ref b ≠ h.attrOrNull (.ref p) "nodes"

variable (hc : h.OnlyChildren h' p) (hp : h.NodeAt p e)
include hc hp

/-- What is not the list of children is the same, or it is the node. -/
theorem OnlyChildren.get?_of_apart (ha : h.Apart p (.ref a)) :
    h'.get? a = h.get? a ∨
      ∃ f f', h.get? a = some (.entity f) ∧ h'.get? a = some (.entity f') := by
  obtain ⟨hlt, hne⟩ := ha a rfl
  by_cases hap : a = p
  · subst hap
    obtain ⟨e', he', -⟩ := hc.owner e hp.found
    exact .inr ⟨e, e', hp.found, he'⟩
  · exact .inl (hc.same a hlt hap hne)

theorem OnlyChildren.truthy_eq (hx : h.Apart p x) : h'.truthy x = h.truthy x := by
  cases x with
  | ref b =>
    rcases hc.get?_of_apart hp hx with hsame | ⟨f, f', hf, hf'⟩
    · simp [truthy, hsame]
    · simp [truthy, hf, hf']
  | _ => rfl

theorem OnlyChildren.sequence?_eq (hx : h.Apart p x) : h'.sequence? x = h.sequence? x := by
  cases x with
  | ref b =>
    rcases hc.get?_of_apart hp hx with hsame | ⟨f, f', hf, hf'⟩
    · simp [sequence?, object?, hsame]
    · simp [sequence?, object?, hf, hf']
  | _ => rfl

/-- Any other object is the same, or it is the list of children. -/
theorem OnlyChildren.get?_cases (ha : a < h.fresh) (hap : a ≠ p) :
    h'.get? a = h.get? a ∨
      ∃ items items', h.get? a = some (.list items) ∧ h'.get? a = some (.list items') := by
  by_cases hal : .ref a = h.attrOrNull (.ref p) "nodes"
  · rcases hp.nodes_cases with hnull | ⟨l, items, hl, hitems⟩
    · rw [hnull] at hal
      cases hal
    · rw [hl] at hal
      cases hal
      obtain ⟨items', hitems'⟩ := hc.list a items hl hitems
      exact .inr ⟨items, items', hitems, hitems'⟩
  · exact .inl (hc.same a ha hap hal)

theorem OnlyChildren.attr?_eq {name : String} (ha : a < h.fresh) (hap : a ≠ p)
    (hname : name ≠ "parent") : h'.attr? (.ref a) name = h.attr? (.ref a) name := by
  rcases hc.get?_cases hp ha hap with hsame | ⟨items, items', hitems, hitems'⟩
  · exact attr?_congr hsame hname
  · simp [attr?, hitems, hitems']

variable (hg : h.Grounded) (hown : h.Unshared p)
include hg hown

omit hc hp in
theorem apart_attrOrNull (hap : a ≠ p) (name : String) (hname : name ≠ "parent") :
    h.Apart p (h.attrOrNull (.ref a) name) := by
  intro b hb
  have hattr : h.attr? (.ref a) name = some (.ref b) := by
    unfold attrOrNull at hb
    cases hx : h.attr? (.ref a) name with
    | none =>
      rw [hx] at hb
      cases hb
    | some x =>
      rw [hx] at hb
      exact congrArg some hb
  have hmem := mem_targets_of_attr? hname hattr
  exact ⟨hg.targets a b hmem, fun hl ↦ hap (hown b a hl.symm hmem)⟩

theorem OnlyChildren.isNode_eq (ha : a < h.fresh) (hap : a ≠ p) :
    h'.isNode (.ref a) = h.isNode (.ref a) := by
  have hmark := apart_attrOrNull hg hown hap "is_node" (by decide)
  unfold isNode
  dsimp only
  rw [hc.attr?_eq hp ha hap (by decide)]
  cases hx : h.attr? (.ref a) "is_node" with
  | none => rfl
  | some x =>
    rw [attrOrNull, hx] at hmark
    exact hc.truthy_eq hp hmark

theorem OnlyChildren.payload_eq (ha : a < h.fresh) (hap : a ≠ p) :
    h'.truthy (h'.payload (.ref a)) = h.truthy (h.payload (.ref a)) := by
  have hread : ∀ name, name ≠ "parent" →
      h'.attrOrNull (.ref a) name = h.attrOrNull (.ref a) name := by
    intro name hname
    rw [attrOrNull, hc.attr?_eq hp ha hap hname, attrOrNull]
  have htruthy : ∀ name, name ≠ "parent" →
      h'.truthy (h.attrOrNull (.ref a) name) = h.truthy (h.attrOrNull (.ref a) name) := by
    intro name hname
    exact hc.truthy_eq hp (apart_attrOrNull hg hown hap name hname)
  have hvalue := htruthy "value" (by decide)
  have hval := htruthy "val" (by decide)
  unfold payload
  rw [hread "value" (by decide), hread "val" (by decide), hvalue]
  split
  · exact hvalue
  · exact hval

/-- Everything that was there looks the same as before, except for the node itself. -/
theorem OnlyChildren.sight_eq (hv : ∀ a, v = .ref a → a < h.fresh) (hvp : v ≠ .ref p) :
    h'.sight v = h.sight v := by
  cases v with
  | ref a =>
    have ha := hv a rfl
    have hap : a ≠ p := fun hap ↦ hvp (by rw [hap])
    have hnodes : h'.attrOrNull (.ref a) "nodes" = h.attrOrNull (.ref a) "nodes" := by
      rw [attrOrNull, hc.attr?_eq hp ha hap (by decide), attrOrNull]
    have hitems := hc.sequence?_eq hp (apart_attrOrNull hg hown hap "nodes" (by decide))
    unfold sight
    rw [hc.isNode_eq hp hg hown ha hap, hnodes, hitems, hc.payload_eq hp hg hown ha hap]
  | _ => rfl

end Others

section Parents

variable {h h' : Heap} {a p q : Addr} {e e' : Entity}

theorem OnlyChildren.isSome_get? (hc : h.OnlyChildren h' p) (hp : h.NodeAt p e)
    (hq : q < h.fresh) : (h'.get? q).isSome = (h.get? q).isSome := by
  by_cases hqp : q = p
  · subst hqp
    obtain ⟨e', he', -⟩ := hc.owner e hp.found
    rw [he', hp.found]
    rfl
  · rcases hc.get?_cases hp hq hqp with hsame | ⟨items, items', hitems, hitems'⟩
    · rw [hsame]
    · rw [hitems, hitems']
      rfl

/-- Objects that agree in everything that can tell about a parent have the same one. -/
theorem attrOrNull_parent_congr (ha : h.get? a = some (.entity e))
    (ha' : h'.get? a = some (.entity e')) (hkind : e'.kind = e.kind) (hlink : e'.parent = e.parent)
    (hattr : Table.get? e'.attrs "parent" = Table.get? e.attrs "parent")
    (hlive : ∀ q, e.parent = .weak q → (h'.get? q).isSome = (h.get? q).isSome) :
    h'.attrOrNull (.ref a) "parent" = h.attrOrNull (.ref a) "parent" := by
  have htarget : e.parent.target h' = e.parent.target h := by
    cases hparent : e.parent with
    | weak q => simp only [Link.target, hlive q hparent]
    | _ => rfl
  rw [attrOrNull, attr?_entity ha', attrOrNull, attr?_entity ha]
  unfold entityAttr?
  rw [hkind, hlink, hattr, htarget]
  rfl

/-- Links to parents lead to the same nodes as before. -/
theorem OnlyChildren.parent_eq (hc : h.OnlyChildren h' p) (hp : h.NodeAt p e) (hg : h.Grounded)
    (ha : a < h.fresh) : h'.attrOrNull (.ref a) "parent" = h.attrOrNull (.ref a) "parent" := by
  have hlive : ∀ {b f}, h.get? b = some (.entity f) → ∀ q, f.parent = .weak q →
      (h'.get? q).isSome = (h.get? q).isSome :=
    fun hb q hq ↦ hc.isSome_get? hp (hg.links _ _ q hb hq)
  by_cases hap : a = p
  · subst hap
    obtain ⟨e', he', hkind, hlink, hattrs⟩ := hc.owner e hp.found
    exact attrOrNull_parent_congr hp.found he' hkind hlink (hattrs _ (by decide)) (hlive hp.found)
  · rcases hc.get?_cases hp ha hap with hsame | ⟨items, items', hitems, hitems'⟩
    · cases hget : h.get? a with
      | none => simp [attrOrNull, attr?, hsame, hget]
      | some o =>
        rw [hget] at hsame
        cases o with
        | entity f => exact attrOrNull_parent_congr hget hsame rfl rfl rfl (hlive hget)
        | _ => simp [attrOrNull, attr?, hsame, hget]
    · simp [attrOrNull, attr?, hitems, hitems']

end Parents

/-! ## Content -/

section Content

variable {h₀ h : Heap} {m : NodeMaker} {p : Addr} {e : Entity} {t : String} {s : Settings}
  {pairs : List (Addr × Addr)} {answer : Except Fault Bool}

theorem NodeAt.sight_of_listed (hp : h.NodeAt p e)
    (hnodes : h.attrOrNull (.ref p) "nodes" ≠ .null) :
    h.sight (.ref p) = .inner (h.children (.ref p)) := by
  rcases hp.nodes_cases with hnull | ⟨l, items, hl, hitems⟩
  · exact absurd hnull hnodes
  · rw [children_of_list hl hitems]
    apply sight_of_sequence (isNode_of_genuine hp.found hp.genuine)
    simp [hl, sequence?, object?, hitems]

theorem Grounded.items (hg : h.Grounded) {x : Value} {items : List Value}
    (hx : h.sequence? x = some items) : ∀ y ∈ items, ∀ b, y = .ref b → b < h.fresh := by
  rintro y hy b rfl
  cases x with
  | ref a =>
    apply hg.targets a
    have hmem : b ∈ items.filterMap Value.target? := List.mem_filterMap.mpr ⟨_, hy, rfl⟩
    unfold sequence? at hx
    split at hx
    · next hget =>
      cases hx
      simpa [Heap.targets, show h.get? a = _ from hget, Object.targets] using hmem
    · next hget =>
      cases hx
      simpa [Heap.targets, show h.get? a = _ from hget, Object.targets] using hmem
    · cases hx
  | _ => cases hx

section Fenced

variable (hf : Fenced h₀ h m p t s pairs) (hp : h₀.NodeAt p e)
include hf

theorem Fenced.allBlank_opens : AllBlank h.sight (pairs.map fun x ↦ .ref x.1).reverse := by
  intro v hv
  obtain ⟨x, hx, rfl⟩ := List.mem_map.mp (List.mem_reverse.mp hv)
  exact (hf.opens x hx).sight

theorem Fenced.allBlank_closes : AllBlank h.sight (pairs.map fun x ↦ .ref x.2) := by
  intro v hv
  obtain ⟨x, hx, rfl⟩ := List.mem_map.mp hv
  exact (hf.closes x hx).sight

/-- Once a node is wrapped, it has a list of children. -/
theorem Fenced.nodes_ne_null (hpairs : pairs ≠ []) : h.attrOrNull (.ref p) "nodes" ≠ .null := by
  intro hnull
  have hchildren := hf.children
  rw [children_of_null hnull] at hchildren
  simp [hpairs] at hchildren

/-- A node without children has nothing but empty leaves below it when it is wrapped. -/
theorem Fenced.judged_iff_of_null (hnull : h₀.attrOrNull (.ref p) "nodes" = .null)
    (hpairs : pairs ≠ []) : Judged h.sight (.ref p) answer ↔ answer = .ok true := by
  obtain ⟨e', hp'⟩ := hf.node
  have hchildren : AllBlank h.sight (h.children (.ref p)) := by
    rw [hf.children, children_of_null hnull, List.append_nil]
    intro v hv
    rcases List.mem_append.mp hv with hv | hv
    · exact hf.allBlank_opens v hv
    · exact hf.allBlank_closes v hv
  rw [judged_of_inner (hp'.sight_of_listed (hf.nodes_ne_null hpairs)),
    verdict_of_allBlank_iff hchildren]

include hp

/-- A node with a list of children is judged like before. -/
theorem Fenced.judged_iff_of_listed (hnodes : h₀.attrOrNull (.ref p) "nodes" ≠ .null)
    (hg : h₀.Grounded) (hown : h₀.Unshared p) :
    Judged h₀.sight (.ref p) answer ↔ Judged h.sight (.ref p) answer := by
  obtain ⟨e', hp'⟩ := hf.node
  have hnodes' : h.attrOrNull (.ref p) "nodes" ≠ .null := by
    rcases hf.frame.place with hsame | ⟨hnull, -⟩
    · rw [hsame]
      exact hnodes
    · exact absurd hnull hnodes
  have hpad : Padded h₀.sight h.sight (fun v ↦ ∀ a, v = .ref a → a < h₀.fresh) (.ref p)
      (pairs.map fun x ↦ .ref x.1).reverse (h₀.children (.ref p)) (pairs.map fun x ↦ .ref x.2) := {
    same := fun v hv hvp ↦ hf.frame.sight_eq hp hg hown hv hvp
    below := fun v items _ hv ↦ hg.items (sequence?_of_sight hv)
    before := hp.sight_of_listed hnodes
    after := by rw [hp'.sight_of_listed hnodes', hf.children]
    front := hf.allBlank_opens
    back := hf.allBlank_closes }
  apply hpad.judged_iff
  intro a ha
  rw [← Value.ref.inj ha]
  exact lt_fresh_of_get? hp.found

end Fenced

end Content

end Heap

/-! ## Blocks -/

section Blocks

variable {σ : Type} {w : World σ} {s : Settings} {p l o c : Addr} {e : Entity} {t : String}
  {items : List Value}

/-- A node whose list of children begins with its open sentinel and ends with its close sentinel. -/
structure Heap.BlockAt (h : Heap) (p l o c : Addr) (items : List Value) (t : String)
    (s : Settings) : Prop where
  nodes : h.attrOrNull (.ref p) "nodes" = .ref l
  list : h.get? l = some (.list items)
  first : items.head? = some (.ref o)
  last : items.getLast? = some (.ref c)
  opens : h.isNode (.ref o) = true ∧ h.attrOrNull (.ref o) "type" = .str (t ++ s.openSuffix)
  closes : h.isNode (.ref c) = true ∧ h.attrOrNull (.ref c) "type" = .str (t ++ s.closeSuffix)
  apart : o ≠ p ∧ c ≠ p

theorem Heap.BlockAt.familyAt {h : Heap} (hb : h.BlockAt p l o c items t s) (hp : h.NodeAt p e)
    (ht : h.attrOrNull (.ref p) "type" = .str t) : h.FamilyAt p t items := by
  refine ⟨⟨e, hp.found, hp.genuine⟩, ht, .inr ?_, fun atEnd v hv ↦ ?_⟩
  · simp [hb.nodes, Heap.sequence?, Heap.object?, hb.list]
  · cases atEnd with
    | false =>
      obtain rfl : Value.ref o = v := Option.some.inj (hb.first.symm.trans hv)
      exact ⟨hb.opens.1, by simpa using hb.apart.1, _, hb.opens.2⟩
    | true =>
      obtain rfl : Value.ref c = v := Option.some.inj (hb.last.symm.trans hv)
      exact ⟨hb.closes.1, by simpa using hb.apart.2, _, hb.closes.2⟩

theorem Heap.BlockAt.isEnclosed {h : Heap} (hb : h.BlockAt p l o c items t s) :
    h.isEnclosed items t s = true := by
  rw [Heap.isEnclosed, Bool.and_eq_true]
  exact ⟨Heap.edgeHasType_eq_true_iff.mpr ⟨.ref o, hb.first, hb.opens.2⟩,
    Heap.edgeHasType_eq_true_iff.mpr ⟨.ref c, hb.last, hb.closes.2⟩⟩

/-- Whoever is asked, such a node is a block. -/
theorem Sentinel.isBlock_apply (hs : w.Uses s) (ht : w.heap.TypedAt p t)
    (hb : w.heap.BlockAt p l o c items t s) (foreign : Caller σ) (fuel : Nat)
    (hp : w.heap.NodeAt p e) :
    Sentinel.isBlock (invoke foreign (fuel + 1)) (.ref p) w = .ok true w := by
  rw [Sentinel.isBlock_eq_isEnclosed foreign fuel hs (hb.familyAt hp ht.type) ht, hb.isEnclosed]

end Blocks

namespace Heap.Fenced

variable {h₀ h : Heap} {m : NodeMaker} {p : Addr} {e : Entity} {t : String} {s : Settings}
  {pairs : List (Addr × Addr)} (hf : Fenced h₀ h m p t s pairs)
include hf

theorem childList?_eq (hpairs : pairs ≠ []) :
    h.childList? (.ref p) = some (h.children (.ref p)) := by
  obtain ⟨e, hp⟩ := hf.node
  rcases hp.nodes_cases with hnull | ⟨l, items, hl, hitems⟩
  · exact absurd hnull (hf.nodes_ne_null hpairs)
  · rw [children_of_list hl hitems, childList?, hl, list?_of_get? hitems]

/-- The outermost sentinels make a node a block. -/
theorem blockAt (hpairs : pairs ≠ []) : ∃ l o c items, h.BlockAt p l o c items t s := by
  obtain ⟨e, hp⟩ := hf.node
  obtain ⟨inner, x, hlast⟩ := (List.eq_nil_or_concat pairs).resolve_left hpairs
  rw [List.concat_eq_append] at hlast
  subst hlast
  have hx : x ∈ inner ++ [x] := by simp
  have hopen := hf.opens x hx
  have hclose := hf.closes x hx
  rcases hp.nodes_cases with hnull | ⟨l, items, hl, hitems⟩
  · exact absurd hnull (hf.nodes_ne_null hpairs)
  · have hchildren := hf.children
    rw [children_of_list hl hitems] at hchildren
    -- The sentinels have no children, and the node has some.
    have hapart {o : Addr} (ho : h.attrOrNull (.ref o) "nodes" = .null) : o ≠ p := by
      rintro rfl
      exact hf.nodes_ne_null hpairs ho
    refine ⟨l, x.1, x.2, items, hl, hitems, ?_, ?_, ⟨hopen.isNode, hopen.type⟩,
      ⟨hclose.isNode, hclose.type⟩, hapart hopen.nodes, hapart hclose.nodes⟩
    · simp [hchildren]
    · simp only [hchildren, List.map_append, List.map_cons, List.map_nil, ← List.append_assoc,
        List.getLast?_concat]

/-- The node has its type as before, and a parent of it is a node as before. -/
theorem typedAt (hp : h₀.NodeAt p e) (ht : h₀.TypedAt p t) : h.TypedAt p t := by
  obtain ⟨e', hp'⟩ := hf.node
  refine ⟨⟨e', hp'.found, hp'.genuine⟩, ?_, ?_⟩
  · rw [hf.self "type" (by decide) (by decide), ht.type]
  · rw [hf.self "parent" (by decide) (by decide)]
    refine ht.parent.imp_right fun ⟨q, f, hq, hget, hgenuine⟩ ↦ ?_
    by_cases hqp : q = p
    · exact ⟨q, e', hq, by rw [hqp, hp'.found], hp'.genuine⟩
    · rcases hf.frame.get?_cases hp (lt_fresh_of_get? hget) hqp with hsame | ⟨items, -, hitems, -⟩
      · exact ⟨q, f, hq, hsame.trans hget, hgenuine⟩
      · rw [hget] at hitems
        cases hitems

end Heap.Fenced

/-! ## Wrapping several times -/

/-- Encloses the children of a node several times over. -/
def Sentinel.wrapTimes {σ : Type} (call : Caller σ) (node factory : Value) : Nat → Op σ Value
  | 0 => return node
  | k + 1 => do
    let _ ← wrapTimes call node factory k
    Sentinel.wrap call node factory .null

section Runs

variable {σ : Type} {w : World σ} {s : Settings} {p : Addr} {e : Entity} {t : String}
  (foreign : Caller σ) (fuel : Nat) (m : NodeMaker) (hs : w.Uses s) (hp : w.heap.NodeAt p e)
  (ht : w.heap.TypedAt p t)
include hs hp ht

theorem Sentinel.wrapTimes_gives (k : Nat) :
    ∃ h pairs,
      (Sentinel.wrapTimes (invoke foreign (fuel + 2)) (.ref p) m.value k).Gives w (.ref p) h ∧
      w.heap.Fenced h m p t s pairs ∧ pairs.length = k := by
  induction k with
  | zero => exact ⟨w.heap, [], ⟨w.log, rfl⟩, Heap.fenced_nil hp m t s, rfl⟩
  | succ k ih =>
    obtain ⟨h, pairs, ⟨log, hrun⟩, hf, hlength⟩ := ih
    obtain ⟨e', hp'⟩ := hf.node
    have hs' := hs.of_keepsSettings hf.settings log
    have ht' := hf.typedAt hp ht
    obtain ⟨log', hwrap⟩ := Sentinel.wrap_gives foreign fuel m hs' hp' ht'.type
    refine ⟨_, _, ⟨log', ?_⟩, hf.wrapped (Heap.lt_fresh_of_get? hp.found), by simp [hlength]⟩
    rw [Sentinel.wrapTimes, bind_of_ok hrun, hwrap]

/-- A node is wrapped several times by one maker: its children are then between as many open and
close sentinels, all of them new, without a payload and below the node, the later ones around the
earlier ones. Nothing but the children of the node has changed among what was there before, and the
parents of all nodes are the same. The node is a block. It carries content just if it did before,
with the same fault or without an answer where there was none, except that a node without a list of
children whose payload counts as true was not empty and is. -/
theorem wrapping_several_times (hground : w.heap.Grounded) (hown : w.heap.Unshared p) {k : Nat}
    (hk : 0 < k) :
    let call := invoke foreign (fuel + 2)
    ∃ (w' : World σ) (pairs : List (Addr × Addr)),
      Sentinel.wrapTimes call (.ref p) m.value k w = .ok (.ref p) w' ∧ pairs.length = k ∧
      w'.heap.childList? (.ref p) = some ((pairs.map fun x ↦ .ref x.1).reverse ++
        w.heap.children (.ref p) ++ pairs.map fun x ↦ .ref x.2) ∧
      (pairs.flatMap fun x ↦ [x.1, x.2]).Pairwise (· < ·) ∧
      (∀ x ∈ pairs, (w.heap.fresh ≤ x.1 ∧ w'.heap.FenceAt x.1 p m.kind (t ++ s.openSuffix)) ∧
        w.heap.fresh ≤ x.2 ∧ w'.heap.FenceAt x.2 p m.kind (t ++ s.closeSuffix)) ∧
      w.heap.OnlyChildren w'.heap p ∧
      (∀ a, a < w.heap.fresh →
        w'.heap.attrOrNull (.ref a) "parent" = w.heap.attrOrNull (.ref a) "parent") ∧
      w'.active = w.active ∧ w'.files = w.files ∧ w'.client = w.client ∧
      (Sentinel.isBlock call (.ref p)).result w' = .ok true ∧
      if w.heap.attrOrNull (.ref p) "nodes" = .null ∧
          w.heap.truthy (w.heap.payload (.ref p)) = true then
        Walk.Answers call w (.ref p) (.ok false) ∧ Walk.Answers call w' (.ref p) (.ok true)
      else
        ∀ answer, Walk.Answers call w (.ref p) answer ↔ Walk.Answers call w' (.ref p) answer := by
  intro call
  obtain ⟨h, pairs, ⟨log, hrun⟩, hf, hlength⟩ := Sentinel.wrapTimes_gives foreign fuel m hs hp ht k
  have hpairs : pairs ≠ [] := by
    rintro rfl
    rw [← hlength] at hk
    cases hk
  have hsentinels : ∀ x ∈ pairs,
      (w.heap.fresh ≤ x.1 ∧ h.FenceAt x.1 p m.kind (t ++ s.openSuffix)) ∧
        w.heap.fresh ≤ x.2 ∧ h.FenceAt x.2 p m.kind (t ++ s.closeSuffix) :=
    fun x hx ↦ ⟨⟨(hf.new x hx).1, hf.opens x hx⟩, (hf.new x hx).2, hf.closes x hx⟩
  have hblock : (Sentinel.isBlock call (.ref p)).result { w with heap := h, log := log } =
      .ok true := by
    obtain ⟨e', hp'⟩ := hf.node
    obtain ⟨l, o, c, items, hb⟩ := hf.blockAt hpairs
    have hs' := hs.of_keepsSettings hf.settings log
    exact result_of_ok
      (Sentinel.isBlock_apply hs' (hf.typedAt hp ht) hb foreign (fuel + 1) hp')
  refine ⟨_, pairs, hrun, hlength, ?_, hf.order, hsentinels, hf.frame,
    fun a ha ↦ hf.frame.parent_eq hp hground ha, rfl, rfl, rfl, hblock, ?_⟩
  · rw [← hf.children]
    exact hf.childList?_eq hpairs
  · have hnode := Heap.isNode_of_genuine hp.found hp.genuine
    split
    · next hfull =>
      obtain ⟨hnull, htrue⟩ := hfull
      constructor
      · rw [answers_iff]
        apply judged_of_said
        rw [Heap.sight_of_null hnode hnull, htrue]
        rfl
      · rw [answers_iff]
        exact (hf.judged_iff_of_null hnull hpairs).mpr rfl
    · next hnot =>
      intro answer
      rw [answers_iff, answers_iff]
      by_cases hnull : w.heap.attrOrNull (.ref p) "nodes" = .null
      · -- The payload counts as false, and nothing else is there.
        have hfalse : w.heap.truthy (w.heap.payload (.ref p)) = false := by
          rw [← Bool.not_eq_true]
          exact fun htrue ↦ hnot ⟨hnull, htrue⟩
        have hsight := Heap.sight_of_null hnode hnull
        rw [hfalse] at hsight
        rw [hf.judged_iff_of_null hnull hpairs, Judged, hsight]
        rfl
      · exact hf.judged_iff_of_listed hp hnull hground hown

end Runs

/-- A world with a plain node and its child, which carries content. -/
def contentBelow : World Unit where
  heap := ⟨#[some (.entity ⟨.plain, [("type", .str "b"), ("value", .null), ("val", .null),
      ("nodes", .ref 1), ("parent", .null)], .absent⟩),
    some (.list [.ref 2]),
    some (.entity ⟨.plain, [("type", .str "c"), ("value", .str "x"), ("val", .null),
      ("nodes", .null), ("parent", .ref 0)], .absent⟩)]⟩
  client := ()

/-- Such a node is wrapped twice. -/
theorem wrapping_contentBelow_twice :
    let call : Caller Unit := invoke (fun _ _ _ ↦ throw .unsupported) 2
    let w := contentBelow
    w.heap.Grounded ∧ w.heap.Unshared 0 ∧
      ∃ w' o₁ c₁ o₂ c₂, Sentinel.wrapTimes call (.ref 0) (.maker .smart) 2 w = .ok (.ref 0) w' ∧
        w'.heap.childList? (.ref 0) = some [.ref o₂, .ref o₁, .ref 2, .ref c₁, .ref c₂] ∧
        (Sentinel.isBlock call (.ref 0)).result w' = .ok true ∧
        Walk.Answers call w' (.ref 0) (.ok false) := by
  intro call w
  have htargets : w.heap.targets 0 = [1] ∧ w.heap.targets 1 = [2] ∧ w.heap.targets 2 = [0] := by
    decide
  have hnone : ∀ n, w.heap.get? (n + 3) = none := fun n ↦
    Heap.get?_eq_none_of_fresh_le (Nat.le_add_left 3 n)
  have htargets' : ∀ n, w.heap.targets (n + 3) = [] := by
    intro n
    rw [Heap.targets, hnone n]
    rfl
  have hground : w.heap.Grounded := by
    constructor
    · intro a b hb
      match a, hb with
      | 0, hb =>
        rw [htargets.1, List.mem_singleton] at hb
        rw [hb]
        decide
      | 1, hb =>
        rw [htargets.2.1, List.mem_singleton] at hb
        rw [hb]
        decide
      | 2, hb =>
        rw [htargets.2.2, List.mem_singleton] at hb
        rw [hb]
        decide
      | n + 3, hb =>
        rw [htargets' n] at hb
        cases hb
    · intro a e q ha hq
      match a, ha with
      | 0, ha =>
        cases ha
        cases hq
      | 1, ha => cases ha
      | 2, ha =>
        cases ha
        cases hq
      | n + 3, ha =>
        rw [hnone n] at ha
        cases ha
  have hown : w.heap.Unshared 0 := by
    intro l a hl ha
    obtain rfl : 1 = l := Value.ref.inj hl
    match a, ha with
    | 0, _ => rfl
    | 1, ha => simp [htargets] at ha
    | 2, ha => simp [htargets] at ha
    | n + 3, ha => simp [htargets'] at ha
  have hnode : w.heap.NodeAt 0 _ := ⟨rfl, ⟨.inr rfl, by decide⟩, .inr ⟨1, _, rfl, rfl⟩, by simp⟩
  have htyped : w.heap.TypedAt 0 "b" := ⟨⟨_, hnode.found, hnode.genuine⟩, rfl, .inl rfl⟩
  obtain ⟨w', pairs, hrun, hlength, hchildren, -, -, -, -, -, -, -, hblock, hcontent⟩ :=
    wrapping_several_times (fun _ _ _ ↦ throw .unsupported) 0 .smart
      (show w.Uses {} from rfl) hnode htyped hground hown (show 0 < 2 by decide)
  rw [if_neg (fun hnull ↦ absurd hnull.1 (by decide))] at hcontent
  have hanswer : Walk.Answers call w (.ref 0) (.ok false) := by
    rw [answers_iff, judged_of_inner (show w.heap.sight (.ref 0) = .inner [.ref 2] from rfl)]
    exact .stop (show w.heap.sight (.ref 2) = .said (.ok false) from rfl) (by simp)
  match pairs, hlength, hchildren with
  | [(o₁, c₁), (o₂, c₂)], _, hchildren =>
    exact ⟨hground, hown, w', o₁, c₁, o₂, c₂, hrun, hchildren, hblock, (hcontent _).mp hanswer⟩

end TagTree
