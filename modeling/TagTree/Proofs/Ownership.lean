import TagTree.Proofs.NodeHeaps
import TagTree.Proofs.Reachability
import TagTree.Script.Session

/-!
# Ownership among nodes

Nodes own their children, through the list that holds them, and whatever else they have as an
attribute. They do not own their parents. So when names are forgotten and objects are collected,
exactly those nodes stay that can be reached from what is still bound, by going from owners to what
they own. Each of them is as it was, except that its parent reads as null if the parent is gone.
-/

namespace TagTree

open Op

/-! ## Owning -/

/-- The values that an object has: a node as attributes, a collection as items, keys or values. The
parent of a node, to which it has a link, is not among them. -/
def Object.contents : Object → List Value
  | .entity e => e.attrs.map Prod.snd
  | .list items | .tuple items | .set _ items => items
  | .dict entries => entries.flatMap fun (k, x) ↦ [k, x]

namespace Heap

/-- An object owns another one if it has a value that refers to it. -/
def Owns (h : Heap) (a b : Addr) : Prop :=
  ∃ o, h.get? a = some o ∧ ∃ v ∈ o.contents, v.target? = some b

/-- The objects that can be reached from roots by going from owners to what they own. -/
inductive Reaches (h : Heap) (roots : List Addr) : Addr → Prop
  | root {a : Addr} : a ∈ roots → (h.get? a).isSome = true → Reaches h roots a
  | step {a b : Addr} : Reaches h roots a → h.Owns a b → (h.get? b).isSome = true →
    Reaches h roots b

/-- The subtree of a node: the node itself, and whatever is among the children of its nodes. -/
inductive Below (h : Heap) (r : Addr) : Addr → Prop
  | self : Below h r r
  | child {p c : Addr} : Below h r p → .ref c ∈ h.children (.ref p) → Below h r c

section Owning

variable {h : Heap} {history : List Insertion} {roots : List Addr} {a b : Addr} {e : Entity}

theorem Reaches.isSome (ha : h.Reaches roots a) : (h.get? a).isSome = true := by
  cases ha with
  | root _ hlive => exact hlive
  | step _ _ hlive => exact hlive

/-- What an object of a heap of nodes keeps alive is what it owns: no link does. -/
theorem OfNodes.mem_targets_iff (hn : h.OfNodes history) : b ∈ h.targets a ↔ h.Owns a b := by
  unfold targets Owns
  cases hget : h.get? a with
  | none => simp
  | some o =>
    have htargets : o.targets = o.contents.filterMap Value.target? := by
      cases o with
      | entity e =>
        -- The link to the parent is weak or absent, and a smart node has nothing else besides.
        have hlink : e.parent.targets = [] := by
          rw [hn.link a e hget]
          unfold Link.toNode
          split <;> rfl
        simp only [Object.targets, Object.contents, hn.smart a e hget, hlink, List.nil_append,
          List.append_nil, List.filterMap_map]
        rfl
      | list items | tuple items | set frozen items => rfl
      | dict entries =>
        rw [Object.targets, Object.contents, List.filterMap_flatMap]
        congr 1
        funext entry
        obtain ⟨k, x⟩ := entry
        cases hk : k.target? <;> cases hx : x.target? <;> simp [hk, hx]
    simp [htargets, List.mem_filterMap]

theorem OfNodes.mem_reachable_iff (hn : h.OfNodes history) :
    a ∈ h.reachable roots ↔ h.Reaches roots a := by
  rw [Heap.mem_reachable_iff]
  constructor
  · intro ha
    induction ha with
    | start hroot hlive => exact .root hroot (mem_live_iff.mp hlive)
    | step _ htarget hlive ih =>
      exact .step ih (hn.mem_targets_iff.mp htarget) (mem_live_iff.mp hlive)
  · intro ha
    induction ha with
    | root hroot hlive => exact .start hroot (mem_live_iff.mpr hlive)
    | step _ howns hlive ih =>
      exact .step ih (hn.mem_targets_iff.mpr howns) (mem_live_iff.mpr hlive)

theorem OfNodes.get?_collect (hn : h.OfNodes history) (ha : h.Reaches roots a) :
    (h.collect roots).get? a = h.get? a :=
  get?_collect_of_mem (hn.mem_reachable_iff.mpr ha)

theorem OfNodes.isSome_get?_collect (hn : h.OfNodes history) :
    ((h.collect roots).get? a).isSome = true ↔ h.Reaches roots a := by
  constructor
  · intro ha
    by_contra hnot
    rw [get?_collect_of_notMem (fun hmem ↦ hnot (hn.mem_reachable_iff.mp hmem))] at ha
    cases ha
  · intro ha
    rw [hn.get?_collect ha]
    exact ha.isSome

/-- Whatever an object owns that can be reached stays as it is. -/
theorem OfNodes.get?_collect_of_owns (hn : h.OfNodes history) (ha : h.Reaches roots a)
    (howns : h.Owns a b) : (h.collect roots).get? b = h.get? b := by
  by_cases hlive : (h.get? b).isSome = true
  · exact hn.get?_collect (.step ha howns hlive)
  · have hnone : h.get? b = none := Option.not_isSome_iff_eq_none.mp hlive
    have hgone : b ∉ h.reachable roots := by
      intro hmem
      exact hlive (hn.mem_reachable_iff.mp hmem).isSome
    rw [get?_collect_of_notMem hgone, hnone]

theorem owns_of_attr {l : Addr} {name : String} (ha : h.get? a = some (.entity e))
    (hl : Table.get? e.attrs name = some (.ref l)) : h.Owns a l :=
  ⟨_, ha, _, List.mem_map_of_mem (mem_of_lookup hl), rfl⟩

/-- Collecting leaves a heap of nodes. -/
theorem OfNodes.collect (hn : h.OfNodes history) (roots : List Addr) :
    (h.collect roots).OfNodes history := by
  have hkept : ∀ a e, (h.collect roots).get? a = some (.entity e) →
      h.Reaches roots a ∧ h.get? a = some (.entity e) := by
    intro a e ha
    have hreaches : h.Reaches roots a := hn.isSome_get?_collect.mp (by rw [ha]; rfl)
    exact ⟨hreaches, by rw [← hn.get?_collect hreaches, ha]⟩
  refine ⟨?_, ?_, ?_, ?_⟩
  · intro a e ha
    obtain ⟨hreaches, hget⟩ := hkept a e ha
    have hat := hn.node a e hget
    refine ⟨ha, hat.genuine, ?_, fun q hq ↦ by rw [fresh_collect]; exact hat.anchored q hq⟩
    refine hat.listed.imp_right fun ⟨l, items, hl, hlist⟩ ↦ ⟨l, items, hl, ?_⟩
    rw [hn.get?_collect_of_owns hreaches (owns_of_attr hget hl), hlist]
  · intro a e ha
    exact hn.smart a e (hkept a e ha).2
  · intro a e ha
    exact hn.link a e (hkept a e ha).2
  · intro a p hmem
    rw [fresh_collect]
    exact hn.entered a p hmem

theorem OfNodes.parent_eq (hn : h.OfNodes history) (ha : h.get? a = some (.entity e)) :
    h.attrOrNull (.ref a) "parent" = (Link.toNode (assignedParent history a)).target h := by
  have hk := hn.smart a e ha
  rw [attrOrNull_parent ha (hn.node a e ha).genuine, Entity.parentIn, hk, hn.link a e ha]

/-- The last assigned parent of a node is its parent as long as it is there. -/
theorem OfNodes.parent_eq_ref_iff (hn : h.OfNodes history) (ha : h.get? a = some (.entity e))
    {p : Addr} :
    h.attrOrNull (.ref a) "parent" = .ref p ↔
      lastParent history (.ref a) = some (.ref p) ∧ (h.get? p).isSome = true := by
  rw [hn.parent_eq ha, assignedParent]
  cases hlast : lastParent history (.ref a) with
  | none => simp [Link.toNode, Link.target]
  | some x =>
    cases x with
    | ref q =>
      by_cases hq : (h.get? q).isSome = true
      · simp only [Option.getD_some, Link.toNode, Link.target, if_pos hq]
        constructor
        · intro hqp
          cases hqp
          exact ⟨rfl, hq⟩
        · rintro ⟨⟨⟩, -⟩
          rfl
      · simp only [Option.getD_some, Link.toNode, Link.target, if_neg hq]
        constructor
        · intro hnull
          cases hnull
        · rintro ⟨⟨⟩, hlive⟩
          exact absurd hlive hq
    | _ => simp [Link.toNode, Link.target]

/-- Without one that is there a node has no parent. -/
theorem OfNodes.parent_eq_null (hn : h.OfNodes history) (ha : h.get? a = some (.entity e))
    (hgone : ∀ p, lastParent history (.ref a) = some (.ref p) → ¬ (h.get? p).isSome = true) :
    h.attrOrNull (.ref a) "parent" = .null := by
  rw [hn.parent_eq ha, assignedParent]
  cases hlast : lastParent history (.ref a) with
  | none => rfl
  | some x =>
    cases x with
    | ref q => exact if_neg (hgone q hlast)
    | _ => rfl

/-- Collections have no attributes but the operations of lists. -/
theorem exists_entity_of_attrOrNull {name : String} (hname : Method.ofListName? name = none)
    (hv : h.attrOrNull (.ref a) name ≠ .null) : ∃ e, h.get? a = some (.entity e) := by
  unfold attrOrNull attr? at hv
  cases hget : h.get? a with
  | none => simp [hget] at hv
  | some o =>
    cases o with
    | entity e => exact ⟨e, rfl⟩
    | list items => simp [hget, hname] at hv
    | tuple items | set frozen items | dict entries => simp [hget] at hv

/-- Whoever has children owns the list of them. -/
theorem OfNodes.owns_nodes (hn : h.OfNodes history) {l : Addr}
    (hl : h.attrOrNull (.ref a) "nodes" = .ref l) : h.Owns a l := by
  obtain ⟨e, ha⟩ : ∃ e, h.get? a = some (.entity e) :=
    exists_entity_of_attrOrNull rfl (by rw [hl]; exact Value.noConfusion)
  rw [(hn.node a e ha).attrOrNull_nodes] at hl
  apply owns_of_attr ha
  cases hattr : Table.get? e.attrs "nodes" with
  | none =>
    rw [hattr] at hl
    cases hl
  | some v =>
    rw [hattr] at hl
    exact congrArg some hl

theorem OfNodes.childList?_collect (hn : h.OfNodes history) (ha : h.Reaches roots a) :
    (h.collect roots).childList? (.ref a) = h.childList? (.ref a) := by
  have hnodes : (h.collect roots).attrOrNull (.ref a) "nodes" = h.attrOrNull (.ref a) "nodes" := by
    rw [attrOrNull, attr?_congr (hn.get?_collect ha) (by decide), attrOrNull]
  rw [childList?, hnodes, childList?]
  cases hv : h.attrOrNull (.ref a) "nodes" with
  | ref l => rw [list?, list?, object?, object?, hn.get?_collect_of_owns ha (hn.owns_nodes hv)]
  | _ => rfl

/-- A node owns its children through the list that holds them. -/
theorem OfNodes.owns_child (hn : h.OfNodes history) {p c : Addr}
    (hc : .ref c ∈ h.children (.ref p)) :
    ∃ l, h.Owns p l ∧ h.Owns l c := by
  rw [children] at hc
  cases hlist : h.childList? (.ref p) with
  | none =>
    rw [hlist] at hc
    cases hc
  | some items =>
    rw [hlist] at hc
    obtain ⟨l, hl, hget⟩ := get?_of_list? hlist
    exact ⟨l, hn.owns_nodes hl, _, hget, _, hc, rfl⟩

theorem Owns.isSome (howns : h.Owns a b) : (h.get? a).isSome = true := by
  obtain ⟨o, hget, -⟩ := howns
  rw [hget]
  rfl

/-- The children of a node that can be reached can be reached too. -/
theorem OfNodes.reaches_child (hn : h.OfNodes history) {p c : Addr} (hp : h.Reaches roots p)
    (hc : .ref c ∈ h.children (.ref p)) (hlive : (h.get? c).isSome = true) :
    h.Reaches roots c := by
  obtain ⟨l, hlist, hchild⟩ := hn.owns_child hc
  exact .step (.step hp hlist hchild.isSome) hchild hlive

/-- The nodes of a subtree can be reached from where it is rooted. -/
theorem OfNodes.reaches_of_below (hn : h.OfNodes history) {r p : Addr} (hr : r ∈ roots)
    (hbelow : h.Below r p) (hlive : (h.get? p).isSome = true) : h.Reaches roots p := by
  induction hbelow with
  | self => exact .root hr hlive
  | child _ hc ih =>
    -- Whoever has a child is there, whether or not the child is.
    obtain ⟨l, hlist, -⟩ := hn.owns_child hc
    exact hn.reaches_child (ih hlist.isSome) hc hlive

end Owning

end Heap

/-! ## Dropping names -/

namespace Script.Run

/-- Forgets names one after the other, and then collects the objects that cannot be reached. -/
def drop (names : List String) : Run Unit := do
  names.forM forget
  collectGarbage

section Dropping

variable {w w' : World Session}

/-- Forgetting a name concerns only the session. -/
theorem exists_session_of_forget {name : String} (hrun : forget name w = .ok () w') :
    ∃ s, w' = { w with client := s } := by
  obtain ⟨b, w₁, hb, hrest⟩ := bind_eq_ok.mp hrun
  have hsame : w = w₁ := by
    rw [bindingOf, bind_of_ok (show session w = .ok w.client w from rfl)] at hb
    cases hname : Table.get? w.client.names name with
    | none =>
      rw [hname] at hb
      cases hb
    | some bound =>
      rw [hname] at hb
      cases hb
      rfl
  subst hsame
  cases hrest
  exact ⟨_, rfl⟩

theorem exists_session_of_forgets {names : List String}
    (hrun : names.forM forget w = .ok () w') : ∃ s, w' = { w with client := s } := by
  induction names generalizing w with
  | nil =>
    cases hrun
    exact ⟨w'.client, rfl⟩
  | cons name names ih =>
    obtain ⟨⟨⟩, w₁, hfirst, hrest⟩ := bind_eq_ok.mp hrun
    obtain ⟨s, rfl⟩ := exists_session_of_forget hfirst
    obtain ⟨s', rfl⟩ := ih hrest
    exact ⟨s', rfl⟩

/-- What is left after dropping names is what can be reached from what is bound then. -/
theorem heap_of_drop {names : List String} (hrun : drop names w = .ok () w') :
    w'.heap = w.heap.collect (roots w') := by
  obtain ⟨⟨⟩, w₁, hforget, hcollect⟩ := bind_eq_ok.mp hrun
  obtain ⟨s, rfl⟩ := exists_session_of_forgets hforget
  cases hcollect
  rfl

end Dropping

end Script.Run

/-! ## Runs -/

section Runs

open Script Script.Run

/-- Runs in which nothing but smart nodes and collections is made: the nodes change themselves and
one another, names are bound to whatever there is and are dropped. Every assignment of a parent is
recorded, also that of null. -/
inductive NodeRun (call : Caller Session) : List Insertion → World Session → Prop
  | start : NodeRun call [] { client := {} }
  | make {history : List Insertion} {w w' : World Session} {parts : Node.Parts} {v : Value} :
    NodeRun call history w → parts.Fits w.heap → Node.smart call parts w = .ok v w' →
      NodeRun call (history ++ parts.assigns w.heap v) w'
  | hold {history : List Insertion} {w : World Session} {o : Object} :
    NodeRun call history w → (∀ e, o ≠ .entity e) →
      NodeRun call history { w with heap := w.heap.add o }
  | mutate {history : List Insertion} {w w' : World Session} {m : Mutator} {a : Addr} {v : Value} :
    NodeRun call history w → w.heap.kindAt? a = some .smart → m.Fits w.heap →
      m.run call (.ref a) w = .ok v w' → NodeRun call (history ++ m.assigns (.ref a)) w'
  | rebind {history : List Insertion} {w : World Session} (s : Session) :
    NodeRun call history w → NodeRun call history { w with client := s }
  | drop {history : List Insertion} {w w' : World Session} {names : List String} :
    NodeRun call history w → drop names w = .ok () w' → NodeRun call history w'

variable {foreign : Caller Session} {fuel : Nat} {history : List Insertion} {w w' : World Session}

theorem NodeRun.ofNodes (hrun : NodeRun (invoke foreign (fuel + 1)) history w) :
    w.heap.OfNodes history := by
  induction hrun with
  | start => exact Heap.ofNodes_empty
  | make _ hfits hmade ih => exact ih.make foreign fuel hfits hmade
  | hold _ ho ih => exact ih.add ho
  | mutate _ hk hfits hdone ih =>
    obtain ⟨e, ha⟩ := Heap.exists_of_kindAt? hk
    exact ih.mutate ha foreign fuel hfits hdone
  | rebind s _ ih => exact ih
  | drop _ hdrop ih =>
    rw [heap_of_drop hdrop]
    exact ih.collect _

/-- At every point of every run of nodes, whatever is bound and whichever names are dropped then:
exactly those objects stay that can be reached from what is bound, going from owners to what they
own; a node that stays has all its attributes and its children as before; its parent is the last one
that was assigned, if that one stays, and null otherwise; and in the subtree of whatever is bound,
children that had their parent keep it. -/
theorem drop_keeps_what_is_owned (hrun : NodeRun (invoke foreign (fuel + 1)) history w)
    {names : List String} (hdrop : drop names w = .ok () w') :
    (∀ a, (w'.heap.get? a).isSome = true ↔ w.heap.Reaches (roots w') a) ∧
    (∀ a, w.heap.Reaches (roots w') a →
      w'.heap.kindAt? a = w.heap.kindAt? a ∧
      (∀ name, name ≠ "parent" → w'.heap.attr? (.ref a) name = w.heap.attr? (.ref a) name) ∧
      w'.heap.childList? (.ref a) = w.heap.childList? (.ref a)) ∧
    (∀ a, w'.heap.kindAt? a = some .smart →
      (∀ p, lastParent history (.ref a) = some (.ref p) → w.heap.Reaches (roots w') p →
        w'.heap.attrOrNull (.ref a) "parent" = .ref p) ∧
      ((∀ p, lastParent history (.ref a) = some (.ref p) → ¬ w.heap.Reaches (roots w') p) →
        w'.heap.attrOrNull (.ref a) "parent" = .null)) ∧
    ∀ r ∈ roots w', ∀ p c, w.heap.Below r p → .ref c ∈ w.heap.children (.ref p) →
      w.heap.attrOrNull (.ref c) "parent" = .ref p →
      .ref c ∈ w'.heap.children (.ref p) ∧ w'.heap.attrOrNull (.ref c) "parent" = .ref p := by
  have hn := hrun.ofNodes
  rw [heap_of_drop hdrop]
  refine ⟨fun a ↦ hn.isSome_get?_collect, ?_, ?_, ?_⟩
  · intro a ha
    have hsame := hn.get?_collect ha
    exact ⟨Heap.kindAt?_congr hsame, fun name hname ↦ Heap.attr?_congr hsame hname,
      hn.childList?_collect ha⟩
  · intro a hk
    obtain ⟨e, ha⟩ := Heap.exists_of_kindAt? hk
    have hkept := hn.collect (roots w')
    constructor
    · intro p hlast hp
      exact (hkept.parent_eq_ref_iff ha).mpr ⟨hlast, hn.isSome_get?_collect.mpr hp⟩
    · intro hgone
      exact hkept.parent_eq_null ha fun p hlast hp ↦ hgone p hlast (hn.isSome_get?_collect.mp hp)
  · intro r hr p c hbelow hc hparent
    obtain ⟨f, hf⟩ : ∃ f, w.heap.get? c = some (.entity f) :=
      Heap.exists_entity_of_attrOrNull rfl (by rw [hparent]; exact Value.noConfusion)
    -- Both ends of the link are reached through lists of children, so it leads where it led.
    obtain ⟨hlast, hlive⟩ := (hn.parent_eq_ref_iff hf).mp hparent
    have hp : w.heap.Reaches (roots w') p := hn.reaches_of_below hr hbelow hlive
    have hreaches : w.heap.Reaches (roots w') c := hn.reaches_child hp hc (by rw [hf]; rfl)
    constructor
    · rwa [Heap.children, hn.childList?_collect hp]
    · have hf' := (hn.get?_collect hreaches).trans hf
      exact ((hn.collect _).parent_eq_ref_iff hf').mpr ⟨hlast, hn.isSome_get?_collect.mpr hp⟩

/-- A heap with a leaf, a branch and a root, the links and children they have so far, and the lists
of these children. -/
def grove (leaf branch : Link) (leaves branches : Value) (lists : List (List Value)) : Heap :=
  let node (type : String) (nodes : Value) (keys : Addr) (parent : Link) : Object :=
    .entity ⟨.smart, [("type", .str type), ("value", .null), ("nodes", nodes),
      ("_extra_keys", .ref keys)], parent⟩
  let objects := [.list [], node "leaf" .null 0 leaf, .list [], node "branch" leaves 2 branch,
    .list [], node "root" branches 4 .absent] ++ lists.map .list
  ⟨(objects.map some).toArray⟩

/-- A leaf is pushed under a branch and the branch under a root. When the name of the root is
dropped the root goes, although it is the parent of the branch, which has no parent then. The branch
keeps the leaf, which no name is bound to, and stays its parent. -/
theorem branch_outlives_root :
    let call := invoke (fun _ _ _ ↦ throw .unsupported : Caller Session) 1
    let w : World Session := {
      heap := grove (.weak 3) (.weak 5) (.ref 6) (.ref 7) [[.ref 1], [.ref 3]]
      client := { names := [("branch", ⟨.ref 3, none⟩), ("root", ⟨.ref 5, none⟩)] } }
    let w' := (drop ["root"]).after w
    NodeRun call [(.ref 1, .ref 3), (.ref 3, .ref 5)] w ∧
      drop ["root"] w = .ok () w' ∧
      w.heap.attrOrNull (.ref 3) "parent" = .ref 5 ∧
      (w'.heap.get? 5).isSome = false ∧
      w'.heap.attrOrNull (.ref 3) "parent" = .null ∧
      .ref 1 ∈ w'.heap.children (.ref 3) ∧
      w'.heap.attrOrNull (.ref 1) "parent" = .ref 3 := by
  intro call w w'
  have hfits : ∀ (type : String) h, Node.Parts.Fits h { type := .str type } := fun type h ↦
    ⟨⟨⟨type, .null, .none⟩, rfl, rfl, rfl⟩, .inl rfl, .inl rfl⟩
  have hrun : NodeRun call [(.ref 1, .ref 3), (.ref 3, .ref 5)] w := by
    have h₀ : NodeRun call [] { client := {} } := .start
    have h₁ := h₀.make (hfits "leaf" _) rfl
    have h₂ := h₁.make (hfits "branch" _) rfl
    have h₃ : NodeRun call [] { heap := grove .absent .absent .null .null [], client := {} } :=
      h₂.make (hfits "root" _) rfl
    have h₄ : NodeRun call [(.ref 1, .ref 3)]
        { heap := grove (.weak 3) .absent (.ref 6) .null [[.ref 1]], client := {} } :=
      h₃.mutate (m := .push (.ref 1)) (a := 3) rfl trivial rfl
    have h₅ := h₄.mutate (m := .push (.ref 3)) (a := 5) rfl trivial rfl
    exact h₅.rebind w.client
  have hdrop : drop ["root"] w = .ok () w' := rfl
  have hgone : (w'.heap.get? 5).isSome = false := by decide +kernel
  obtain ⟨hkept, -, hparent, hsubtree⟩ := drop_keeps_what_is_owned hrun hdrop
  have hnull : w'.heap.attrOrNull (.ref 3) "parent" = .null := by
    apply (hparent 3 (by decide +kernel)).2
    intro p hlast hreaches
    cases hlast
    rw [← hkept, hgone] at hreaches
    cases hreaches
  obtain ⟨hchild, hleaf⟩ := hsubtree 3 (by decide +kernel) 3 1 .self (by decide +kernel)
    (by decide +kernel)
  exact ⟨hrun, hdrop, by decide +kernel, hgone, hnull, hchild, hleaf⟩

end Runs

end TagTree
