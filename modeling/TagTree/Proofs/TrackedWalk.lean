import Mathlib.Data.List.Forall2
import TagTree.Walk
import TagTree.Proofs.Classification
import TagTree.Proofs.Enclosure
import TagTree.Proofs.Stacks

/-!
# Walking through enclosed children

The children of some nodes of a tree are enclosed by sentinels, and then a walk through the tree
enters at every open sentinel and leaves at every close sentinel. The stacks always tell where the
walk is: they hold the open sentinels of exactly those enclosed nodes that it is inside of.

The proof is by induction over the tree. Going through a row of trees leaves the stacks as they
were, so what was entered at the open sentinel of a node is on top again when the walk comes to the
close sentinel of that node.
-/

namespace TagTree

open Op

/-! ## The walk -/

/-- A call that was made during the walk: the node, the heap at that time, and what was taken from a
stack, if leaving was tried. -/
structure Stop where
  node : Value
  heap : Heap
  popped : Option Value

/-- Enters a node that is an open sentinel. -/
def enterIfOpen {σ : Type} (call : Caller σ) (state node : Value) : Op σ Unit := do
  if ← Sentinel.isOpen call node then
    let _ ← Nesting.enter call state node

/-- Leaves a node that is a close sentinel, and tells what was taken from its stack. -/
def leaveIfClose {σ : Type} (call : Caller σ) (state node : Value) : Op σ (Option Value) := do
  if ← Sentinel.isClose call node then return some (← Nesting.leave call state node)
  else return none

/-- What is done at each node, with a note of it. -/
def watch (call : Caller (List Stop)) (state node : Value) : Op (List Stop) Value := do
  let before ← heap
  enterIfOpen call state node
  let popped ← leaveIfClose call state node
  modify fun w ↦ { w with client := w.client ++ [⟨node, before, popped⟩] }
  return .null

/-- Watching, as a function from outside. -/
def watcher (call : Caller (List Stop)) (state : Value) : Caller (List Stop) := fun _ args _ ↦
  match args with
  | [node] => watch call state node
  | _ => throw .unsupported

/-- Encloses the children of some nodes, makes a nesting state, and keeps it up to date on a walk
through a tree; returns the state. -/
def trackedWalk (foreign : Caller (List Stop)) (fuel : Nat) (ws : List Addr) (root : Addr) :
    Op (List Stop) Value := do
  wrapAll (invoke foreign fuel) ws
  let state ← Node.nestingState [] []
  let _ ← Walk.visit (invoke (watcher (invoke foreign fuel) state) fuel) (.callback 0) fuel
    (.ref root)
  return state

/-! ## What should be seen -/

/-- A point of the walk: a node of the tree with its proper ancestors, the outermost first, or one
of the two sentinels of a node. -/
inductive Landmark
  | inner (n : Addr) (ancestors : List Addr)
  | opening (n : Addr)
  | closing (n : Addr)

/-- The points of a walk below a node, which begin and end with its sentinels if its children are
enclosed. -/
def withSentinels (ws : List Addr) (a : Addr) (inside : List Landmark) : List Landmark :=
  if a ∈ ws then .opening a :: (inside ++ [.closing a]) else inside

/-- The points of a walk through a row of trees, in order. -/
def itinerary (ws ancestors : List Addr) : Grove → List Landmark
  | .nil => []
  | .cons a below rest =>
    .inner a ancestors :: withSentinels ws a (itinerary ws (ancestors ++ [a]) below) ++
      itinerary ws ancestors rest

/-- Those of several nodes that are enclosed and have a type. -/
def enclosing (h : Heap) (ws ancestors : List Addr) (key : String) : List Addr :=
  ancestors.filter fun a ↦ a ∈ ws ∧ h.attrOrNull (.ref a) "type" = .str key

/-- A stop is as it should be at a point of the walk: `h` is the heap before anything was done, and
`op` and `cl` give the sentinels. -/
def Stop.At (h : Heap) (ws : List Addr) (op cl : Addr → Addr) (st : Addr) (stop : Stop) :
    Landmark → Prop
  | .inner n ancestors =>
    stop.node = .ref n ∧ stop.popped = none ∧ ∀ key,
      stop.heap.stackOf (.ref st) key = (enclosing h ws ancestors key).map (.ref ∘ op) ∧
      ∀ (σ : Type) (call : Caller σ) (w : World σ), w.heap = stop.heap →
        Nesting.isInsideType call (.ref st) (.str key) w =
          .ok (decide (∃ a ∈ ancestors, a ∈ ws ∧ h.attrOrNull (.ref a) "type" = .str key)) w
  | .opening n => stop.node = .ref (op n) ∧ stop.popped = none
  | .closing n => stop.node = .ref (cl n) ∧ stop.popped = some (.ref (op n))

/-- The type of a node is a text that ends in neither suffix. -/
def Heap.Unmarked (h : Heap) (s : Settings) (a : Addr) : Prop :=
  ∃ t, h.attrOrNull (.ref a) "type" = .str t ∧ ¬ s.openSuffix.toList <:+ t.toList ∧
    ¬ s.closeSuffix.toList <:+ t.toList

/-- Settings whose suffixes are the same are not accepted. -/
theorem Settings.openSuffix_ne_closeSuffix {given : Settings.Given} {s : Settings}
    (hcheck : Settings.check given = .ok s) : s.openSuffix ≠ s.closeSuffix := by
  simp only [Settings.check] at hcheck
  split at hcheck
  · split at hcheck
    · cases hcheck
    · rename_i hne
      cases hcheck
      exact hne
  · cases hcheck

/-! ## Single steps -/

namespace Walk

variable {σ : Type} {call : Caller σ} {fn v r : Value} {w w₁ w₂ : World σ} {l : Addr}
  {items : List Value}

theorem visitItems_of_some (hl : w.heap.get? l = some (.list items)) {index : Nat}
    (hv : items[index]? = some v) {fuel : Nat} (hvisit : visit call fn fuel v w = .ok r w₁) :
    visitItems call fn (fuel + 1) (.ref l) index w =
      visitItems call fn fuel (.ref l) (index + 1) w₁ := by
  rw [visitItems, bind_of_ok (itemAt?_apply hl index), hv]
  simp only
  rw [bind_of_ok hvisit]

theorem visitItems_of_none (hl : w.heap.get? l = some (.list items)) {index : Nat}
    (hnone : items[index]? = none) (call : Caller σ) (fn : Value) (fuel : Nat) :
    visitItems call fn (fuel + 1) (.ref l) index w = .ok () w := by
  rw [visitItems, bind_of_ok (itemAt?_apply hl index), hnone]
  rfl

variable (hnode : w.heap.isNode v = true) (hfn : ∀ h : Heap, h.callable fn = true)
  (hcall : call fn [v] [] w = .ok r w₁)
include hnode hfn hcall

/-- A node without a list of children. -/
theorem visit_of_null (hnull : w₁.heap.attrOrNull v "nodes" = .null) (fuel : Nat) :
    visit call fn (fuel + 1) v w = .ok v w₁ := by
  rw [visit, bind_of_ok (requireNode_apply hnode _), bind_of_ok (requireFunction_apply (hfn _) _),
    bind_of_ok hcall, bind_of_ok (heap_apply w₁), if_pos hnull]
  rfl

/-- A node with a list of children. -/
theorem visit_of_list (hnode₁ : w₁.heap.isNode v = true)
    (hnodes : w₁.heap.attrOrNull v "nodes" = .ref l) (hl : w₁.heap.get? l = some (.list items))
    {fuel : Nat} (hitems : visitItems call fn fuel (.ref l) 0 w₁ = .ok () w₂) :
    visit call fn (fuel + 2) v w = .ok v w₂ := by
  have hsequence : (w₁.heap.sequence? (.ref l)).isSome = true := by
    simp [Heap.sequence?, Heap.object?, hl]
  rw [visit, bind_of_ok (requireNode_apply hnode _), bind_of_ok (requireFunction_apply (hfn _) _),
    bind_of_ok hcall, bind_of_ok (heap_apply w₁), if_neg (by simp [hnodes]), visitChildren,
    bind_of_ok (requireNode_apply hnode₁ _), bind_of_ok (requireFunction_apply (hfn _) _),
    bind_of_ok (heap_apply w₁)]
  simp only [hnodes, reduceCtorEq, if_false]
  rw [bind_of_ok (requireSequence_apply hsequence _ _), bind_of_ok hitems]
  rfl

end Walk

section Watching

variable {call : Caller (List Stop)} {state node : Value} {w w₁ w₂ : World (List Stop)}

theorem enterIfOpen_of_not (hopen : Sentinel.isOpen call node w = .ok false w) :
    enterIfOpen call state node w = .ok () w := by
  rw [enterIfOpen, bind_of_ok hopen]
  rfl

theorem enterIfOpen_of_open {stack : Value} (hopen : Sentinel.isOpen call node w = .ok true w)
    (henter : Nesting.enter call state node w = .ok stack w₁) :
    enterIfOpen call state node w = .ok () w₁ := by
  rw [enterIfOpen, bind_of_ok hopen]
  simp only [if_true]
  rw [bind_of_ok henter]
  rfl

theorem leaveIfClose_of_not (hclose : Sentinel.isClose call node w = .ok false w) :
    leaveIfClose call state node w = .ok none w := by
  rw [leaveIfClose, bind_of_ok hclose]
  rfl

theorem leaveIfClose_of_close {popped : Value} (hclose : Sentinel.isClose call node w = .ok true w)
    (hleave : Nesting.leave call state node w = .ok popped w₁) :
    leaveIfClose call state node w = .ok (some popped) w₁ := by
  rw [leaveIfClose, bind_of_ok hclose]
  simp only [if_true]
  rw [bind_of_ok hleave]
  rfl

theorem watch_apply {popped : Option Value} (henter : enterIfOpen call state node w = .ok () w₁)
    (hleave : leaveIfClose call state node w₁ = .ok popped w₂) :
    watch call state node w =
      .ok .null { w₂ with client := w₂.client ++ [⟨node, w.heap, popped⟩] } := by
  rw [watch, bind_of_ok (heap_apply w), bind_of_ok henter, bind_of_ok hleave]
  rfl

end Watching

/-! ## The stacks on the way -/

/-- On the walk: everything that was there before the state was made is unchanged, and the stacks
are the given ones. -/
structure Underway (h : Heap) (s : Settings) (st : Addr) (held : String → List Value)
    (w : World (List Stop)) : Prop where
  uses : ({ w with heap := h } : World (List Stop)).Uses s
  stacked : w.heap.Stacked st
  extension : h.Extends w.heap
  apart : ∀ a, w.heap.InState st a → h.fresh ≤ a
  stackOf : ∀ key, w.heap.stackOf (.ref st) key = held key

section Steps

variable {h h' : Heap} {s : Settings} {st : Addr} {held held' : String → List Value}
  {w : World (List Stop)}

theorem Underway.settings (hu : Underway h s st held w) : w.Uses s :=
  hu.uses.of_keepsSettings hu.extension.keepsSettings w.log

theorem Underway.noted (hu : Underway h s st held w) (client : List Stop) :
    Underway h s st held { w with client := client } :=
  ⟨hu.uses, hu.stacked, hu.extension, hu.apart, hu.stackOf⟩

/-- Entering and leaving touch nothing but the state. -/
theorem Underway.restacked (hu : Underway h s st held w) {key : String} {items : List Value}
    (hr : w.heap.Restacks h' st key items)
    (hstacks : ∀ k, held' k = if k = key then items else held k) (log : Log) :
    Underway h s st held' { w with heap := h', log := log } where
  uses := hu.uses
  stacked := hr.stacked
  extension := by
    refine ⟨Nat.le_trans hu.extension.grows hr.within.grows, fun a ha ↦ ?_⟩
    have hout : ¬ w.heap.InState st a := fun hin ↦ absurd ha (Nat.not_lt.mpr (hu.apart a hin))
    rw [hr.within.same a (Nat.lt_of_lt_of_le ha hu.extension.grows) hout, hu.extension.same a ha]
  apart := fun a ha ↦ by
    rcases hr.within.inner a ha with hold | hnew
    · exact hu.apart a hold
    · exact Nat.le_trans hu.extension.grows hnew
  stackOf := fun k ↦ by rw [hstacks, hr.stackOf, hu.stackOf]

/-- A state that was just made. -/
theorem underway_nil (hs : ({ w with heap := h } : World (List Stop)).Uses s) (log : Log) :
    Underway h s h.fresh (fun _ ↦ [])
      { w with heap := h.add (.entity ⟨.nesting, [("inside", .null)], .absent⟩), log := log } := by
  have hidle : (h.add (.entity ⟨.nesting, [("inside", .null)], .absent⟩)).Idle h.fresh :=
    ⟨_, Heap.get?_add_fresh _ _, rfl, rfl⟩
  exact ⟨hs, .inl hidle, Heap.extends_add _ _,
    fun a ha ↦ Nat.le_of_eq (hidle.inState_iff.mp ha).symm, hidle.stackOf⟩

end Steps

/-- What was noted between two moments fits some points of the walk. -/
def Saw (fits : Stop → Landmark → Prop) (w : World (List Stop)) (marks : List Landmark)
    (w' : World (List Stop)) : Prop :=
  ∃ stops, w'.client = w.client ++ stops ∧ List.Forall₂ fits stops marks

theorem Saw.trans {fits : Stop → Landmark → Prop} {w w' w'' : World (List Stop)}
    {marks marks' : List Landmark} (h₁ : Saw fits w marks w') (h₂ : Saw fits w' marks' w'') :
    Saw fits w (marks ++ marks') w'' := by
  obtain ⟨stops, hclient, hfits⟩ := h₁
  obtain ⟨stops', hclient', hfits'⟩ := h₂
  exact ⟨stops ++ stops', by rw [hclient', hclient, List.append_assoc],
    List.rel_append hfits hfits'⟩

/-! ## The grounds -/

/-- All that the walk relies on: the nodes of the tree before and after the children of those in
`ws` were enclosed, their types and their parents. -/
structure Grounds (h₀ h : Heap) (s : Settings) (nodes ws : List Addr) (op cl : Addr → Addr) :
    Prop where
  enclosed : Enclosed h₀ h s nodes (· ∈ ws) op cl
  suffixes : s.openSuffix ≠ s.closeSuffix
  unmarked : ∀ a ∈ nodes, h₀.Unmarked s a
  parent : ∀ a ∈ nodes, h₀.attrOrNull (.ref a) "parent" = .null ∨
    ∃ p ∈ nodes, h₀.attrOrNull (.ref a) "parent" = .ref p

/-- The stacks that belong to a point of the walk. -/
def stacksFor (h : Heap) (ws : List Addr) (op : Addr → Addr) (ancestors : List Addr)
    (key : String) : List Value :=
  (enclosing h ws ancestors key).map (.ref ∘ op)

theorem stacksFor_append_of_not_mem (h : Heap) {ws : List Addr} (op : Addr → Addr)
    (ancestors : List Addr) {a : Addr} (ha : a ∉ ws) :
    stacksFor h ws op (ancestors ++ [a]) = stacksFor h ws op ancestors := by
  funext key
  simp [stacksFor, enclosing, ha]

theorem stacksFor_append_of_mem {h : Heap} {ws : List Addr} (op : Addr → Addr)
    (ancestors : List Addr) {a : Addr} (ha : a ∈ ws) {t : String}
    (ht : h.attrOrNull (.ref a) "type" = .str t) (key : String) :
    stacksFor h ws op (ancestors ++ [a]) key =
      if key = t then stacksFor h ws op ancestors t ++ [.ref (op a)]
      else stacksFor h ws op ancestors key := by
  by_cases hkey : key = t
  · subst hkey
    simp [stacksFor, enclosing, ha, ht]
  · have hne : ¬ t = key := fun heq ↦ hkey heq.symm
    simp [stacksFor, enclosing, ht, hkey, hne]

namespace Grounds

variable {h₀ h h' : Heap} {s : Settings} {nodes ws : List Addr} {op cl : Addr → Addr} {a : Addr}

theorem extend (hg : Grounds h₀ h s nodes ws op cl) (hx : h.Extends h') :
    Grounds h₀ h' s nodes ws op cl :=
  { hg with enclosed := hg.enclosed.extend hx }

theorem exists_node (hg : Grounds h₀ h s nodes ws op cl) (ha : a ∈ nodes) :
    ∃ e, h.NodeAt a e ∧ e.kind = .smart := by
  obtain ⟨e, hat⟩ := hg.enclosed.forest.node a (.inl ha)
  have hk := hg.enclosed.smart a ha
  rw [Heap.kindAt?_of_get? hat.found] at hk
  exact ⟨e, hat, Option.some.inj hk⟩

theorem type_eq (hg : Grounds h₀ h s nodes ws op cl) (ha : a ∈ nodes) :
    h.attrOrNull (.ref a) "type" = h₀.attrOrNull (.ref a) "type" :=
  hg.enclosed.same a ha "type" (by decide) (by decide)

/-- Every node of the tree is judged by one. -/
theorem exists_judge (hg : Grounds h₀ h s nodes ws op cl) (ha : a ∈ nodes) :
    ∃ p ∈ nodes, h.Judges p a := by
  have hparent := hg.enclosed.same a ha "parent" (by decide) (by decide)
  rcases hg.parent a ha with hnull | ⟨p, hp, hlink⟩
  · exact ⟨a, ha, .inr ⟨hparent.trans hnull, rfl⟩⟩
  · exact ⟨p, hp, .inl (hparent.trans hlink)⟩

variable {w : World (List Stop)} {t : String} (foreign : Caller (List Stop)) (fuel : Nat)
  (hg : Grounds h₀ w.heap s nodes ws op cl) (hs : w.Uses s)
include hg hs

/-- No node of the tree itself is taken for a sentinel. -/
theorem isOpen_isClose_node (ha : a ∈ nodes) :
    Sentinel.isOpen (invoke foreign (fuel + 1)) (.ref a) w = .ok false w ∧
      Sentinel.isClose (invoke foreign (fuel + 1)) (.ref a) w = .ok false w := by
  obtain ⟨p, hp, hj⟩ := hg.exists_judge ha
  obtain ⟨e, he, hk⟩ := hg.exists_node hp
  obtain ⟨f, hf, -⟩ := hg.exists_node ha
  obtain ⟨tp, htp, -, -⟩ := hg.unmarked p hp
  obtain ⟨ta, hta, hopen, hclose⟩ := hg.unmarked a ha
  rw [← hg.type_eq hp] at htp
  rw [← hg.type_eq ha] at hta
  exact ⟨Sentinel.isOpen_apply foreign fuel hs hj he hk hf
      (Smart.answer_of_not_suffix _ htp hta hopen),
    Sentinel.isClose_apply foreign fuel hs hj he hk hf
      (Smart.answer_of_not_suffix _ htp hta hclose)⟩

variable (ha : a ∈ nodes) (ht : h₀.attrOrNull (.ref a) "type" = .str t) {b : Addr} {k : Kind}
include ha ht

theorem isOpen_isClose_sentinel {suffix : String} (hb : w.heap.SentinelAt b a k (t ++ suffix))
    (hout : b ∉ nodes) :
    Sentinel.isOpen (invoke foreign (fuel + 1)) (.ref b) w =
        .ok (decide (suffix = s.openSuffix)) w ∧
      Sentinel.isClose (invoke foreign (fuel + 1)) (.ref b) w =
        .ok (decide (suffix = s.closeSuffix)) w := by
  obtain ⟨e, he, hk⟩ := hg.exists_node ha
  have ht' := (hg.type_eq ha).trans ht
  have hne : b ≠ a := by
    rintro rfl
    exact hout ha
  exact ⟨hb.isOpen_apply foreign fuel hs he hk ht' hne,
    hb.isClose_apply foreign fuel hs he hk ht' hne⟩

omit hs in
/-- A sentinel counts for the type of the node it was made for. -/
theorem keyIn_sentinel {type : String} (hb : w.heap.SentinelAt b a k type) (suffix : String) :
    w.heap.keyIn (.ref b) suffix = some t := by
  obtain ⟨e, he, -⟩ := hg.exists_node ha
  simp [Heap.keyIn, hb.parent, (hg.type_eq ha).trans ht,
    Heap.isNode_of_genuine he.found he.genuine]

end Grounds

/-! ## Passing a point -/

section Passing

variable {h₀ h : Heap} {s : Settings} {nodes ws : List Addr} {op cl : Addr → Addr} {st a : Addr}
  {ancestors : List Addr} {w : World (List Stop)} (foreign : Caller (List Stop)) (fuel : Nat)
  (hg : Grounds h₀ h s nodes ws op cl)
include hg

theorem watch_node (hu : Underway h s st (stacksFor h₀ ws op ancestors) w) (ha : a ∈ nodes) :
    ∃ w', watch (invoke foreign (fuel + 1)) (.ref st) (.ref a) w = .ok .null w' ∧
      Underway h s st (stacksFor h₀ ws op ancestors) w' ∧
      Saw (Stop.At h₀ ws op cl st) w [.inner a ancestors] w' := by
  obtain ⟨hopen, hclose⟩ := (hg.extend hu.extension).isOpen_isClose_node foreign fuel hu.settings ha
  refine ⟨_, watch_apply (enterIfOpen_of_not hopen) (leaveIfClose_of_not hclose), hu.noted _,
    [_], rfl, List.forall₂_cons.mpr ⟨⟨rfl, rfl, fun key ↦ ⟨hu.stackOf key, ?_⟩⟩, .nil⟩⟩
  intro σ call v hv
  have hstacked : v.heap.Stacked st := by
    rw [hv]
    exact hu.stacked
  have hstack : v.heap.stackOf (.ref st) key = stacksFor h₀ ws op ancestors key := by
    rw [hv]
    exact hu.stackOf key
  rw [Nesting.isInsideType_apply call hstacked, hstack]
  congr 1
  rw [decide_eq_decide]
  simp [stacksFor, enclosing]

/-- At an open sentinel the walk gets inside its node. -/
theorem watch_opening (hu : Underway h s st (stacksFor h₀ ws op ancestors) w) (ha : a ∈ ws) :
    ∃ w', watch (invoke foreign (fuel + 1)) (.ref st) (.ref (op a)) w = .ok .null w' ∧
      Underway h s st (stacksFor h₀ ws op (ancestors ++ [a])) w' ∧
      Saw (Stop.At h₀ ws op cl st) w [.opening a] w' := by
  have hmem := hg.enclosed.within a ha
  obtain ⟨t, ht, -, -⟩ := hg.unmarked a hmem
  have hout := (hg.enclosed.apart a ha).1
  have hnow := hg.extend hu.extension
  have hsentinel := (hnow.enclosed.sentinels a ha t ht).1
  obtain ⟨f, hf⟩ := hsentinel.node
  have hopen := (hnow.isOpen_isClose_sentinel foreign fuel hu.settings hmem ht hsentinel hout).1
  rw [decide_eq_true rfl] at hopen
  obtain ⟨stack, h', ⟨log, henter⟩, hr⟩ :=
    Nesting.enter_restacks (invoke foreign (fuel + 1)) hu.settings hu.stacked
      (Heap.isNode_of_genuine hf.found hf.genuine) (hnow.keyIn_sentinel hmem ht hsentinel _)
  have hu' : Underway h s st (stacksFor h₀ ws op (ancestors ++ [a]))
      { w with heap := h', log := log } := by
    refine hu.restacked hr (fun k ↦ ?_) log
    rw [stacksFor_append_of_mem op ancestors ha ht, hu.stackOf]
  -- Whether it is also a close sentinel is asked after it was entered.
  have hnow' := hg.extend hu'.extension
  have hclose := (hnow'.isOpen_isClose_sentinel foreign fuel hu'.settings hmem ht
    (hnow'.enclosed.sentinels a ha t ht).1 hout).2
  rw [decide_eq_false hg.suffixes] at hclose
  exact ⟨_, watch_apply (enterIfOpen_of_open hopen henter) (leaveIfClose_of_not hclose),
    hu'.noted _, [_], rfl, List.forall₂_cons.mpr ⟨⟨rfl, rfl⟩, .nil⟩⟩

/-- At a close sentinel the walk gets out of its node, whose open sentinel is on top. -/
theorem watch_closing (hu : Underway h s st (stacksFor h₀ ws op (ancestors ++ [a])) w)
    (ha : a ∈ ws) :
    ∃ w', watch (invoke foreign (fuel + 1)) (.ref st) (.ref (cl a)) w = .ok .null w' ∧
      Underway h s st (stacksFor h₀ ws op ancestors) w' ∧
      Saw (Stop.At h₀ ws op cl st) w [.closing a] w' := by
  have hmem := hg.enclosed.within a ha
  obtain ⟨t, ht, -, -⟩ := hg.unmarked a hmem
  have hout := (hg.enclosed.apart a ha).2
  have hnow := hg.extend hu.extension
  have hsentinel := (hnow.enclosed.sentinels a ha t ht).2
  obtain ⟨f, hf⟩ := hsentinel.node
  obtain ⟨hopen, hclose⟩ :=
    hnow.isOpen_isClose_sentinel foreign fuel hu.settings hmem ht hsentinel hout
  rw [decide_eq_false (Ne.symm hg.suffixes)] at hopen
  rw [decide_eq_true rfl] at hclose
  have hinside := stacksFor_append_of_mem op ancestors ha ht
  have htop : w.heap.stackOf (.ref st) t = stacksFor h₀ ws op ancestors t ++ [.ref (op a)] := by
    rw [hu.stackOf, hinside, if_pos rfl]
  -- There is something on the stack, so there is a mapping.
  obtain ⟨d, entries, hh⟩ : ∃ d entries, w.heap.Holds st d entries := by
    rcases hu.stacked with hidle | hholds
    · simp [hidle.stackOf] at htop
    · exact hholds
  obtain ⟨h', ⟨log, hleave⟩, hr⟩ :=
    Nesting.leave_restacks (invoke foreign (fuel + 1)) hu.settings hh
      (Heap.isNode_of_genuine hf.found hf.genuine) (hnow.keyIn_sentinel hmem ht hsentinel _)
  rw [htop, List.dropLast_concat] at hr
  rw [htop, List.getLast?_concat] at hleave
  have hu' : Underway h s st (stacksFor h₀ ws op ancestors) { w with heap := h', log := log } := by
    refine hu.restacked hr (fun k ↦ ?_) log
    by_cases hk : k = t
    · rw [if_pos hk, hk]
    · rw [if_neg hk, hinside, if_neg hk]
  exact ⟨_, watch_apply (enterIfOpen_of_not hopen) (leaveIfClose_of_close hclose hleave),
    hu'.noted _, [_], rfl, List.forall₂_cons.mpr ⟨⟨rfl, rfl⟩, .nil⟩⟩

end Passing

/-! ## The whole walk -/

/-- How deep the calls of a walk through a row of trees go, besides one for each tree of the row. -/
def Grove.depth : Grove → Nat
  | nil => 0
  | cons _ below rest => below.depth + below.roots.length + 5 + rest.depth

section Walking

variable (h₀ h : Heap) (s : Settings) (ws : List Addr) (op cl : Addr → Addr) (st : Addr)
  (call : Caller (List Stop))

/-- A walk through a row of trees, which may have others beside it, comes to its end; it passes the
points it should and leaves the stacks as they were. -/
def Passable (ancestors : List Addr) (g : Grove) : Prop :=
  ∀ (w : World (List Stop)) (l : Addr) (items others : List Value) (index fuel : Nat),
    Underway h s st (stacksFor h₀ ws op ancestors) w → h.get? l = some (.list items) →
    items.drop index = g.roots.map .ref ++ others → g.depth ≤ fuel →
    ∃ w', Walk.visitItems call (.callback 0) (g.roots.length + fuel) (.ref l) index w =
        Walk.visitItems call (.callback 0) fuel (.ref l) (index + g.roots.length) w' ∧
      Underway h s st (stacksFor h₀ ws op ancestors) w' ∧
      Saw (Stop.At h₀ ws op cl st) w (itinerary ws ancestors g) w'

variable {h₀ h s ws op cl st call} {nodes : List Addr} {ancestors : List Addr}
  {w w' : World (List Stop)} {a : Addr} {below : Grove} {foreign : Caller (List Stop)} {depth : Nat}
  (hcall : ∀ v w, call (.callback 0) [v] [] w =
    watch (invoke foreign (depth + 1)) (.ref st) v w)
include hcall

/-- There is nothing below a sentinel. -/
theorem visit_sentinel {b : Addr} {k : Kind} {type : String} {held held' : String → List Value}
    (hb : h.SentinelAt b a k type) (hu : Underway h s st held w)
    (hwatch : watch (invoke foreign (depth + 1)) (.ref st) (.ref b) w = .ok .null w')
    (hu' : Underway h s st held' w') (fuel : Nat) :
    Walk.visit call (.callback 0) (fuel + 1) (.ref b) w = .ok (.ref b) w' := by
  obtain ⟨e, he⟩ := (hb.extend hu.extension).node
  exact Walk.visit_of_null (Heap.isNode_of_genuine he.found he.genuine) (fun _ ↦ rfl)
    ((hcall _ _).trans hwatch) (hb.extend hu'.extension).nodes fuel

variable (hg : Grounds h₀ h s nodes ws op cl)
include hg

/-- The walk through the children of a node, with its sentinels if it has any. -/
theorem visitItems_children (hu : Underway h s st (stacksFor h₀ ws op ancestors) w)
    (ha : a ∈ nodes) (hbelow : h₀.children (.ref a) = below.roots.map .ref)
    (hpass : Passable h₀ h s ws op cl st call (ancestors ++ [a]) below) {l : Addr}
    (hl : h.get? l = some (.list (h.children (.ref a)))) {fuel : Nat}
    (hfuel : below.depth + below.roots.length + 3 ≤ fuel) :
    ∃ w', Walk.visitItems call (.callback 0) fuel (.ref l) 0 w = .ok () w' ∧
      Underway h s st (stacksFor h₀ ws op ancestors) w' ∧
      Saw (Stop.At h₀ ws op cl st) w
        (withSentinels ws a (itinerary ws (ancestors ++ [a]) below)) w' := by
  obtain ⟨f, hf, rfl⟩ : ∃ f, below.depth ≤ f ∧ fuel = below.roots.length + f + 3 :=
    ⟨fuel - (below.roots.length + 3), by omega, by omega⟩
  by_cases hmem : a ∈ ws
  · obtain ⟨t, ht, -, -⟩ := hg.unmarked a ha
    obtain ⟨hopening, hclosing⟩ := hg.enclosed.sentinels a hmem t ht
    rw [hg.enclosed.fenced a hmem, hbelow] at hl
    obtain ⟨w₁, hwatch₁, hu₁, hsaw₁⟩ := watch_opening foreign depth hg hu hmem
    obtain ⟨w₂, hrow, hu₂, hsaw₂⟩ :=
      hpass w₁ l _ [.ref (cl a)] 1 (f + 2) hu₁ hl rfl (Nat.le_add_right_of_le hf)
    obtain ⟨w₃, hwatch₃, hu₃, hsaw₃⟩ := watch_closing foreign depth hg hu₂ hmem
    refine ⟨w₃, ?_, hu₃, ?_⟩
    · calc
        Walk.visitItems call (.callback 0) (below.roots.length + f + 3) (.ref l) 0 w =
            Walk.visitItems call (.callback 0) (below.roots.length + f + 2) (.ref l) 1 w₁ :=
          Walk.visitItems_of_some (hu.extension.found hl) rfl
            (visit_sentinel hcall hopening hu hwatch₁ hu₁ _)
        _ = Walk.visitItems call (.callback 0) (f + 2) (.ref l) (1 + below.roots.length) w₂ := hrow
        _ = Walk.visitItems call (.callback 0) (f + 1) (.ref l) (1 + below.roots.length + 1) w₃ :=
          Walk.visitItems_of_some (hu₂.extension.found hl) (by simp [Nat.add_comm 1])
            (visit_sentinel hcall hclosing hu₂ hwatch₃ hu₃ _)
        _ = .ok () w₃ :=
          Walk.visitItems_of_none (hu₃.extension.found hl) (by simp [Nat.add_comm 1]) _ _ _
    · rw [withSentinels, if_pos hmem]
      exact hsaw₁.trans (hsaw₂.trans hsaw₃)
  · rw [hg.enclosed.bare a ha hmem, hbelow] at hl
    rw [← stacksFor_append_of_not_mem h₀ op ancestors hmem] at hu ⊢
    obtain ⟨w', hrow, hu', hsaw⟩ :=
      hpass w l _ [] 0 (f + 3) hu hl (by simp) (Nat.le_add_right_of_le hf)
    have hend : Walk.visitItems call (.callback 0) (f + 3) (.ref l) (0 + below.roots.length) w' =
        .ok () w' :=
      Walk.visitItems_of_none (hu'.extension.found hl) (by simp) _ _ _
    refine ⟨w', hrow.trans hend, hu', ?_⟩
    rw [withSentinels, if_neg hmem]
    exact hsaw

/-- The walk from a node of the tree on. -/
theorem visit_node (hu : Underway h s st (stacksFor h₀ ws op ancestors) w) (ha : a ∈ nodes)
    (hbelow : h₀.children (.ref a) = below.roots.map .ref)
    (hpass : Passable h₀ h s ws op cl st call (ancestors ++ [a]) below) {fuel : Nat}
    (hfuel : below.depth + below.roots.length + 5 ≤ fuel) :
    ∃ w', Walk.visit call (.callback 0) fuel (.ref a) w = .ok (.ref a) w' ∧
      Underway h s st (stacksFor h₀ ws op ancestors) w' ∧
      Saw (Stop.At h₀ ws op cl st) w
        (.inner a ancestors :: withSentinels ws a (itinerary ws (ancestors ++ [a]) below)) w' := by
  obtain ⟨e, he, -⟩ := hg.exists_node ha
  obtain ⟨w₁, hwatch, hu₁, hsaw₁⟩ := watch_node foreign depth hg hu ha
  have hisNode : ∀ {v : World (List Stop)}, h.Extends v.heap → v.heap.isNode (.ref a) = true :=
    fun hx ↦ Heap.isNode_of_genuine (he.extend hx).found he.genuine
  have hnodes := hu₁.extension.attrOrNull he "nodes"
  obtain ⟨f, rfl⟩ : ∃ f, fuel = f + 2 := ⟨fuel - 2, by omega⟩
  rcases he.nodes_cases with hnull | ⟨l, items, hl, hget⟩
  · -- Without a list of children the node is not enclosed, and there is nothing below it.
    have hnone : h.children (.ref a) = [] := by
      rw [Heap.children, Heap.childList?, hnull]
      rfl
    have hout : a ∉ ws := by
      intro hmem
      rw [hg.enclosed.fenced a hmem] at hnone
      cases hnone
    obtain rfl : below = .nil := by
      rw [hg.enclosed.bare a ha hout, hbelow] at hnone
      cases below with
      | nil => rfl
      | cons b below rest => cases hnone
    refine ⟨w₁, Walk.visit_of_null (hisNode hu.extension) (fun _ ↦ rfl)
      ((hcall _ _).trans hwatch) (hnodes.trans hnull) _, hu₁, ?_⟩
    rw [withSentinels, if_neg hout]
    exact hsaw₁
  · have hitems : h.children (.ref a) = items := by
      rw [Heap.children, Heap.childList?, hl, Heap.list?_of_get? hget]
      rfl
    subst hitems
    obtain ⟨w', hchildren, hu', hsaw'⟩ :=
      visitItems_children hcall hg hu₁ ha hbelow hpass hget (show _ ≤ f by omega)
    exact ⟨w', Walk.visit_of_list (hisNode hu.extension) (fun _ ↦ rfl)
      ((hcall _ _).trans hwatch) (hisNode hu₁.extension) (hnodes.trans hl)
      (hu₁.extension.found hget) hchildren, hu', hsaw₁.trans hsaw'⟩

/-- Every row of trees on the grounds can be walked through. -/
theorem passable (g : Grove) (ancestors : List Addr) {parent : Value} (hsub : g.nodes ⊆ nodes)
    (hplanted : h₀.Planted parent g) : Passable h₀ h s ws op cl st call ancestors g := by
  induction g generalizing ancestors parent with
  | nil =>
    intro w l items others index fuel hu _ _ _
    refine ⟨w, ?_, hu, [], (List.append_nil _).symm, .nil⟩
    rw [Grove.roots, List.length_nil, Nat.zero_add, Nat.add_zero]
  | cons a below rest ihbelow ihrest =>
    intro w l items others index fuel hu hl hdrop hfuel
    obtain ⟨-, hbelow, hplantedBelow, hplantedRest⟩ := hplanted
    simp only [Grove.nodes, List.cons_subset, List.append_subset] at hsub
    obtain ⟨ha, hsubBelow, hsubRest⟩ := hsub
    simp only [Grove.depth] at hfuel
    have hfirst : items[index]? = some (.ref a) := by
      rw [← Nat.add_zero index, ← List.getElem?_drop, hdrop]
      rfl
    have hothers : items.drop (index + 1) = rest.roots.map .ref ++ others := by
      rw [← List.tail_drop, hdrop]
      rfl
    obtain ⟨w₁, hvisit, hu₁, hsaw₁⟩ := visit_node hcall hg hu ha hbelow
      (ihbelow (ancestors ++ [a]) hsubBelow hplantedBelow)
      (show _ ≤ rest.roots.length + fuel by omega)
    obtain ⟨w₂, hrow, hu₂, hsaw₂⟩ := ihrest ancestors hsubRest hplantedRest w₁ l items others
      (index + 1) fuel hu₁ hl hothers (by omega)
    refine ⟨w₂, ?_, hu₂, hsaw₁.trans hsaw₂⟩
    rw [Grove.roots, List.length_cons, Nat.add_right_comm,
      Walk.visitItems_of_some (hu.extension.found hl) hfirst hvisit, hrow, Nat.add_right_comm index,
      Nat.add_assoc index]

end Walking

/-- Let the settings be acceptable, and let a tree have no types that end in one of the suffixes.
Then the children of any of its nodes can be enclosed, and a walk through the tree that enters at
open sentinels and leaves at close sentinels makes exactly the stops it should. At a node of the
tree, the stack for each type name holds the open sentinels of the enclosed ancestors of that type,
the outermost first, and the state is inside the type if and only if there is one. What is taken
from a stack at a close sentinel is the open sentinel of the same node. At the end all stacks are
empty. -/
theorem trackedWalk_follows_itinerary (foreign : Caller (List Stop)) {given : Settings.Given}
    {s : Settings} {w : World (List Stop)} {root : Addr} {below : Grove} {ws : List Addr}
    (hcheck : Settings.check given = .ok s) (hs : w.Uses s) (htree : w.heap.IsTree root below)
    (htypes : ∀ a ∈ root :: below.nodes, w.heap.Unmarked s a)
    (hsub : ws ⊆ root :: below.nodes) (hnodup : ws.Nodup) :
    ∃ bound, ∀ fuel, bound ≤ fuel → ∃ st op cl w' stops,
      trackedWalk foreign fuel ws root w = .ok (.ref st) w' ∧
      Enclosed w.heap w'.heap s (root :: below.nodes) (· ∈ ws) op cl ∧
      w'.client = w.client ++ stops ∧
      List.Forall₂ (Stop.At w.heap ws op cl st) stops
        (itinerary ws [] (.cons root below .nil)) ∧
      w'.heap.Stacked st ∧ ∀ key, w'.heap.stackOf (.ref st) key = [] := by
  refine ⟨below.depth + below.roots.length + 5, fun fuel hfuel ↦ ?_⟩
  obtain ⟨f, rfl⟩ : ∃ f, fuel = f + 2 := ⟨fuel - 2, by omega⟩
  -- The children are enclosed.
  obtain ⟨h, op, cl, ⟨log, hwrap⟩, hkeeps, he⟩ :=
    (enclosed_none htree.forest htree.smart id id).wrapAll_gives foreign f ws hs
      (fun a ha ↦ (htypes a ha).imp fun _ ht ↦ ht.1) hsub (fun _ _ ↦ id) hnodup
  simp only [false_or] at he
  have hnodes : (Grove.cons root below .nil).nodes = root :: below.nodes := by
    simp [Grove.nodes]
  have hg : Grounds w.heap h s (root :: below.nodes) ws op cl := by
    refine ⟨he, Settings.openSuffix_ne_closeSuffix hcheck, htypes, fun a ha ↦ ?_⟩
    rw [← hnodes] at ha ⊢
    exact htree.planted.parent a ha
  -- The state is made.
  have hu : Underway h s h.fresh (stacksFor w.heap ws op []) _ :=
    underway_nil (hs.of_keepsSettings hkeeps log) log
  have hstate : Node.nestingState [] [] { w with heap := h, log := log } = .ok (.ref h.fresh)
      { w with
        heap := h.add (.entity ⟨.nesting, [("inside", .null)], .absent⟩), log := log } := rfl
  -- The walk starts at the root, which has no ancestors.
  obtain ⟨-, hbelow, hplanted, -⟩ := htree.planted
  have hcall : ∀ v u, invoke (watcher (invoke foreign (f + 2)) (.ref h.fresh)) (f + 2)
      (.callback 0) [v] [] u = watch (invoke foreign (f + 1 + 1)) (.ref h.fresh) v u :=
    fun _ _ ↦ rfl
  have hpass := passable hcall hg below [root] (List.subset_cons_self _ _) hplanted
  obtain ⟨w', hvisit, hu', stops, hclient, hfits⟩ :=
    visit_node hcall hg hu List.mem_cons_self hbelow hpass hfuel
  refine ⟨h.fresh, op, cl, w', stops, ?_, he.extend hu'.extension, hclient, ?_, hu'.stacked,
    hu'.stackOf⟩
  · rw [trackedWalk, bind_of_ok hwrap, bind_of_ok hstate, bind_of_ok hvisit]
    rfl
  · simpa [itinerary] using hfits

/-- A world with a node at 0 and its only child at 2, both of the same type. -/
def parentAndChild : World (List Stop) where
  heap := ⟨#[some (.entity ⟨.smart, [("type", .str "a"), ("nodes", .ref 1)], .absent⟩),
    some (.list [.ref 2]),
    some (.entity ⟨.smart, [("type", .str "a"), ("nodes", .null)], .weak 0⟩)]⟩
  client := []

theorem isTree_parentAndChild : parentAndChild.heap.IsTree 0 (.cons 2 .nil .nil) where
  forest := by
    have hparent : parentAndChild.heap.NodeAt 0
        ⟨.smart, [("type", .str "a"), ("nodes", .ref 1)], .absent⟩ :=
      ⟨rfl, ⟨.inl rfl, by decide⟩, .inr ⟨1, [.ref 2], rfl, rfl⟩, by simp⟩
    have hchild : parentAndChild.heap.NodeAt 2
        ⟨.smart, [("type", .str "a"), ("nodes", .null)], .weak 0⟩ :=
      ⟨rfl, ⟨.inl rfl, by decide⟩, .inl rfl, by rintro q ⟨⟩; decide⟩
    have hjoined := (Heap.Forest.mk (S := (· = 0)) (by rintro _ rfl; exact ⟨_, hparent⟩)
      (by rintro _ _ _ rfl rfl _ _; rfl)).join hchild rfl
    exact hjoined.mono (by simp [Grove.nodes])
  smart := by decide
  distinct := by decide
  planted := ⟨rfl, rfl, ⟨rfl, rfl, trivial, trivial⟩, trivial⟩

/-- The children of both nodes are enclosed; the stack for their type holds two sentinels for a
while. -/
theorem trackedWalk_parentAndChild :
    Settings.check [] = .ok {} ∧ parentAndChild.Uses {} ∧
    (∀ a ∈ [0, 2], parentAndChild.heap.Unmarked {} a) ∧
    ∃ bound, ∀ fuel, bound ≤ fuel → ∃ st op cl w' stops,
      trackedWalk (fun _ _ _ ↦ throw .unsupported) fuel [2, 0] 0 parentAndChild =
        .ok (.ref st) w' ∧
      w'.client = stops ∧
      List.Forall₂ (Stop.At parentAndChild.heap [2, 0] op cl st) stops
        [.inner 0 [], .opening 0, .inner 2 [0], .opening 2, .closing 2, .closing 0] := by
  have htypes : ∀ a ∈ [0, 2], parentAndChild.heap.Unmarked {} a := by
    intro a ha
    refine ⟨"a", ?_, by decide, by decide⟩
    revert a
    decide
  refine ⟨rfl, rfl, htypes, ?_⟩
  obtain ⟨bound, hwalk⟩ := trackedWalk_follows_itinerary (fun _ _ _ ↦ throw .unsupported)
    (show Settings.check [] = .ok {} from rfl) (show parentAndChild.Uses {} from rfl)
    isTree_parentAndChild htypes (show [2, 0] ⊆ [0, 2] by decide) (by decide)
  refine ⟨bound, fun fuel hfuel ↦ ?_⟩
  obtain ⟨st, op, cl, w', stops, hrun, -, hclient, hfits, -⟩ := hwalk fuel hfuel
  exact ⟨st, op, cl, w', stops, hrun, hclient, hfits⟩

end TagTree
