import TagTree.Proofs.Replay
import TagTree.Proofs.Sentinels

/-!
# The two rounds of wrapping

Wrapping a node goes in two rounds, one for each sentinel, and each of them asks the filter and the
factory anew. Nothing makes both rounds end alike, and the first one is not undone if the second one
fails. Wrapping is all or nothing just if both rounds add a sentinel or neither does
(`wrap_all_or_nothing_iff`).
-/

namespace TagTree

open Op

/-! ## Sparing a node -/

namespace Heap

/-- A node and the list of its children are as they were. -/
structure Spared (h h' : Heap) (p : Addr) : Prop where
  grows : h.fresh ≤ h'.fresh
  node : h'.get? p = h.get? p
  list : ∀ l, h.attrOrNull (.ref p) "nodes" = .ref l → h'.get? l = h.get? l

variable {h h' h'' : Heap} {p : Addr} {e : Entity}

theorem Spared.refl (h : Heap) (p : Addr) : h.Spared h p :=
  ⟨Nat.le_refl _, rfl, fun _ _ ↦ rfl⟩

theorem Spared.attrOrNull_eq (hs : h.Spared h' p) {name : String} (hname : name ≠ "parent") :
    h'.attrOrNull (.ref p) name = h.attrOrNull (.ref p) name := by
  rw [attrOrNull, attr?_congr hs.node hname, attrOrNull]

theorem Spared.trans (h₁ : h.Spared h' p) (h₂ : h'.Spared h'' p) : h.Spared h'' p where
  grows := Nat.le_trans h₁.grows h₂.grows
  node := h₂.node.trans h₁.node
  list := by
    intro l hl
    have hl' : h'.attrOrNull (.ref p) "nodes" = .ref l := by
      rw [h₁.attrOrNull_eq (by decide), hl]
    exact (h₂.list l hl').trans (h₁.list l hl)

theorem Extends.spared (hx : h.Extends h') (hp : h.NodeAt p e) : h.Spared h' p where
  grows := hx.grows
  node := hx.same p (lt_fresh_of_get? hp.found)
  list := by
    intro l hl
    rcases hp.nodes_cases with hnull | ⟨l', items, hl', hget⟩
    · rw [hnull] at hl
      cases hl
    · rw [hl'] at hl
      cases hl
      exact hx.same _ (lt_fresh_of_get? hget)

theorem Spared.nodeAt (hs : h.Spared h' p) (hp : h.NodeAt p e) : h'.NodeAt p e where
  found := hs.node.trans hp.found
  genuine := hp.genuine
  listed := by
    refine hp.listed.imp_right fun ⟨l, items, hl, hget⟩ ↦ ⟨l, items, hl, ?_⟩
    have hnodes : h.attrOrNull (.ref p) "nodes" = .ref l := by rw [hp.attrOrNull_nodes, hl]; rfl
    exact (hs.list l hnodes).trans hget
  anchored := fun q hq ↦ Nat.lt_of_lt_of_le (hp.anchored q hq) hs.grows

theorem Spared.childList?_eq (hs : h.Spared h' p) :
    h'.childList? (.ref p) = h.childList? (.ref p) := by
  rw [childList?, childList?, hs.attrOrNull_eq (by decide)]
  cases hl : h.attrOrNull (.ref p) "nodes" with
  | ref l => rw [list?, object?, hs.list l hl, list?, object?]
  | _ => rfl

theorem Spared.children_eq (hs : h.Spared h' p) : h'.children (.ref p) = h.children (.ref p) := by
  rw [children, hs.childList?_eq, children]

/-- If a value is a node, it can be made a child without anybody else being asked, and its type can
be written out once it is the first or the last child of a given node. -/
def Orderly (h : Heap) (p : Addr) (v : Value) : Prop :=
  h.isNode v = true → ∃ c f, v = .ref c ∧ h.get? c = some (.entity f) ∧ f.Linkable ∧
    ∀ items ∈ [v :: h.children (.ref p), h.children (.ref p) ++ [v]],
      ∃ text, (h.insertChild p c items).literal (h.attrOrNull v "type") = .ok text

end Heap

namespace Op

variable {σ α : Type} {w w' : World σ}

/-- An operation that ends in a known world, with a fault or with an answer. -/
theorem after_of_elim {x : Op σ α} {fault? : Option Fault} {v : α}
    (hx : x w = fault?.elim (.ok v w') (.error · w')) : x.after w = w' := by
  cases fault? with
  | some fault => exact after_of_error hx
  | none => exact after_of_ok hx

theorem setting_cases (name : String) (w : World σ) :
    (∃ v, (setting name : Op σ Value) w = .ok v w) ∨
      ∃ fault, (setting name : Op σ Value) w = .error fault w := by
  cases hv : Table.get? w.settings name with
  | some v => exact .inl ⟨v, by simp [setting, bind_apply, hv]⟩
  | none => exact .inr ⟨_, by simp [setting, bind_apply, hv]; rfl⟩

theorem fromExcept_cases (x : Except Fault α) (w : World σ) :
    (∃ a, (fromExcept x : Op σ α) w = .ok a w) ∨
      ∃ fault, (fromExcept x : Op σ α) w = .error fault w := by
  cases x with
  | ok a => exact .inl ⟨a, rfl⟩
  | error fault => exact .inr ⟨fault, rfl⟩

/-- A suffix can be joined to a text or not, and nothing is made for that. -/
theorem joinSuffix_cases (t : String) (suffix : Value) (w : World σ) :
    (∃ type, (Smart.joinSuffix (.str t) suffix : Op σ Value) w = .ok (.str type) w) ∨
      ∃ fault, (Smart.joinSuffix (.str t) suffix : Op σ Value) w = .error fault w := by
  cases suffix with
  | str s => exact .inl ⟨_, rfl⟩
  | _ => exact .inr ⟨_, rfl⟩

end Op

/-! ## One round -/

namespace Sentinel

variable {σ : Type}

/-- How the attempt to make a sentinel ends. -/
inductive Attempt
  | failed (fault : Fault)
  /-- The filter rejected the node, or the factory made nothing. -/
  | skipped
  | made (sentinel : Value)

namespace Attempt

/-- What is added to the children. -/
def sentinels : Attempt → List Value
  | made sentinel => [sentinel]
  | failed _ | skipped => []

def fault? : Attempt → Option Fault
  | failed fault => some fault
  | skipped | made _ => none

/-- After a failure there is no other attempt. -/
def andThen : Attempt → Attempt → Attempt
  | failed fault, _ => failed fault
  | skipped, second | made _, second => second

theorem length_sentinels_le (a : Attempt) : a.sentinels.length ≤ 1 := by
  cases a <;> simp [sentinels]

end Attempt

/-- Makes a sentinel with the suffix that is in force under a name. -/
def making (call : Caller σ) (node factory filter : Value) (name : String) : Op σ Value := do
  make call node factory (← setting name) .null filter

/-- How an attempt to make a sentinel ends that starts in a given world. What the factory made has
to be a node. -/
def attempt (call : Caller σ) (node factory filter : Value) (name : String) (w : World σ) :
    Attempt :=
  match making call node factory filter name w with
  | .error fault _ => .failed fault
  | .ok sentinel w' =>
    if sentinel = .null then .skipped
    else if w'.heap.isNode sentinel then .made sentinel
    else .failed (.argument (.expected "node" .node) (.str "node"))

/-- A round of wrapping: a sentinel is made and then added. -/
def runRound (call : Caller σ) (node factory filter : Value) (name : String)
    (add : Value → Op σ Value) : Op σ Value := do
  let sentinel ← making call node factory filter name
  if sentinel ≠ .null then
    let _ ← add sentinel
  return sentinel

theorem addOpen_eq_runRound (call : Caller σ) (node factory filter : Value) :
    addOpen call node factory .null filter =
      runRound call node factory filter "open_suffix" (Tree.unshift call node) := by
  simp only [addOpen, openSuffix, runRound, making, bind_assoc]

theorem addClose_eq_runRound (call : Caller σ) (node factory filter : Value) :
    addClose call node factory .null filter =
      runRound call node factory filter "close_suffix" (Tree.push call node) := by
  simp only [addClose, closeSuffix, runRound, making, bind_assoc]

/-- What making a sentinel comes to once it is known whether the filter accepts the node. -/
def conclude (call : Caller σ) (node factory suffix : Value) (accepted : Bool) : Op σ Value := do
  if accepted then
    let type ← Smart.joinSuffix (← getAttr node "type") suffix
    call factory [] [("type", type), ("value", .str "")]
  else
    let type ← literal (← getAttr node "type")
    debug sentinelLogger ("Filter skipped " ++ (← text suffix) ++ " sentinel for " ++ type)
    return .null

theorem make_eq (call : Caller σ) (node factory suffix filter : Value) :
    make call node factory suffix .null filter = (do
      requireNode node "node"
      requireFunction factory "factory"
      requireTypeName node "node.type"
      let _ ← heap
      if filter = .null then conclude call node factory suffix true
      else
        let answer ← call filter [node] []
        conclude call node factory suffix ((← heap).truthy answer)) := by
  rfl

/-- The world in which the filter, if there is one, was asked about a node. -/
def asked (call : Caller σ) (node filter : Value) (w : World σ) : World σ :=
  if filter = .null then w else (call filter [node] []).after w

/-- In a round that starts in a given world neither the filter nor the factory touches a node, and
what the factory makes is orderly. -/
structure Careful (call : Caller σ) (p : Addr) (factory filter : Value) (w : World σ) : Prop where
  asks : w.heap.Spared (asked call (.ref p) filter w).heap p
  makes : ∀ type, (asked call (.ref p) filter w).heap.Spared
    ((call factory [] [("type", .str type), ("value", .str "")]).after
      (asked call (.ref p) filter w)).heap p
  orderly : ∀ type v w', call factory [] [("type", .str type), ("value", .str "")]
    (asked call (.ref p) filter w) = .ok v w' → w'.heap.Orderly p v

section Making

variable {call : Caller σ} {p : Addr} {factory filter : Value} {w : World σ} {e : Entity}
  {t : String}

/-- The factory is called, or there is no sentinel, or the suffix is not fit for use. -/
theorem conclude_cases (ht : w.heap.attrOrNull (.ref p) "type" = .str t) (factory suffix : Value)
    (accepted : Bool) :
    (∃ type, conclude call (.ref p) factory suffix accepted w =
        call factory [] [("type", .str type), ("value", .str "")] w) ∨
      (∃ log, conclude call (.ref p) factory suffix accepted w = .ok .null { w with log := log }) ∨
      ∃ fault, conclude call (.ref p) factory suffix accepted w = .error fault w := by
  cases accepted with
  | true =>
    rcases joinSuffix_cases t suffix w with ⟨type, htype⟩ | ⟨fault, hfault⟩
    · refine .inl ⟨type, ?_⟩
      rw [conclude, if_pos rfl, bind_of_ok (getAttr_type ht), bind_of_ok htype]
    · refine .inr (.inr ⟨fault, ?_⟩)
      rw [conclude, if_pos rfl, bind_of_ok (getAttr_type ht), bind_of_error hfault]
  | false =>
    obtain ⟨shown, hshown⟩ := w.heap.literal_of_immediate (v := .str t) trivial
    have hliteral : (literal (.str t) : Op σ String) w = .ok shown w := by
      rw [literal, bind_of_ok (heap_apply w), hshown, fromExcept_ok_apply]
    have htext : (text suffix : Op σ String) w = fromExcept (w.heap.text suffix) w := rfl
    rw [conclude, if_neg (by simp), bind_of_ok (getAttr_type ht), bind_of_ok hliteral]
    rcases fromExcept_cases (w.heap.text suffix) w with ⟨s, hs⟩ | ⟨fault, hfault⟩
    · rw [bind_of_ok (htext.trans hs), bind_of_ok (debug_apply _ _ w)]
      exact .inr (.inl ⟨_, rfl⟩)
    · rw [bind_of_error (htext.trans hfault)]
      exact .inr (.inr ⟨fault, rfl⟩)

/-- The filter answers, or it fails. -/
theorem ask_cases (call : Caller σ) (node factory suffix filter : Value) (w : World σ) :
    (∃ accepted, (do
        if filter = .null then conclude call node factory suffix true
        else
          let answer ← call filter [node] []
          conclude call node factory suffix ((← heap).truthy answer) : Op σ Value) w =
        conclude call node factory suffix accepted (asked call node filter w)) ∨
      ∃ fault, (do
        if filter = .null then conclude call node factory suffix true
        else
          let answer ← call filter [node] []
          conclude call node factory suffix ((← heap).truthy answer) : Op σ Value) w =
        .error fault (asked call node filter w) := by
  by_cases hnull : filter = .null
  · rw [if_pos hnull, asked, if_pos hnull]
    exact .inl ⟨true, rfl⟩
  · rw [if_neg hnull, asked, if_neg hnull]
    cases hrun : call filter [node] [] w with
    | error fault w₁ =>
      rw [after_of_error hrun, bind_of_error hrun]
      exact .inr ⟨fault, rfl⟩
    | ok answer w₁ =>
      rw [after_of_ok hrun, bind_of_ok hrun, bind_of_ok (heap_apply w₁)]
      exact .inl ⟨_, rfl⟩

/-- All that making a sentinel can come to. -/
theorem make_cases (hp : w.heap.NodeAt p e) (ht : w.heap.attrOrNull (.ref p) "type" = .str t)
    (hspared : w.heap.Spared (asked call (.ref p) filter w).heap p) (factory suffix : Value) :
    (∃ type, make call (.ref p) factory suffix .null filter w =
        call factory [] [("type", .str type), ("value", .str "")] (asked call (.ref p) filter w)) ∨
      (∃ log, make call (.ref p) factory suffix .null filter w =
        .ok .null { asked call (.ref p) filter w with log := log }) ∨
      ∃ fault w', make call (.ref p) factory suffix .null filter w = .error fault w' ∧
        w.heap.Spared w'.heap p := by
  have hnode := Heap.isNode_of_genuine hp.found hp.genuine
  have htype : (requireTypeName (.ref p) "node.type" : Op σ Unit) w = .ok () w :=
    require_apply_true (by rw [ht]; rfl) _ _ w
  have ht' : (asked call (.ref p) filter w).heap.attrOrNull (.ref p) "type" = .str t := by
    rw [hspared.attrOrNull_eq (by decide), ht]
  rw [make_eq, bind_of_ok (requireNode_apply hnode _)]
  by_cases hfactory : w.heap.callable factory = true
  · rw [bind_of_ok (requireFunction_apply hfactory _), bind_of_ok htype, bind_of_ok (heap_apply w)]
    rcases ask_cases call (.ref p) factory suffix filter w with ⟨accepted, hask⟩ | ⟨fault, hask⟩
    · rw [hask]
      refine (conclude_cases ht' factory suffix accepted).imp_right (.imp_right ?_)
      rintro ⟨fault, hfault⟩
      exact ⟨fault, _, hfault, hspared⟩
    · exact .inr (.inr ⟨fault, _, hask, hspared⟩)
  · have hrefused : (requireFunction factory "factory" : Op σ Unit) w =
        .error (.argument (.expected "factory" .function) (.str "factory")) w :=
      require_apply_false (by simpa using hfactory) _ _ w
    rw [bind_of_error hrefused]
    exact .inr (.inr ⟨_, w, rfl, .refl w.heap p⟩)

end Making

/-- A way to add a child to a node: something that is no node is refused, and one that is added
comes in front of the others or behind them. -/
structure Adds (p : Addr) (add : Value → Op σ Value)
    (edit : List Value → List Value → List Value) : Prop where
  gives : ∀ (w : World σ) (e : Entity) (c : Addr) (f : Entity), w.heap.NodeAt p e →
    w.heap.get? c = some (.entity f) → f.Linkable →
    (w.heap.insertChild p c (edit [.ref c] (w.heap.children (.ref p)))).reportFault? (.ref c)
      (.ref p) = none →
    ∃ count, (add (.ref c)).Gives w count
      (w.heap.insertChild p c (edit [.ref c] (w.heap.children (.ref p))))
  refuses : ∀ (w : World σ) (e : Entity) (v : Value), w.heap.NodeAt p e → w.heap.isNode v = false →
    add v w = .error (.argument (.expected "node" .node) (.str "node")) w
  side : (∀ new old, edit new old = new ++ old) ∨ ∀ new old, edit new old = old ++ new

theorem Adds.nothing {p : Addr} {add : Value → Op σ Value}
    {edit : List Value → List Value → List Value} (hadds : Adds p add edit) (items : List Value) :
    edit [] items = items := by
  rcases hadds.side with hside | hside
  · rw [hside, List.nil_append]
  · rw [hside, List.append_nil]

theorem Adds.edit_mem {p : Addr} {add : Value → Op σ Value}
    {edit : List Value → List Value → List Value} (hadds : Adds p add edit) (v : Value)
    (items : List Value) : edit [v] items ∈ [v :: items, items ++ [v]] := by
  rcases hadds.side with hside | hside
  · simp [hside]
  · simp [hside]

section Adding

/-- A node as a parent is accepted, and what is no node is refused as a child. -/
theorem requireNodes_refuses {p : Addr} {e : Entity} {v : Value} {w : World σ}
    (hp : w.heap.NodeAt p e) (hv : w.heap.isNode v = false) (rest : Op σ Value) :
    (do
      requireNode (.ref p) "parent"
      requireNode v "node"
      rest) w = .error (.argument (.expected "node" .node) (.str "node")) w := by
  have hrefused : (requireNode v "node" : Op σ Unit) w =
      .error (.argument (.expected "node" .node) (.str "node")) w :=
    require_apply_false hv _ _ w
  rw [bind_of_ok (requireNode_apply (Heap.isNode_of_genuine hp.found hp.genuine) _),
    bind_of_error hrefused]

variable (foreign : Caller σ) (fuel : Nat) (p : Addr)

theorem unshift_adds :
    Adds p (Tree.unshift (invoke foreign (fuel + 2)) (.ref p)) (fun new old ↦ new ++ old) where
  gives := fun _ _ _ _ hp hc hf hreport ↦
    ⟨_, (Tree.unshift_inserts foreign fuel hp hc hf).gives hreport⟩
  refuses := fun _ _ _ hp hv ↦ requireNodes_refuses hp hv _
  side := .inl fun _ _ ↦ rfl

theorem push_adds :
    Adds p (Tree.push (invoke foreign (fuel + 2)) (.ref p)) (fun new old ↦ old ++ new) where
  gives := fun _ _ _ _ hp hc hf hreport ↦
    ⟨_, (Tree.push_inserts foreign fuel hp hc hf).gives hreport⟩
  refuses := fun _ _ _ hp hv ↦ requireNodes_refuses hp hv _
  side := .inr fun _ _ ↦ rfl

end Adding

/-- A round ends as its attempt does, and the node has got what was made. -/
structure Ends (x : Op σ Value) (w w' : World σ) (p : Addr) (a : Attempt)
    (edit : List Value → List Value → List Value) : Prop where
  run : ∃ v, x w = a.fault?.elim (.ok v w') (.error · w')
  node : ∃ e, w'.heap.NodeAt p e
  type : w'.heap.attrOrNull (.ref p) "type" = w.heap.attrOrNull (.ref p) "type"
  children : w'.heap.children (.ref p) = edit a.sentinels (w.heap.children (.ref p))
  spared : a.sentinels = [] → w.heap.Spared w'.heap p

section Round

variable {call : Caller σ} {p : Addr} {factory filter : Value} {name : String}
  {add : Value → Op σ Value} {edit : List Value → List Value → List Value} {w : World σ}
  {e : Entity} {t : String}

/-- A round that adds nothing. -/
theorem ends_of_spared {x : Op σ Value} {w' : World σ} {a : Attempt} (hadds : Adds p add edit)
    (hp : w.heap.NodeAt p e) (hspared : w.heap.Spared w'.heap p)
    (hrun : ∃ v, x w = a.fault?.elim (.ok v w') (.error · w')) (hnone : a.sentinels = []) :
    Ends x w w' p a edit where
  run := hrun
  node := ⟨e, hspared.nodeAt hp⟩
  type := hspared.attrOrNull_eq (by decide)
  children := by rw [hnone, hadds.nothing, hspared.children_eq]
  spared := fun _ ↦ hspared

/-- Something that is a node was made. -/
theorem ends_of_made {v : Value} {w₁ : World σ} (hadds : Adds p add edit) (hp : w.heap.NodeAt p e)
    (ht : w.heap.attrOrNull (.ref p) "type" = .str t) (hspared : w.heap.Spared w₁.heap p)
    (horderly : w₁.heap.Orderly p v) (hnode : w₁.heap.isNode v = true)
    (hrun : making call (.ref p) factory filter name w = .ok v w₁) :
    ∃ w', Ends (runRound call (.ref p) factory filter name add) w w' p (.made v) edit := by
  obtain ⟨c, f, rfl, hc, hf, hwritten⟩ := horderly hnode
  have hp₁ := hspared.nodeAt hp
  have ht₁ : w₁.heap.attrOrNull (.ref p) "type" = .str t := by
    rw [hspared.attrOrNull_eq (by decide), ht]
  obtain ⟨text, htext⟩ := hwritten _ (hadds.edit_mem (.ref c) (w₁.heap.children (.ref p)))
  rw [← attrOrNull_type_insertChild hp₁ hc hc] at htext
  obtain ⟨shown, hshown⟩ := (w₁.heap.insertChild p c
    (edit [.ref c] (w₁.heap.children (.ref p)))).literal_of_immediate (v := .str t) trivial
  rw [← ht₁, ← attrOrNull_type_insertChild hp₁ hc hp₁.found] at hshown
  obtain ⟨count, log, hadd⟩ := hadds.gives w₁ e c f hp₁ hc hf
    (Heap.reportFault?_of_ok htext hshown)
  obtain ⟨e', hp'⟩ := hp₁.insertChild hp₁ hc (edit [.ref c] (w₁.heap.children (.ref p)))
  refine ⟨{ w₁ with heap := w₁.heap.insertChild p c (edit [.ref c] (w₁.heap.children (.ref p)))
                    log := log },
    ⟨.ref c, ?_⟩, ⟨e', hp'⟩, ?_, ?_, fun hnone ↦ by cases hnone⟩
  · rw [runRound, bind_of_ok hrun, if_pos (by simp), bind_of_ok hadd]
    rfl
  · rw [attrOrNull_type_insertChild hp₁ hc hp₁.found, ht₁, ht]
  · rw [Heap.children_insertChild_self hp₁ hc, hspared.children_eq]
    rfl

/-- Making a sentinel does not touch the node that it is for, and the sentinel is orderly. -/
theorem Careful.making (hc : Careful call p factory filter w) (hp : w.heap.NodeAt p e)
    (ht : w.heap.attrOrNull (.ref p) "type" = .str t) (name : String) :
    w.heap.Spared ((Sentinel.making call (.ref p) factory filter name).after w).heap p ∧
      ∀ v w', Sentinel.making call (.ref p) factory filter name w = .ok v w' →
        w'.heap.Orderly p v := by
  rcases setting_cases name w with ⟨suffix, hsuffix⟩ | ⟨fault, hfault⟩
  · have hmaking : Sentinel.making call (.ref p) factory filter name w =
        make call (.ref p) factory suffix .null filter w := bind_of_ok hsuffix _
    rw [after, hmaking]
    rcases make_cases hp ht hc.asks factory suffix with ⟨type, hmake⟩ | ⟨log, hmake⟩ |
      ⟨fault, w', hmake, hspared⟩
    · rw [hmake]
      exact ⟨hc.asks.trans (hc.makes type), hc.orderly type⟩
    · rw [hmake]
      refine ⟨hc.asks, fun v w' hv hnode ↦ ?_⟩
      cases hv
      cases hnode
    · rw [hmake]
      exact ⟨hspared, fun v w' hv ↦ by cases hv⟩
  · have hmaking : Sentinel.making call (.ref p) factory filter name w = .error fault w :=
      bind_of_error hfault _
    rw [after_of_error hmaking, hmaking]
    exact ⟨.refl w.heap p, fun v w' hv ↦ by cases hv⟩

/-- A round ends as its attempt does. -/
theorem runRound_ends (hc : Careful call p factory filter w) (hadds : Adds p add edit)
    (hp : w.heap.NodeAt p e) (ht : w.heap.attrOrNull (.ref p) "type" = .str t) (name : String) :
    ∃ w', Ends (runRound call (.ref p) factory filter name add) w w' p
      (attempt call (.ref p) factory filter name w) edit := by
  obtain ⟨hspared, horderly⟩ := hc.making hp ht name
  cases hrun : making call (.ref p) factory filter name w with
  | error fault w₁ =>
    rw [after_of_error hrun] at hspared
    rw [attempt, hrun]
    exact ⟨w₁, ends_of_spared hadds hp hspared ⟨.null, bind_of_error hrun _⟩ rfl⟩
  | ok v w₁ =>
    rw [after_of_ok hrun] at hspared
    rw [attempt, hrun]
    dsimp only
    by_cases hnull : v = .null
    · rw [if_pos hnull]
      refine ⟨w₁, ends_of_spared hadds hp hspared ⟨.null, ?_⟩ rfl⟩
      rw [runRound, bind_of_ok hrun, hnull]
      rfl
    · rw [if_neg hnull]
      cases hnode : w₁.heap.isNode v with
      | true => exact ends_of_made hadds hp ht hspared (horderly v w₁ hrun) hnode hrun
      | false =>
        refine ⟨w₁, ends_of_spared hadds hp hspared ⟨.null, ?_⟩ rfl⟩
        rw [runRound, bind_of_ok hrun, if_pos hnull,
          bind_of_error (hadds.refuses w₁ e v (hspared.nodeAt hp) hnode)]
        rfl

theorem Ends.run_of_fault {x : Op σ Value} {w' : World σ} {a : Attempt} {fault : Fault}
    (hx : Ends x w w' p a edit) (ha : a.fault? = some fault) : x w = .error fault w' := by
  obtain ⟨v, hrun⟩ := hx.run
  rwa [ha] at hrun

theorem Ends.run_of_no_fault {x : Op σ Value} {w' : World σ} {a : Attempt}
    (hx : Ends x w w' p a edit) (ha : a.fault? = none) : ∃ v, x w = .ok v w' := by
  obtain ⟨v, hrun⟩ := hx.run
  rw [ha] at hrun
  exact ⟨v, hrun⟩

theorem Ends.after_eq {x : Op σ Value} {w' : World σ} {a : Attempt} (hx : Ends x w w' p a edit) :
    x.after w = w' := by
  obtain ⟨v, hrun⟩ := hx.run
  exact after_of_elim hrun

end Round

/-! ## Both rounds -/

section Wrapping

variable {w : World σ} {p : Addr} {e : Entity} {t : String} {call : Caller σ}
  {factory filter : Value}

theorem wrap_eq_rounds (hp : w.heap.NodeAt p e) (hfactory : w.heap.callable factory = true) :
    wrap call (.ref p) factory filter w = (do
      let _ ← runRound call (.ref p) factory filter "open_suffix" (Tree.unshift call (.ref p))
      let _ ← runRound call (.ref p) factory filter "close_suffix" (Tree.push call (.ref p))
      return .ref p : Op σ Value) w := by
  rw [wrap, bind_of_ok (requireNode_apply (Heap.isNode_of_genuine hp.found hp.genuine) _),
    bind_of_ok (requireFunction_apply hfactory _), addOpen_eq_runRound, addClose_eq_runRound]

/-- Two attempts were made on a node: it has got what they made, and nothing was done to it if they
made nothing. -/
structure Enclosing (h h' : Heap) (p : Addr) (opening closing : Attempt) : Prop where
  children : h'.children (.ref p) =
    opening.sentinels ++ h.children (.ref p) ++ closing.sentinels
  spared : opening.sentinels = [] → closing.sentinels = [] → h.Spared h' p

/-- Both rounds together. The second one starts where the first one ends. -/
theorem wrap_ends (foreign : Caller σ) (fuel : Nat) (hp : w.heap.NodeAt p e)
    (ht : w.heap.attrOrNull (.ref p) "type" = .str t) (hfactory : w.heap.callable factory = true)
    (hcareful : Careful (invoke foreign (fuel + 2)) p factory filter w)
    (hcareful' : Careful (invoke foreign (fuel + 2)) p factory filter
      ((addOpen (invoke foreign (fuel + 2)) (.ref p) factory .null filter).after w))
    {opening closing : Attempt}
    (hopening : opening =
      attempt (invoke foreign (fuel + 2)) (.ref p) factory filter "open_suffix" w)
    (hclosing : closing = opening.andThen
      (attempt (invoke foreign (fuel + 2)) (.ref p) factory filter "close_suffix"
        ((addOpen (invoke foreign (fuel + 2)) (.ref p) factory .null filter).after w))) :
    ∃ w', wrap (invoke foreign (fuel + 2)) (.ref p) factory filter w =
        closing.fault?.elim (.ok (.ref p) w') (.error · w') ∧
      Enclosing w.heap w'.heap p opening closing := by
  obtain ⟨w₁, hfirst⟩ := runRound_ends hcareful (unshift_adds foreign fuel p) hp ht "open_suffix"
  rw [← hopening] at hfirst
  rw [addOpen_eq_runRound, hfirst.after_eq] at hclosing hcareful'
  rw [wrap_eq_rounds hp hfactory]
  cases hfault : opening.fault? with
  | some fault =>
    have hfailed : opening = .failed fault := by
      cases opening with
      | failed _ => exact congrArg Attempt.failed (Option.some.inj hfault)
      | _ => cases hfault
    subst hfailed
    obtain rfl : closing = .failed fault := hclosing
    refine ⟨w₁, bind_of_error (hfirst.run_of_fault hfault) _, ?_, fun hnone _ ↦ hfirst.spared hnone⟩
    rw [hfirst.children]
    exact (List.append_nil _).symm
  | none =>
    obtain ⟨e₁, hp₁⟩ := hfirst.node
    obtain ⟨w₂, hsecond⟩ := runRound_ends hcareful' (push_adds foreign fuel p) hp₁
      (hfirst.type.trans ht) "close_suffix"
    have hthen : closing =
        attempt (invoke foreign (fuel + 2)) (.ref p) factory filter "close_suffix" w₁ := by
      cases opening with
      | failed _ => cases hfault
      | _ => exact hclosing
    rw [← hthen] at hsecond
    obtain ⟨v, hrun⟩ := hfirst.run_of_no_fault hfault
    refine ⟨w₂, ?_, ?_, fun hnone hnone' ↦ (hfirst.spared hnone).trans (hsecond.spared hnone')⟩
    · rw [bind_of_ok hrun]
      cases hfault' : closing.fault? with
      | some fault => exact bind_of_error (hsecond.run_of_fault hfault') _
      | none =>
        obtain ⟨v', hrun'⟩ := hsecond.run_of_no_fault hfault'
        exact bind_of_ok hrun' _
    · rw [hsecond.children, hfirst.children]

/-- A node has got two sentinels or none just if both attempts came to the same. -/
theorem Enclosing.both_or_none_iff {h h' : Heap} {opening closing : Attempt}
    (hE : Enclosing h h' p opening closing) :
    (h'.childList? (.ref p) = h.childList? (.ref p) ∨
        (∃ o c, h'.children (.ref p) = [o] ++ h.children (.ref p) ++ [c]) ∧ closing.fault? = none) ↔
      opening.sentinels.length = closing.sentinels.length := by
  have hopening := opening.length_sentinels_le
  have hclosing := closing.length_sentinels_le
  have hlength := congrArg List.length hE.children
  simp only [List.length_append] at hlength
  constructor
  · rintro (hsame | ⟨⟨o, c, hboth⟩, -⟩)
    · have hchildren : h'.children (.ref p) = h.children (.ref p) := by
        rw [Heap.children, hsame, Heap.children]
      rw [hchildren] at hlength
      omega
    · rw [hboth] at hlength
      simp only [List.length_append, List.length_cons, List.length_nil] at hlength
      omega
  · intro heq
    cases hfirst : opening.sentinels with
    | nil =>
      rw [hfirst] at heq
      exact .inl (hE.spared hfirst (List.eq_nil_of_length_eq_zero heq.symm)).childList?_eq
    | cons o rest =>
      cases closing with
      | made c =>
        cases opening with
        | made o' => exact .inr ⟨⟨o', c, hE.children⟩, rfl⟩
        | _ => cases hfirst
      | _ =>
        rw [hfirst] at heq
        cases heq

end Wrapping

end Sentinel

/-- Wrapping a node is an attempt to make an open sentinel and then, unless this failed, an attempt
to make a close sentinel, each from the world that it finds. It succeeds if neither of them fails,
and in any case the node has got the sentinels that were made. So it is all or nothing just if both
attempts come to a sentinel or neither does. -/
theorem Sentinel.wrap_all_or_nothing_iff {σ : Type} {w : World σ} {p : Addr} {e : Entity}
    {t : String} {factory filter : Value} (foreign : Caller σ) (fuel : Nat)
    (hp : w.heap.NodeAt p e)
    (ht : w.heap.attrOrNull (.ref p) "type" = .str t) (hfactory : w.heap.callable factory = true)
    (hfirst : Careful (invoke foreign (fuel + 2)) p factory filter w)
    (hsecond : Careful (invoke foreign (fuel + 2)) p factory filter
      ((addOpen (invoke foreign (fuel + 2)) (.ref p) factory .null filter).after w)) :
    let call := invoke foreign (fuel + 2)
    let wrapping := wrap call (.ref p) factory filter
    let opening := attempt call (.ref p) factory filter "open_suffix" w
    let closing := opening.andThen (attempt call (.ref p) factory filter "close_suffix"
      ((addOpen call (.ref p) factory .null filter).after w))
    let h := (wrapping.after w).heap
    wrapping.result w = closing.fault?.elim (.ok (.ref p)) .error ∧
      h.children (.ref p) =
        opening.sentinels ++ w.heap.children (.ref p) ++ closing.sentinels ∧
      (opening.sentinels = [] → closing.sentinels = [] → w.heap.Spared h p) ∧
      (h.childList? (.ref p) = w.heap.childList? (.ref p) ∨
          (∃ o c, h.children (.ref p) = [o] ++ w.heap.children (.ref p) ++ [c]) ∧
            wrapping.result w = .ok (.ref p) ↔
        opening.sentinels.length = closing.sentinels.length) := by
  intro call wrapping opening closing h
  obtain ⟨w', hrun, hE⟩ := wrap_ends foreign fuel hp ht hfactory hfirst hsecond
    (show opening = _ from rfl) (show closing = _ from rfl)
  have hresult : wrapping.result w = closing.fault?.elim (.ok (.ref p)) .error :=
    result_of_elim hrun
  have hok : wrapping.result w = .ok (.ref p) ↔ closing.fault? = none := by
    rw [hresult]
    cases closing.fault? <;> simp
  have hh : h = w'.heap := congrArg World.heap (after_of_elim hrun)
  rw [hh, hok]
  exact ⟨hresult, hE.children, hE.spared, hE.both_or_none_iff⟩

/-- A world with a plain node at 0. The functions from outside remember whether they were called
before. -/
def loneLeaf : World Bool where
  heap := NodeMaker.plain.made {} "n" .null
  client := false

/-- A filter that accepts what it is asked about first, and nothing after that. -/
def acceptOnce : Caller Bool := fun _ _ _ ↦ do
  let w ← get
  set { w with client := true }
  return .bool (!w.client)

theorem careful_acceptOnce (w : World Bool) {e : Entity} (hp : w.heap.NodeAt 0 e) :
    Sentinel.Careful (invoke acceptOnce 2) 0 (.maker .plain) (.callback 0) w where
  asks := .refl w.heap 0
  makes := fun type ↦ (NodeMaker.plain.extends_made w.heap type (.str "")).spared hp
  orderly := by
    intro type v w' hv _
    have hmaker := invoke_maker acceptOnce 1 .plain type (x := .str "") (by simp)
      (Sentinel.asked (invoke acceptOnce 2) (.ref 0) (.callback 0) w)
    cases hmaker.symm.trans hv
    have hmade := NodeMaker.plain.nodeAt_made w.heap type (.str "")
    have htype : ((NodeMaker.plain.made w.heap type (.str "")).attrOrNull
        (.ref (NodeMaker.plain.address w.heap)) "type").Immediate := by
      rw [NodeMaker.plain.attrOrNull_made_type]
      trivial
    exact ⟨_, _, rfl, hmade.found, .genuine hmade.genuine,
      fun _ _ ↦ Heap.literal_of_immediate _ htype⟩

/-- With such a filter a node is wrapped by half, and this is not even a failure. -/
theorem wrap_loneLeaf :
    let wrapping := Sentinel.wrap (invoke acceptOnce 2) (.ref 0) (.maker .plain) (.callback 0)
    let h := (wrapping.after loneLeaf).heap
    wrapping.result loneLeaf = .ok (.ref 0) ∧ h.children (.ref 0) = [.ref 1] ∧
      h.childList? (.ref 0) ≠ loneLeaf.heap.childList? (.ref 0) := by
  intro wrapping h
  have hp : loneLeaf.heap.NodeAt 0 (NodeMaker.plain.entity {} "n" .null) :=
    NodeMaker.plain.nodeAt_made {} "n" .null
  have hfirst := careful_acceptOnce loneLeaf hp
  obtain ⟨w₁, hround⟩ := Sentinel.runRound_ends hfirst (Sentinel.unshift_adds acceptOnce 0 0) hp
    (t := "n") rfl "open_suffix"
  obtain ⟨e₁, hp₁⟩ := hround.node
  rw [← hround.after_eq, ← Sentinel.addOpen_eq_runRound] at hp₁
  obtain ⟨hresult, hchildren, -, hiff⟩ := @Sentinel.wrap_all_or_nothing_iff Bool loneLeaf 0 _ "n"
    (.maker .plain) (.callback 0) acceptOnce 0 hp rfl rfl hfirst (careful_acceptOnce _ hp₁)
  refine ⟨hresult, hchildren, fun hsame ↦ ?_⟩
  have hlength := hiff.mp (.inl hsame)
  cases hlength

/-- A world with two plain nodes, at 0 and at 1. -/
def twoLeaves : World Bool where
  heap := NodeMaker.plain.made (NodeMaker.plain.made {} "n" .null) "o" .null
  client := false

/-- A factory that comes up with the node at 1 when it is called first, and later with a text. -/
def nodeOnce : Caller Bool := fun _ _ _ ↦ do
  let w ← get
  set { w with client := true }
  return if w.client then .str "x" else .ref 1

/-- With such a factory wrapping fails and leaves one sentinel behind. -/
theorem wrap_twoLeaves_fails_halfway :
    let wrapping := Sentinel.wrap (invoke nodeOnce 2) (.ref 0) (.callback 0) .null
    twoLeaves.heap.childList? (.ref 0) = none ∧
      wrapping.result twoLeaves = .error (.argument (.expected "node" .node) (.str "node")) ∧
      (wrapping.after twoLeaves).heap.childList? (.ref 0) = some [.ref 1] := by
  intro wrapping
  exact ⟨rfl, rfl, rfl⟩

end TagTree
