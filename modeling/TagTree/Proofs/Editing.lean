import TagTree.Edit
import TagTree.Proofs.Children

/-!
# Editing children, smart or plain

A smart node edits its children itself and the children of a plain node are edited for it. For both
kinds this module gives one and the same account of each editing operation: its answer, and the
heap that it leaves in terms of `Heap.link` and `Heap.setChildren`. What smart and plain parents do
differently, by way of abilities, checks and log messages, does not show outside of this module.
-/

namespace TagTree

open Op

/-! ## Getting a list of children -/

namespace Heap

/-- The heap after a node was given an empty list of children, unless it had one. -/
def withList (h : Heap) (p : Addr) : Heap :=
  match h.attrOrNull (.ref p) "nodes", h.get? p with
  | .null, some (.entity e) =>
    (h.add (.list [])).put p
      (.entity { e with attrs := Table.put "nodes" (.ref h.fresh) e.attrs })
  | _, _ => h

variable {h : Heap} {p l : Addr} {e : Entity} {items : List Value}

theorem children_of_list (hl : h.attrOrNull (.ref p) "nodes" = .ref l)
    (hget : h.get? l = some (.list items)) : h.children (.ref p) = items := by
  rw [children, childList?, hl, list?_of_get? hget]
  rfl

theorem children_of_null (hnull : h.attrOrNull (.ref p) "nodes" = .null) :
    h.children (.ref p) = [] := by
  rw [children, childList?, hnull]
  rfl

theorem NodeAt.list_or_null (hp : h.NodeAt p e) :
    h.attrOrNull (.ref p) "nodes" = .null ∨
      (h.list? (h.attrOrNull (.ref p) "nodes")).isSome = true := by
  refine hp.nodes_cases.imp_right fun ⟨l, items, hl, hget⟩ ↦ ?_
  rw [hl, list?_of_get? hget]
  rfl

/-- The list that a node has then holds its children, and replacing its items is giving the node
other children. -/
theorem NodeAt.withList (hp : h.NodeAt p e) :
    ∃ e' l, (h.withList p).NodeAt p e' ∧ (h.withList p).attrOrNull (.ref p) "nodes" = .ref l ∧
      (h.withList p).get? l = some (.list (h.children (.ref p))) ∧
      ∀ items, (h.withList p).put l (.list items) = h.setChildren p items := by
  rcases hp.nodes_cases with hnull | ⟨l, old, hl, hget⟩
  · have hempty := children_of_null hnull
    have hset := setChildren_of_null hp.found hnull
    have heq : h.withList p = (h.add (.list [])).put p
        (.entity { e with attrs := Table.put "nodes" (.ref h.fresh) e.attrs }) := by
      simp [Heap.withList, hnull, hp.found]
    -- Nothing is gained by putting the empty list where it is already.
    have hsame : h.withList p = h.setChildren p [] := by
      have hcell : (h.withList p).get? h.fresh = some (.list []) := by
        rw [heq, get?_put_of_ne _ (Nat.ne_of_gt (lt_fresh_of_get? hp.found)), get?_add_fresh]
      rw [hset, ← heq]
      exact (put_get? hcell).symm
    obtain ⟨e', he'⟩ := hp.setChildren hp []
    refine ⟨e', h.fresh, hsame ▸ he', ?_, ?_, ?_⟩
    · rw [hsame, attrOrNull, attr?_entity (get?_setChildren_self hp.found hnull [])]
      rcases hp.genuine.kind with hk | hk <;> simp [entityAttr?, hk]
    · rw [hsame, hempty, get?_setChildren_fresh hp.found hnull]
    · intro items
      rw [heq, hset]
  · have heq : h.withList p = h := by simp [Heap.withList, hl]
    refine ⟨e, l, by rwa [heq], by rw [heq, hl], ?_, ?_⟩
    · rw [heq, children_of_list hl hget, hget]
    · intro items
      rw [heq, setChildren_of_list hl]

end Heap

section Lists

variable {σ : Type} {w : World σ} {c p : Addr} {e f : Entity}

theorem getAttr_nodes (hp : w.heap.NodeAt p e) :
    (getAttr (.ref p) "nodes" : Op σ Value) w = .ok (w.heap.attrOrNull (.ref p) "nodes") w := by
  have hsome : ∃ v, w.heap.attr? (.ref p) "nodes" = some v := by
    rw [Heap.attr?_of_genuine hp.found hp.genuine (by decide)]
    rcases hp.listed with hnull | ⟨l, _, hl, _⟩
    · exact ⟨_, hnull⟩
    · exact ⟨_, hl⟩
  obtain ⟨v, hv⟩ := hsome
  rw [Heap.attrOrNull, hv]
  exact getAttr_of_attr? hv (by decide) (by decide)

theorem setAttr_of_genuine (hp : w.heap.get? p = some (.entity e)) (he : e.Genuine) {name : String}
    (hname : name ∉ Node.reservedNames) (x : Value) :
    (setAttr (.ref p) name x : Op σ Unit) w =
      .ok ()
        { w with heap := w.heap.put p (.entity { e with attrs := Table.put name x e.attrs }) } := by
  have hparent : name ≠ "parent" := by rintro rfl; exact hname (by decide)
  have hreserved : ∀ other ∈ readOnlyNames, other ∈ Node.reservedNames := by decide
  have hwritable : name ∉ readOnlyNames := fun hmem ↦ hname (hreserved name hmem)
  rcases he.kind with hk | hk <;>
    simp [setAttr, bind_apply, Heap.entity?_of_get? hp, Heap.assign, hk, hparent, hwritable]

theorem setAttr_nodes (hp : w.heap.get? p = some (.entity e)) (he : e.Genuine) (x : Value) :
    (setAttr (.ref p) "nodes" x : Op σ Unit) w =
      .ok ()
        { w with
          heap := w.heap.put p (.entity { e with attrs := Table.put "nodes" x e.attrs }) } :=
  setAttr_of_genuine hp he (by decide) x

/-- The step that both kinds of parents take before they add a child. -/
theorem giveList_apply (hp : w.heap.NodeAt p e) :
    (do if w.heap.attrOrNull (.ref p) "nodes" = .null then
          setAttr (.ref p) "nodes" (← new (.list [])) : Op σ Unit) w =
      .ok () { w with heap := w.heap.withList p } := by
  rcases hp.nodes_cases with hnull | ⟨l, old, hl, -⟩
  · have hfound := (Heap.extends_add _ (.list [])).found hp.found
    simp only [hnull, if_true, bind_apply, new_apply, Heap.withList, hp.found]
    exact setAttr_nodes (w := { w with heap := w.heap.add (.list []) }) hfound hp.genuine _
  · simp [hl, Heap.withList]

/-- A smart node adopts a child. -/
theorem adopt_apply (foreign : Caller σ) (fuel : Nat) (hp : w.heap.NodeAt p e)
    (hc : w.heap.get? c = some (.entity f)) (hf : f.Linkable) :
    Smart.adopt (invoke foreign (fuel + 1)) (.ref p) (.ref c) w =
      .ok () { w with heap := (w.heap.link c p).withList p } := by
  obtain ⟨e', he'⟩ := hp.link hc (Heap.lt_fresh_of_get? hp.found)
  have hgive := giveList_apply (w := { w with heap := w.heap.link c p }) he'
  rw [Smart.adopt, bind_of_ok (requireNode_apply (Heap.isNode_of_linkable hc hf) _),
    bind_of_ok (linkParent_apply foreign fuel hc hf hp.found hp.genuine), Smart.children,
    bind_of_ok (getAttr_nodes he')]
  exact hgive

/-- A plain node is made to adopt a child. -/
theorem attach_apply (foreign : Caller σ) (fuel : Nat) (hp : w.heap.NodeAt p e)
    (hc : w.heap.get? c = some (.entity f)) (hf : f.Linkable) :
    Tree.attach (invoke foreign (fuel + 1)) (.ref p) (.ref c) w =
      .ok () { w with heap := (w.heap.link c p).withList p } := by
  obtain ⟨e', he'⟩ := hp.link hc (Heap.lt_fresh_of_get? hp.found)
  have hgive := giveList_apply (w := { w with heap := w.heap.link c p }) he'
  rw [Tree.attach, bind_of_ok (heap_apply w), bind_of_ok (requireList_apply hp.list_or_null _),
    bind_of_ok (linkParent_apply foreign fuel hc hf hp.found hp.genuine),
    bind_of_ok (heap_apply _)]
  exact hgive

/-- An operation replaces the items of any list in the given way. -/
def EditsList (place : Value → Op σ Unit) (edit : List Value → List Value) : Prop :=
  ∀ (w : World σ) (l : Addr) (items : List Value), w.heap.get? l = some (.list items) →
    place (.ref l) w = .ok () { w with heap := w.heap.put l (.list (edit items)) }

theorem append_editsList (call : Caller σ) (item : Value) :
    EditsList (append call · item) (· ++ [item]) :=
  fun _ _ _ hl ↦ append_apply hl call item

theorem prepend_editsList (call : Caller σ) (item : Value) :
    EditsList (prepend call · item) (item :: ·) :=
  fun _ _ _ hl ↦ prepend_apply hl call item

/-- A way to place an item edits a list, and what is no list is asked by name. -/
structure Places (call : Caller σ) (place : Value → Op σ Unit) (edit : List Value → List Value)
    (name : String) (args : List Value) : Prop where
  edits : EditsList place edit
  asks : ∀ (w : World σ) (x : Value), w.heap.list? x = none →
    place x w = (callAttr call x name args >>= fun _ ↦ pure ()) w

theorem append_places (call : Caller σ) (item : Value) :
    Places call (append call · item) (· ++ [item]) "append" [item] where
  edits := append_editsList call item
  asks := by
    intro w x hlist
    rw [append, bind_of_ok (heap_apply w), hlist]
    cases x <;> rfl

theorem prepend_places (call : Caller σ) (item : Value) :
    Places call (prepend call · item) (item :: ·) "insert" [.int 0, item] where
  edits := prepend_editsList call item
  asks := by
    intro w x hlist
    rw [prepend, bind_of_ok (heap_apply w), hlist]
    cases x <;> rfl

/-- Adding to the list that a node has got gives the node other children. -/
theorem fillList_apply {place : Value → Op σ Unit} {edit : List Value → List Value}
    (hplace : EditsList place edit) (hp : w.heap.NodeAt p e) :
    (getAttr (.ref p) "nodes" >>= place) { w with heap := w.heap.withList p } =
      .ok () { w with heap := w.heap.setChildren p (edit (w.heap.children (.ref p))) } := by
  obtain ⟨e', l, hnode, hl, hget, hput⟩ := hp.withList
  rw [bind_of_ok (getAttr_nodes (w := { w with heap := w.heap.withList p }) hnode)]
  simp only [hl]
  rw [hplace { w with heap := w.heap.withList p } l _ hget, hput]

/-- The number of children of a node that was just given other children. -/
theorem childCount_apply (hp : w.heap.NodeAt p e) {items : List Value}
    (hitems : w.heap.childList? (.ref p) = some items) :
    (getAttr (.ref p) "nodes" >>= fun nodes ↦ size nodes >>= fun n ↦ pure (.int n) : Op σ Value) w =
      .ok (.int items.length) w := by
  obtain ⟨l, hl, hget⟩ := Heap.get?_of_list? hitems
  rw [bind_of_ok (getAttr_nodes hp)]
  simp only [hl]
  rw [bind_of_ok (size_apply hget), pure_apply]

end Lists

/-! ## Adding children -/

section Adding

variable {σ : Type} {w : World σ} {c p : Addr} {e f : Entity}

/-- The heap after a child was added to the children of a node. -/
def Heap.insertChild (h : Heap) (p c : Addr) (items : List Value) : Heap :=
  (h.link c p).setChildren p items

theorem Heap.children_link {h : Heap} (hc : h.get? c = some (.entity f)) (p : Addr) (v : Value) :
    (h.link c p).children v = h.children v := by
  rw [children, childList?_link hc]
  rfl

/-- What the two abilities to add a child have in common. -/
theorem smart_add_apply (foreign : Caller σ) (fuel : Nat) (hp : w.heap.NodeAt p e)
    (hc : w.heap.get? c = some (.entity f)) (hf : f.Linkable) {place : Value → Op σ Unit}
    {edit : List Value → List Value} (hplace : EditsList place edit) :
    (do
      Smart.adopt (invoke foreign (fuel + 1)) (.ref p) (.ref c)
      place (← Smart.children (.ref p))
      return .int (← size (← Smart.children (.ref p))) : Op σ Value) w =
      .ok (.int (edit (w.heap.children (.ref p))).length)
        { w with heap := w.heap.insertChild p c (edit (w.heap.children (.ref p))) } := by
  obtain ⟨e₁, h₁⟩ := hp.link hc (Heap.lt_fresh_of_get? hp.found)
  obtain ⟨e₂, h₂⟩ := h₁.setChildren h₁ (edit (w.heap.children (.ref p)))
  have hfill := fillList_apply (w := { w with heap := w.heap.link c p }) hplace h₁
  simp only [Heap.children_link hc] at hfill
  have hitems := Heap.childList?_setChildren_self h₁ (edit (w.heap.children (.ref p)))
  rw [bind_of_ok (adopt_apply foreign fuel hp hc hf), ← bind_assoc]
  simp only [Smart.children]
  rw [bind_of_ok hfill]
  exact childCount_apply (w := { w with heap := w.heap.insertChild p c _ }) h₂ hitems

/-! Adding to a plain node is reported in the log, and the report can fail to be written: a type
can be a number that is too long for it, or an object, which is written out with all that it refers
to. -/

theorem typeText_apply (v : Value) (w : World σ) :
    (Tree.typeText v : Op σ String) w =
      fromExcept (w.heap.literal (w.heap.attrOrNull v "type")) w := rfl

/-- A value that is written out without a look at any object, and is not too long for that. -/
def Value.Immediate : Value → Prop
  | .ref _ | .method _ _ => False
  | .int n => Decimal.digitCount n.natAbs ≤ Text.digitLimit
  | _ => True

theorem Heap.literal_of_immediate (h : Heap) {v : Value} (hv : v.Immediate) :
    ∃ text, h.literal v = .ok text := by
  rw [literal, show walkDepth = 99999 + 1 from rfl]
  cases v with
  | ref r => exact hv.elim
  | method a m => exact hv.elim
  | int n => exact ⟨_, if_neg (Nat.not_lt.mpr hv)⟩
  | _ => exact ⟨_, rfl⟩

/-- What keeps a report on two nodes from being written: the first of their types that cannot be
written out. -/
def Heap.reportFault? (h : Heap) (u v : Value) : Option Fault :=
  match h.literal (h.attrOrNull u "type"), h.literal (h.attrOrNull v "type") with
  | .error fault, _ | .ok _, .error fault => some fault
  | .ok _, .ok _ => none

theorem Heap.reportFault?_of_ok {h : Heap} {u v : Value} {s t : String}
    (hu : h.literal (h.attrOrNull u "type") = .ok s)
    (hv : h.literal (h.attrOrNull v "type") = .ok t) : h.reportFault? u v = none := by
  rw [reportFault?, hu, hv]

theorem Heap.reportFault?_of_immediate {h : Heap} {u v : Value}
    (hu : (h.attrOrNull u "type").Immediate) (hv : (h.attrOrNull v "type").Immediate) :
    h.reportFault? u v = none := by
  obtain ⟨s, hs⟩ := h.literal_of_immediate hu
  obtain ⟨t, ht⟩ := h.literal_of_immediate hv
  exact reportFault?_of_ok hs ht

/-- A report is followed by the rest of an operation, or it fails and nothing is changed. -/
theorem report_apply (report : String → String → String) (rest : Op σ Value) (u v : Value)
    (w : World σ) :
    ∃ log, (do
        debug Tree.editLogger (report (← Tree.typeText u) (← Tree.typeText v))
        rest) w = (w.heap.reportFault? u v).elim (rest { w with log := log }) (.error · w) := by
  unfold Heap.reportFault?
  cases hu : w.heap.literal (w.heap.attrOrNull u "type") with
  | error fault => exact ⟨w.log, by simp [bind_apply, typeText_apply, hu]⟩
  | ok s =>
    cases hv : w.heap.literal (w.heap.attrOrNull v "type") with
    | error fault => exact ⟨w.log, by simp [bind_apply, typeText_apply, hu, hv]⟩
    | ok t => exact ⟨_, by simp [bind_apply, typeText_apply, hu, hv]; rfl⟩

/-- Adding a child to a plain node, up to the report. -/
theorem plain_add_apply (foreign : Caller σ) (fuel : Nat) (hp : w.heap.NodeAt p e)
    (hc : w.heap.get? c = some (.entity f)) (hf : f.Linkable) {place : Value → Op σ Unit}
    {edit : List Value → List Value} (hplace : EditsList place edit) (rest : Op σ Value) :
    (do
      Tree.attach (invoke foreign (fuel + 1)) (.ref p) (.ref c)
      place (← getAttr (.ref p) "nodes")
      rest) w =
      rest { w with heap := w.heap.insertChild p c (edit (w.heap.children (.ref p))) } := by
  obtain ⟨e₁, h₁⟩ := hp.link hc (Heap.lt_fresh_of_get? hp.found)
  have hfill := fillList_apply (w := { w with heap := w.heap.link c p }) hplace h₁
  simp only [Heap.children_link hc] at hfill
  rw [bind_of_ok (attach_apply foreign fuel hp hc hf), ← bind_assoc, bind_of_ok hfill]
  rfl

/-- The number of children is counted after the child was added. -/
theorem childCount_insertChild (hp : w.heap.NodeAt p e) (hc : w.heap.get? c = some (.entity f))
    (items : List Value) (log : Log) :
    (getAttr (.ref p) "nodes" >>= fun nodes ↦ size nodes >>= fun n ↦ pure (.int n) : Op σ Value)
        { w with heap := w.heap.insertChild p c items, log := log } =
      .ok (.int items.length) { w with heap := w.heap.insertChild p c items, log := log } := by
  obtain ⟨e₁, h₁⟩ := hp.link hc (Heap.lt_fresh_of_get? hp.found)
  obtain ⟨e₂, h₂⟩ := h₁.setChildren h₁ items
  exact childCount_apply (w := { w with heap := w.heap.insertChild p c items, log := log }) h₂
    (Heap.childList?_setChildren_self h₁ items)

theorem attrOrNull_type_insertChild {h : Heap} (hp : h.NodeAt p e)
    (hc : h.get? c = some (.entity f)) {b : Addr} {g : Entity} (hb : h.get? b = some (.entity g))
    (items : List Value) :
    (h.insertChild p c items).attrOrNull (.ref b) "type" = h.attrOrNull (.ref b) "type" := by
  obtain ⟨e₁, h₁⟩ := hp.link hc (Heap.lt_fresh_of_get? hp.found)
  have hb' : ∃ g', (h.link c p).get? b = some (.entity g') := by
    by_cases hbc : b = c
    · subst hbc
      exact ⟨_, Heap.get?_link_self hc p⟩
    · exact ⟨g, (Heap.get?_link_of_ne c p hbc).trans hb⟩
  obtain ⟨g', hg'⟩ := hb'
  rw [Heap.insertChild, Heap.attrOrNull_setChildren_entity h₁ hg' items (by decide),
    Heap.attrOrNull_link hc p (.inr (by decide))]

theorem Heap.reportFault?_insertChild {h : Heap} (hp : h.NodeAt p e)
    (hc : h.get? c = some (.entity f)) (hct : (h.attrOrNull (.ref c) "type").Immediate)
    (hpt : (h.attrOrNull (.ref p) "type").Immediate) (items : List Value) :
    (h.insertChild p c items).reportFault? (.ref c) (.ref p) = none := by
  apply reportFault?_of_immediate
  · rwa [attrOrNull_type_insertChild hp hc hc]
  · rwa [attrOrNull_type_insertChild hp hc hp.found]

/-- What keeps an edit of the children of a node from being reported. Only those of plain nodes
are. -/
def Heap.editFault? (h : Heap) (k : Kind) (child parent : Value) : Option Fault :=
  if k = .plain then h.reportFault? child parent else none

theorem Heap.editFault?_of_reportFault? {h : Heap} {k : Kind} {child parent : Value}
    (hreport : h.reportFault? child parent = none) : h.editFault? k child parent = none := by
  rw [editFault?, hreport, ite_self]

/-- A removal is reported before it, if the node is there to be removed. -/
def Heap.removalFault? (h : Heap) (k : Kind) (child parent : Value) : Option Fault :=
  if child ∈ h.children parent then h.editFault? k child parent else none

/-- An operation adds a child to a node of some kind, which then has the given children. With a
plain node this is reported afterwards, which may fail. -/
def Op.Inserts (x : Op σ Value) (w : World σ) (k : Kind) (p c : Addr) (items : List Value) : Prop :=
  ∃ log, x w = ((w.heap.insertChild p c items).editFault? k (.ref c) (.ref p)).elim
    (.ok (.int items.length) { w with heap := w.heap.insertChild p c items, log := log })
    (.error · { w with heap := w.heap.insertChild p c items })

section Inserting

variable {x : Op σ Value} {k : Kind} {items : List Value}

/-- Whether or not the report can be written, the child was added before. -/
theorem Op.Inserts.leaves (hx : x.Inserts w k p c items) :
    x.Leaves w (w.heap.insertChild p c items) := by
  obtain ⟨log, hx⟩ := hx
  cases hfault : (w.heap.insertChild p c items).editFault? k (.ref c) (.ref p) with
  | some fault =>
    rw [hfault] at hx
    exact ⟨w.log, after_of_error hx⟩
  | none =>
    rw [hfault] at hx
    exact ⟨log, after_of_ok hx⟩

theorem Op.Inserts.gives (hx : x.Inserts w k p c items)
    (hreport : (w.heap.insertChild p c items).reportFault? (.ref c) (.ref p) = none) :
    x.Gives w (.int items.length) (w.heap.insertChild p c items) := by
  obtain ⟨log, hx⟩ := hx
  rw [Heap.editFault?_of_reportFault? hreport] at hx
  exact ⟨log, hx⟩

theorem inserts_of_reported (hp : w.heap.NodeAt p e) (hc : w.heap.get? c = some (.entity f))
    {report : String → String → String}
    (hx : x w =
      (do
        debug Tree.editLogger (report (← Tree.typeText (.ref c)) (← Tree.typeText (.ref p)))
        return .int (← size (← getAttr (.ref p) "nodes")) : Op σ Value)
        { w with heap := w.heap.insertChild p c items }) :
    x.Inserts w .plain p c items := by
  obtain ⟨log, h⟩ := report_apply report (return .int (← size (← getAttr (.ref p) "nodes")))
    (.ref c) (.ref p) { w with heap := w.heap.insertChild p c items }
  exact ⟨log, by rw [hx, h, childCount_insertChild hp hc items log]; rfl⟩

end Inserting

theorem Tree.firstCapability_of_smart {h : Heap} (hp : h.NodeAt p e) (hk : e.kind = .smart)
    {name : String} {m : Method} (hname : Method.ofName? name = some m) (others : List String) :
    Tree.firstCapability h (.ref p) (name :: others) = some (.method p m) := by
  rw [firstCapability, List.findSome?_cons,
    Heap.capability_of_smart hp.found hp.genuine hk hname]

theorem Tree.firstCapability_of_plain {h : Heap} (hp : h.NodeAt p e) (hk : e.kind = .plain)
    {names : List String} (hnames : ∀ name ∈ names, name ∈ Kind.plain.ownNames) :
    Tree.firstCapability h (.ref p) names = none :=
  List.findSome?_eq_none_iff.mpr fun name hn ↦
    Heap.capability_of_plain hp.found hp.genuine hk (hnames name hn)

section Kinds

variable (foreign : Caller σ) (fuel : Nat) (hp : w.heap.NodeAt p e)
  (hc : w.heap.get? c = some (.entity f)) (hf : f.Linkable)
include hp hc hf

/-- A parent and a child are nodes, and the heap is looked at. -/
theorem requireNodes_apply {α : Type} (rest : Heap → Op σ α) :
    (do
      requireNode (.ref p) "parent"
      requireNode (.ref c) "node"
      rest (← heap)) w = rest w.heap w := by
  rw [bind_of_ok (requireNode_apply (Heap.isNode_of_genuine hp.found hp.genuine) _),
    bind_of_ok (requireNode_apply (Heap.isNode_of_linkable hc hf) _), bind_of_ok (heap_apply w)]

theorem Tree.push_of_smart (hk : e.kind = .smart) :
    Tree.push (invoke foreign (fuel + 2)) (.ref p) (.ref c) w =
      .ok (.int (w.heap.children (.ref p) ++ [Value.ref c]).length)
        { w with heap := w.heap.insertChild p c (w.heap.children (.ref p) ++ [.ref c]) } := by
  rw [Tree.push, requireNodes_apply hp hc hf,
    firstCapability_of_smart hp hk (show Method.ofName? "push" = some .push from rfl)]
  dsimp only
  rw [invoke_method foreign (fuel + 1) p rfl]
  exact smart_add_apply foreign fuel hp hc hf (append_editsList _ (.ref c))

theorem Tree.unshift_of_smart (hk : e.kind = .smart) :
    Tree.unshift (invoke foreign (fuel + 2)) (.ref p) (.ref c) w =
      .ok (.int (Value.ref c :: w.heap.children (.ref p)).length)
        { w with heap := w.heap.insertChild p c (.ref c :: w.heap.children (.ref p)) } := by
  rw [Tree.unshift, requireNodes_apply hp hc hf,
    firstCapability_of_smart hp hk (show Method.ofName? "unshift" = some .unshift from rfl)]
  dsimp only
  rw [invoke_method foreign (fuel + 1) p rfl]
  exact smart_add_apply foreign fuel hp hc hf (prepend_editsList _ (.ref c))

/-- A plain parent is dealt with from outside: the child is added, and the report comes last. -/
theorem Tree.push_of_plain (hk : e.kind = .plain) :
    Tree.push (invoke foreign (fuel + 1)) (.ref p) (.ref c) w =
      (do
        debug editLogger ("Pushed " ++ (← typeText (.ref c)) ++ " onto " ++ (← typeText (.ref p)))
        return .int (← size (← getAttr (.ref p) "nodes")) : Op σ Value)
        { w with heap := w.heap.insertChild p c (w.heap.children (.ref p) ++ [.ref c]) } := by
  rw [Tree.push, requireNodes_apply hp hc hf, firstCapability_of_plain hp hk (by decide)]
  exact plain_add_apply foreign fuel hp hc hf (append_editsList _ (.ref c)) _

theorem Tree.unshift_of_plain (hk : e.kind = .plain) :
    Tree.unshift (invoke foreign (fuel + 1)) (.ref p) (.ref c) w =
      (do
        debug editLogger
          ("Unshifted " ++ (← typeText (.ref c)) ++ " onto " ++ (← typeText (.ref p)))
        return .int (← size (← getAttr (.ref p) "nodes")) : Op σ Value)
        { w with heap := w.heap.insertChild p c (.ref c :: w.heap.children (.ref p)) } := by
  rw [Tree.unshift, requireNodes_apply hp hc hf, firstCapability_of_plain hp hk (by decide)]
  exact plain_add_apply foreign fuel hp hc hf (prepend_editsList _ (.ref c)) _

/-- Whatever kind the parent is of, the child is added at the end and linked. -/
theorem Tree.push_inserts : (Tree.push (invoke foreign (fuel + 2)) (.ref p) (.ref c)).Inserts w
    e.kind p c (w.heap.children (.ref p) ++ [.ref c]) := by
  rcases hp.genuine.kind with hk | hk
  · rw [hk]
    exact ⟨w.log, Tree.push_of_smart foreign fuel hp hc hf hk⟩
  · rw [hk]
    exact inserts_of_reported hp hc (Tree.push_of_plain foreign (fuel + 1) hp hc hf hk)

theorem Tree.unshift_inserts :
    (Tree.unshift (invoke foreign (fuel + 2)) (.ref p) (.ref c)).Inserts w e.kind p c
      (.ref c :: w.heap.children (.ref p)) := by
  rcases hp.genuine.kind with hk | hk
  · rw [hk]
    exact ⟨w.log, Tree.unshift_of_smart foreign fuel hp hc hf hk⟩
  · rw [hk]
    exact inserts_of_reported hp hc (Tree.unshift_of_plain foreign (fuel + 1) hp hc hf hk)

end Kinds

end Adding

/-! ## Removing children -/

section Removing

variable {σ : Type} {w : World σ} {c p : Addr} {e f : Entity}

/-- An operation takes something from any list and answers accordingly; there is nothing to be had
from an empty list. -/
structure TakesFromList (take : Value → Op σ Value) (answer : List Value → Value)
    (edit : List Value → List Value) : Prop where
  run : ∀ (w : World σ) (l : Addr) (items : List Value), w.heap.get? l = some (.list items) →
    take (.ref l) w = .ok (answer items) { w with heap := w.heap.put l (.list (edit items)) }
  answer_nil : answer [] = .null
  edit_nil : edit [] = []

theorem popLast_takesFromList (call : Caller σ) :
    TakesFromList (popLast call) (fun items ↦ items.getLast?.getD .null) List.dropLast where
  run := fun _ _ _ hl ↦ popLast_apply hl call
  answer_nil := rfl
  edit_nil := rfl

theorem popFirst_takesFromList (call : Caller σ) :
    TakesFromList (popAt call · 0) (fun items ↦ items.head?.getD .null) List.tail where
  run := fun w l items hl ↦ by
    rw [popAt_apply hl]
    cases items <;> rfl
  answer_nil := rfl
  edit_nil := rfl

/-- The step that takes something from the children of a node, if it has any. -/
theorem take_apply {take : Value → Op σ Value} {answer : List Value → Value}
    {edit : List Value → List Value} (htake : TakesFromList take answer edit)
    (hp : w.heap.NodeAt p e) :
    (if w.heap.truthy (w.heap.attrOrNull (.ref p) "nodes") then
        take (w.heap.attrOrNull (.ref p) "nodes")
      else pure .null : Op σ Value) w =
      .ok (answer (w.heap.children (.ref p)))
        { w with heap := w.heap.trimChildren p (edit (w.heap.children (.ref p))) } := by
  rcases hp.nodes_cases with hnull | ⟨l, items, hl, hget⟩
  · rw [Heap.trimChildren_of_null hnull, Heap.children_of_null hnull, htake.answer_nil]
    simp [hnull, Heap.truthy]
  · rw [Heap.trimChildren_of_list hl hget, Heap.children_of_list hl hget]
    simp only [hl, Heap.truthy_list hget]
    cases items with
    | nil =>
      rw [htake.answer_nil, htake.edit_nil, Heap.put_get? hget]
      rfl
    | cons item rest => exact htake.run w l _ hget

theorem Value.identical_ref (c : Addr) : (Value.ref c).identical = (· == .ref c) := by
  funext v
  cases v with
  | ref b =>
    rw [Bool.eq_iff_iff, Value.identical, beq_iff_eq, beq_iff_eq, Value.ref.injEq]
    exact eq_comm
  | _ => rfl

/-- What is at the index of a value is the value, and taking it out leaves the others in order. -/
theorem erase_of_idxOf? {items : List Value} {v : Value} {index : Nat}
    (hi : items.idxOf? v = some index) :
    items[index]? = some v ∧ items.eraseIdx index = items.erase v ∧ v ∈ items := by
  have hget : items[index]? = some v := by
    obtain ⟨hlt, hv, -⟩ := List.findIdx?_eq_some_iff_getElem.mp hi
    rw [List.getElem?_eq_getElem hlt]
    simpa using hv
  refine ⟨hget, ?_, List.mem_of_getElem? hget⟩
  rw [List.erase_eq_eraseIdx, hi]

/-- Looking a node up by identity and taking it out. -/
theorem takeOut_takesFromList (call : Caller σ) (c : Addr) :
    TakesFromList
      (fun nodes ↦ do
        match (← iterate nodes).findIdx? (Value.ref c).identical with
        | some index => popAt call nodes index
        | none => return .null)
      (fun items ↦ if Value.ref c ∈ items then .ref c else .null) (·.erase (.ref c)) where
  run := fun w l items hl ↦ by
    rw [bind_of_ok (iterate_apply hl), Value.identical_ref]
    change (match items.idxOf? (Value.ref c) with
      | some index => popAt call (.ref l) index
      | none => return .null) w = _
    cases hi : items.idxOf? (Value.ref c) with
    | none =>
      have habsent : Value.ref c ∉ items := List.idxOf?_eq_none_iff.mp hi
      simp only [pure_apply, habsent, if_false, List.erase_of_not_mem habsent, Heap.put_get? hl]
    | some index =>
      obtain ⟨hget, herase, hmem⟩ := erase_of_idxOf? hi
      simp only [popAt_apply hl, hget, herase, hmem, if_true, Option.getD_some]
  answer_nil := rfl
  edit_nil := rfl

section Kinds

variable (foreign : Caller σ) (fuel : Nat) (hp : w.heap.NodeAt p e)
include hp

/-- What the two abilities to take a child out have in common. -/
theorem smart_take_apply {take : Value → Op σ Value} {answer : List Value → Value}
    {edit : List Value → List Value} (htake : TakesFromList take answer edit) :
    (do
      let nodes ← Smart.children (.ref p)
      if (← heap).truthy nodes then take nodes else return .null : Op σ Value) w =
      .ok (answer (w.heap.children (.ref p)))
        { w with heap := w.heap.trimChildren p (edit (w.heap.children (.ref p))) } := by
  rw [Smart.children, bind_of_ok (getAttr_nodes hp), bind_of_ok (heap_apply w)]
  exact take_apply htake hp

theorem Tree.pop_gives :
    (Tree.pop (invoke foreign (fuel + 1)) (.ref p)).Gives w
      ((w.heap.children (.ref p)).getLast?.getD .null)
      (w.heap.trimChildren p (w.heap.children (.ref p)).dropLast) := by
  apply gives_of_ok
  rw [Tree.pop, bind_of_ok (requireNode_apply (Heap.isNode_of_genuine hp.found hp.genuine) _),
    bind_of_ok (capability_apply _ _ w)]
  rcases hp.genuine.kind with hk | hk
  · rw [Heap.capability_of_smart hp.found hp.genuine hk
      (show Method.ofName? "pop" = some .pop from rfl)]
    simp only
    rw [invoke_method foreign fuel p rfl]
    exact smart_take_apply hp (popLast_takesFromList _)
  · rw [Heap.capability_of_plain hp.found hp.genuine hk (by decide)]
    simp only
    rw [bind_of_ok (heap_apply w), bind_of_ok (requireList_apply hp.list_or_null _),
      bind_of_ok (heap_apply w)]
    exact take_apply (popLast_takesFromList _) hp

theorem Tree.shift_gives :
    (Tree.shift (invoke foreign (fuel + 1)) (.ref p)).Gives w
      ((w.heap.children (.ref p)).head?.getD .null)
      (w.heap.trimChildren p (w.heap.children (.ref p)).tail) := by
  apply gives_of_ok
  rw [Tree.shift, bind_of_ok (requireNode_apply (Heap.isNode_of_genuine hp.found hp.genuine) _),
    bind_of_ok (capability_apply _ _ w)]
  rcases hp.genuine.kind with hk | hk
  · rw [Heap.capability_of_smart hp.found hp.genuine hk
      (show Method.ofName? "shift" = some .shift from rfl)]
    simp only
    rw [invoke_method foreign fuel p rfl]
    exact smart_take_apply hp (popFirst_takesFromList _)
  · rw [Heap.capability_of_plain hp.found hp.genuine hk (by decide)]
    simp only
    rw [bind_of_ok (heap_apply w), bind_of_ok (requireList_apply hp.list_or_null _),
      bind_of_ok (heap_apply w)]
    exact take_apply (popFirst_takesFromList _) hp

variable (hc : w.heap.get? c = some (.entity f)) (hf : f.Linkable)
include hc hf

theorem Tree.remove_of_smart (hk : e.kind = .smart) :
    Tree.remove (invoke foreign (fuel + 1)) (.ref p) (.ref c) w =
      .ok (if Value.ref c ∈ w.heap.children (.ref p) then .ref c else .null)
        { w with heap := w.heap.trimChildren p ((w.heap.children (.ref p)).erase (.ref c)) } := by
  rw [Tree.remove, requireNodes_apply hp hc hf,
    bind_of_ok (requireList_apply hp.list_or_null _), bind_of_ok (capability_apply _ _ w),
    Heap.capability_of_smart hp.found hp.genuine hk
      (show Method.ofName? "remove" = some .remove from rfl)]
  simp only
  rw [invoke_method foreign fuel p rfl]
  simp only [Method.run, Smart.remove, Smart.children]
  rw [bind_of_ok (getAttr_nodes hp), bind_of_ok (heap_apply w),
    ← take_apply (takeOut_takesFromList _ c) hp]
  cases w.heap.truthy (w.heap.attrOrNull (.ref p) "nodes") <;> rfl

/-- From a plain parent a child is removed after that was reported. -/
theorem Tree.remove_of_plain (hk : e.kind = .plain) :
    (.ref c ∉ w.heap.children (.ref p) ∧
      Tree.remove (invoke foreign fuel) (.ref p) (.ref c) w = .ok .null w) ∨
    ∃ l index, w.heap.attrOrNull (.ref p) "nodes" = .ref l ∧
      w.heap.get? l = some (.list (w.heap.children (.ref p))) ∧
      (w.heap.children (.ref p)).idxOf? (.ref c) = some index ∧
      Tree.remove (invoke foreign fuel) (.ref p) (.ref c) w =
        (do
          debug editLogger ("Removed " ++ (← typeText (.ref c)) ++ " from " ++
            (← typeText (.ref p)) ++ " at " ++ toString index)
          popAt (invoke foreign fuel) (.ref l) index : Op σ Value) w := by
  rw [Tree.remove, requireNodes_apply hp hc hf,
    bind_of_ok (requireList_apply hp.list_or_null _), bind_of_ok (capability_apply _ _ w),
    Heap.capability_of_plain hp.found hp.genuine hk (by decide)]
  simp only
  rw [bind_of_ok (heap_apply w), bind_of_ok (heap_apply w)]
  rcases hp.nodes_cases with hnull | ⟨l, items, hl, hget⟩
  · left
    rw [Heap.children_of_null hnull]
    simp [hnull, Heap.truthy]
  · rw [Heap.children_of_list hl hget]
    simp only [hl, Heap.truthy_list hget, Bool.not_not, List.isEmpty_iff]
    by_cases hnil : items = []
    · left
      simp [hnil]
    · rw [if_neg hnil, bind_of_ok (iterate_apply hget)]
      cases hi : items.idxOf? (.ref c) with
      | none => exact .inl ⟨List.idxOf?_eq_none_iff.mp hi, rfl⟩
      | some index => exact .inr ⟨l, index, rfl, hget, rfl, rfl⟩

/-- A child is removed after that was reported, if it is; the first occurrence is meant. -/
theorem Tree.remove_apply :
    ∃ log, Tree.remove (invoke foreign (fuel + 1)) (.ref p) (.ref c) w =
      (w.heap.removalFault? e.kind (.ref c) (.ref p)).elim
      (.ok (if Value.ref c ∈ w.heap.children (.ref p) then .ref c else .null)
        { w with heap := w.heap.trimChildren p ((w.heap.children (.ref p)).erase (.ref c))
                 log := log })
      (.error · w) := by
  rcases hp.genuine.kind with hk | hk
  · have hnone : w.heap.removalFault? e.kind (.ref c) (.ref p) = none := by
      simp [Heap.removalFault?, Heap.editFault?, hk]
    rw [hnone]
    exact ⟨w.log, Tree.remove_of_smart foreign fuel hp hc hf hk⟩
  · rcases Tree.remove_of_plain foreign (fuel + 1) hp hc hf hk with
      ⟨habsent, hx⟩ | ⟨l, index, hl, hget, hi, hx⟩
    · have hnone : w.heap.removalFault? e.kind (.ref c) (.ref p) = none := if_neg habsent
      rw [hnone, if_neg habsent, List.erase_of_not_mem habsent, w.heap.trimChildren_children p]
      exact ⟨w.log, hx⟩
    · obtain ⟨hitem, herase, hmem⟩ := erase_of_idxOf? hi
      have hreport : w.heap.removalFault? e.kind (.ref c) (.ref p) =
          w.heap.reportFault? (.ref c) (.ref p) := by
        simp [Heap.removalFault?, Heap.editFault?, hk, hmem]
      obtain ⟨log, h⟩ := report_apply
        (fun s t ↦ "Removed " ++ s ++ " from " ++ t ++ " at " ++ toString index)
        (popAt (invoke foreign (fuel + 1)) (.ref l) index) (.ref c) (.ref p) w
      have hpop := popAt_apply (w := { w with log := log }) hget (invoke foreign (fuel + 1)) index
      rw [hitem, herase, Option.getD_some] at hpop
      refine ⟨log, hx.trans (h.trans ?_)⟩
      rw [hreport, hpop, if_pos hmem, Heap.trimChildren_of_list hl hget]

/-- Some of the children are left, in any case. -/
theorem Tree.remove_leaves :
    ∃ items ⊆ w.heap.children (.ref p),
      (Tree.remove (invoke foreign (fuel + 1)) (.ref p) (.ref c)).Leaves w
        (w.heap.trimChildren p items) := by
  obtain ⟨log, hx⟩ := Tree.remove_apply foreign fuel hp hc hf
  cases hfault : w.heap.removalFault? e.kind (.ref c) (.ref p) with
  | none =>
    rw [hfault] at hx
    exact ⟨_, List.erase_subset, log, after_of_ok hx⟩
  | some fault =>
    rw [hfault] at hx
    refine ⟨_, List.Subset.refl _, w.log, ?_⟩
    rw [w.heap.trimChildren_children p]
    exact after_of_error hx

theorem Tree.has_gives :
    (Tree.has (invoke foreign (fuel + 1)) (.ref p) (.ref c)).Gives w
      (decide (Value.ref c ∈ w.heap.children (.ref p))) w.heap := by
  apply gives_of_ok
  rw [Tree.has, bind_of_ok (requireNode_apply (Heap.isNode_of_genuine hp.found hp.genuine) _),
    bind_of_ok (requireNode_apply (Heap.isNode_of_linkable hc hf) _),
    bind_of_ok (capability_apply _ _ w)]
  rcases hp.genuine.kind with hk | hk
  · have hanswer : Smart.has (.ref p) (.ref c) w =
        .ok (decide (Value.ref c ∈ w.heap.children (.ref p))) w := by
      rw [Smart.has, Smart.children, bind_of_ok (getAttr_nodes hp), bind_of_ok (heap_apply w)]
      rcases hp.nodes_cases with hnull | ⟨l, items, hl, hget⟩
      · rw [Heap.children_of_null hnull]
        simp [hnull, Heap.truthy]
      · rw [Heap.children_of_list hl hget]
        simp only [hl, Heap.truthy_list hget, Bool.not_not, List.isEmpty_iff]
        by_cases hnil : items = []
        · simp [hnil]
        · rw [if_neg hnil, bind_of_ok (iterate_apply hget), Value.identical_ref, pure_apply]
          congr 1
          rw [Bool.eq_iff_iff]
          simp
    rw [Heap.capability_of_smart hp.found hp.genuine hk
      (show Method.ofName? "has" = some .has from rfl)]
    simp only
    have hcall : invoke foreign (fuel + 1) (.method p .has) [.ref c] [] w =
        .ok (.bool (decide (Value.ref c ∈ w.heap.children (.ref p)))) w := by
      rw [invoke_method foreign fuel p rfl]
      simp only [Method.run]
      rw [bind_of_ok hanswer, pure_apply]
    rw [bind_of_ok hcall]
    rfl
  · rw [Heap.capability_of_plain hp.found hp.genuine hk (by decide)]
    simp only
    rw [bind_of_ok (heap_apply w)]
    rcases hp.nodes_cases with hnull | ⟨l, items, hl, hget⟩
    · rw [Heap.children_of_null hnull]
      simp [hnull]
    · have hseq : (w.heap.sequence? (.ref l)).isSome = true := by
        simp [Heap.sequence?, Heap.object?, hget]
      rw [Heap.children_of_list hl hget]
      simp only [hl, reduceCtorEq, if_false]
      rw [bind_of_ok (requireSequence_apply hseq _ _), bind_of_ok (iterate_apply hget), pure_apply]
      congr 1
      rw [Bool.eq_iff_iff]
      simp

end Kinds

end Removing

end TagTree
