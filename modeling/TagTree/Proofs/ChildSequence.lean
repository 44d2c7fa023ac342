import TagTree.Proofs.Sentinels

/-!
# Parents as sequences

It should make no difference to whoever edits the children of a node whether the node does that
itself or has it done. There is one reference model for both, in which children are nothing at all
until the first insertion and a list ever after, and smart parents always follow it. What is done to
plain parents is reported in the log, and a report fails if a type cannot be written out: a child
that was added is there by then, and one that was to be removed still is. So the two kinds agree
just if all reports can be written (`sightings_smart_eq_plain_iff`).
-/

namespace TagTree

open Op

/-! ## Calls and what they should do -/

/-- A call that edits the children of a node or asks about them. -/
inductive ChildCall
  | push (node : Value)
  | unshift (node : Value)
  | pop
  | shift
  | remove (node : Value)
  | has (node : Value)

namespace ChildCall

/-- The nodes that are given to a call. -/
def arguments : ChildCall → List Value
  | push node | unshift node | remove node | has node => [node]
  | pop | shift => []

/-- The answer to a call and the children afterwards. Values that refer to objects are equal only if
they refer to the same object. -/
def model : ChildCall → Option (List Value) → Value × Option (List Value)
  | push node, s => (.int (s.getD []).length.succ, some (s.getD [] ++ [node]))
  | unshift node, s => (.int (s.getD []).length.succ, some (node :: s.getD []))
  | pop, s => ((s.getD []).getLast?.getD .null, s.map List.dropLast)
  | shift, s => ((s.getD []).head?.getD .null, s.map List.tail)
  | remove node, s => if node ∈ s.getD [] then (node, s.map (·.erase node)) else (.null, s)
  | has node, s => (.bool (node ∈ s.getD []), s)

theorem model_remove (node : Value) (s : Option (List Value)) :
    (remove node).model s =
      (if node ∈ s.getD [] then node else .null, s.map (·.erase node)) := by
  by_cases hmem : node ∈ s.getD []
  · simp only [model, if_pos hmem]
  · cases s with
    | none => rfl
    | some items =>
      have habsent : node ∉ items := hmem
      rw [model, if_neg hmem, if_neg hmem, Option.map_some, List.erase_of_not_mem habsent]

def run {σ : Type} (call : Caller σ) (parent : Value) : ChildCall → Op σ Value
  | push node => Tree.push call parent node
  | unshift node => Tree.unshift call parent node
  | pop => Tree.pop call parent
  | shift => Tree.shift call parent
  | remove node => Tree.remove call parent node
  | has node => do return .bool (← Tree.has call parent node)

/-- What keeps a call on a parent of some kind from being reported, with the heaps before and after
it. Insertions are reported when they are done, and removals before. -/
def fault? (k : Kind) (parent : Value) (h h' : Heap) : ChildCall → Option Fault
  | push node | unshift node => h'.editFault? k node parent
  | remove node => h.removalFault? k node parent
  | pop | shift | has _ => none

/-- The children after a call that could not be reported. -/
def unreported : ChildCall → Option (List Value) → Option (List Value)
  | push node, s => ((push node).model s).2
  | unshift node, s => ((unshift node).model s).2
  | _, s => s

/-- The result of a call and the children afterwards, given what keeps it from being reported. -/
def outcome (c : ChildCall) :
    Option Fault → Option (List Value) → Except Fault Value × Option (List Value)
  | none, s => (.ok (c.model s).1, (c.model s).2)
  | some fault, s => (.error fault, c.unreported s)

end ChildCall

/-- The children of a value as they can be seen: null, which is no list, or the items of a list.
Anything else is not to be seen at all. -/
def Heap.childState? (h : Heap) (v : Value) : Option (Option (List Value)) :=
  if h.attrOrNull v "nodes" = .null then some none else (h.childList? v).map some

/-- What there is to see of a call: its result, and the children afterwards. -/
abbrev Sighting := Except Fault Value × Option (Option (List Value))

/-- The sightings of calls that are made one after the other. -/
def sightings {σ : Type} (call : Caller σ) (parent : Value) :
    List ChildCall → World σ → List Sighting
  | [], _ => []
  | c :: rest, w =>
    let w' := (c.run call parent).after w
    ((c.run call parent).result w, w'.heap.childState? parent) :: sightings call parent rest w'

/-- Calls on a parent of some kind, each with what keeps it from being reported. -/
def reports {σ : Type} (call : Caller σ) (k : Kind) (parent : Value) :
    List ChildCall → World σ → List (ChildCall × Option Fault)
  | [], _ => []
  | c :: rest, w =>
    let w' := (c.run call parent).after w
    (c, c.fault? k parent w.heap w'.heap) :: reports call k parent rest w'

/-- The sightings of the reference model. -/
def modelSightings : List (ChildCall × Option Fault) → Option (List Value) → List Sighting
  | [], _ => []
  | r :: rest, s =>
    let seen := r.1.outcome r.2 s
    (seen.1, some seen.2) :: modelSightings rest seen.2

/-! ## Nodes that can be children -/

/-- A node that can be inserted without anybody being asked. -/
def Heap.Insertable (h : Heap) (v : Value) : Prop :=
  ∃ a f, v = .ref a ∧ h.get? a = some (.entity f) ∧ f.Linkable

namespace Heap

variable {h : Heap} {p c : Addr} {e f : Entity} {v : Value} {items : List Value}

theorem childState?_of_childList? (hlist : h.childList? v = some items) :
    h.childState? v = some (some items) := by
  have hne : h.attrOrNull v "nodes" ≠ .null := by
    intro hnull
    rw [childList?, hnull] at hlist
    cases hlist
  rw [childState?, if_neg hne, hlist]
  rfl

theorem childState?_of_null (hnull : h.attrOrNull v "nodes" = .null) :
    h.childState? v = some none := by
  rw [childState?, if_pos hnull]

theorem children_of_childState? {s : Option (List Value)} (hs : h.childState? v = some s) :
    h.children v = s.getD [] := by
  unfold childState? at hs
  split at hs
  · next hnull =>
    cases hs
    rw [children, childList?, hnull]
    rfl
  · obtain ⟨items, hlist, rfl⟩ := Option.map_eq_some_iff.mp hs
    rw [children, hlist]

theorem childState?_trimChildren {s : Option (List Value)}
    (hs : h.childState? (.ref p) = some s) (items : List Value) :
    (h.trimChildren p items).childState? (.ref p) = some (s.map fun _ ↦ items) := by
  unfold childState? at hs
  split at hs
  · next hnull =>
    cases hs
    rw [trimChildren_of_null hnull, childState?_of_null hnull]
    rfl
  · obtain ⟨old, hlist, rfl⟩ := Option.map_eq_some_iff.mp hs
    apply childState?_of_childList?
    rw [childList?_trimChildren_self, hlist]
    rfl

theorem Insertable.link (hv : h.Insertable v) (hc : h.get? c = some (.entity f)) (p : Addr) :
    (h.link c p).Insertable v := by
  obtain ⟨a, g, rfl, ha, hg⟩ := hv
  by_cases hac : a = c
  · subst hac
    exact ⟨a, _, rfl, get?_link_self ha p, hg.withParent p⟩
  · exact ⟨a, g, rfl, (get?_link_of_ne c p hac).trans ha, hg⟩

theorem Insertable.setChildren (hv : h.Insertable v) (hp : h.NodeAt p e) (items : List Value) :
    (h.setChildren p items).Insertable v := by
  obtain ⟨a, g, rfl, ha, hg⟩ := hv
  by_cases hap : a = p
  · subst hap
    obtain ⟨e', he'⟩ := hp.setChildren hp items
    exact ⟨a, e', rfl, he'.found, .genuine he'.genuine⟩
  · refine ⟨a, g, rfl, ?_, hg⟩
    rcases hp.nodes_cases with hnull | ⟨l, old, hl, hget⟩
    · rw [get?_setChildren_of_ne hp.found hnull items (Nat.ne_of_lt (lt_fresh_of_get? ha)) hap, ha]
    · have hal : a ≠ l := by rintro rfl; simp [ha] at hget
      rw [setChildren_of_list hl, get?_put_of_ne _ hal, ha]

end Heap

/-! ## Parents and their guests -/

/-- A parent of some kind with the given children, and nodes that may be inserted under it. Their
types and that of the parent have some property. -/
structure Hosts (h : Heap) (p : Addr) (k : Kind) (P : Value → Prop) (guests : Value → Prop)
    (s : Option (List Value)) : Prop where
  node : ∃ e, h.NodeAt p e ∧ e.kind = k
  type : P (h.attrOrNull (.ref p) "type")
  guest : ∀ v, guests v → h.Insertable v ∧ P (h.attrOrNull v "type")
  state : h.childState? (.ref p) = some s

section Steps

variable {h : Heap} {p c : Addr} {f : Entity} {k : Kind} {P guests : Value → Prop}
  {s : Option (List Value)}

theorem Hosts.insertChild (hh : Hosts h p k P guests s) (hc : h.get? c = some (.entity f))
    (items : List Value) : Hosts (h.insertChild p c items) p k P guests (some items) := by
  obtain ⟨e, he, hk⟩ := hh.node
  obtain ⟨e₁, h₁⟩ := he.link hc (Heap.lt_fresh_of_get? he.found)
  obtain ⟨e₂, h₂⟩ := h₁.setChildren h₁ items
  have hkind := Heap.kindAt?_insertChild he hc items p
  rw [Heap.kindAt?_of_get? he.found, hk] at hkind
  refine ⟨⟨e₂, h₂, ?_⟩, ?_, fun v hv ↦ ?_, ?_⟩
  · exact Option.some.inj ((Heap.kindAt?_of_get? h₂.found).symm.trans hkind)
  · rw [attrOrNull_type_insertChild he hc he.found]
    exact hh.type
  · obtain ⟨hinsertable, htype⟩ := hh.guest v hv
    refine ⟨(hinsertable.link hc p).setChildren h₁ items, ?_⟩
    obtain ⟨a, g, rfl, ha, -⟩ := hinsertable
    rwa [attrOrNull_type_insertChild he hc ha]
  · exact Heap.childState?_of_childList? (Heap.childList?_setChildren_self h₁ items)

theorem Hosts.trimChildren (hh : Hosts h p k P guests s) (items : List Value) :
    Hosts (h.trimChildren p items) p k P guests (s.map fun _ ↦ items) := by
  obtain ⟨e, he, hk⟩ := hh.node
  have hstate := Heap.childState?_trimChildren hh.state items
  have htype (v : Value) :
      (h.trimChildren p items).attrOrNull v "type" = h.attrOrNull v "type" := by
    rw [Heap.attrOrNull, Heap.attr?_trimChildren, Heap.attrOrNull]
  cases hlist : h.childList? (.ref p) with
  | none =>
    have hsame : h.trimChildren p items = h := by simp [Heap.trimChildren, hlist]
    rw [hsame] at hstate ⊢
    exact ⟨hh.node, hh.type, hh.guest, hstate⟩
  | some old =>
    have hset : h.trimChildren p items = h.setChildren p items := by
      simp [Heap.trimChildren, hlist]
    rw [hset] at hstate htype ⊢
    obtain ⟨e', he'⟩ := he.setChildren he items
    have hkind := Heap.kindAt?_setChildren he items p
    rw [Heap.kindAt?_of_get? he.found, hk, Heap.kindAt?_of_get? he'.found] at hkind
    refine ⟨⟨e', he', Option.some.inj hkind⟩, htype _ ▸ hh.type, fun v hv ↦ ?_, hstate⟩
    obtain ⟨hinsertable, hv⟩ := hh.guest v hv
    exact ⟨hinsertable.setChildren he items, htype v ▸ hv⟩

/-- With a smart parent, or with types that are written out without a look at other objects, there
is nothing that keeps an edit from being reported. -/
theorem Hosts.editFault?_eq_none (hh : Hosts h p k P guests s)
    (hquiet : k = .smart ∨ ∀ x, P x → x.Immediate) {v : Value} (hv : guests v) :
    h.editFault? k v (.ref p) = none := by
  rcases hquiet with rfl | himmediate
  · exact if_neg (by decide)
  · exact Heap.editFault?_of_reportFault? (Heap.reportFault?_of_immediate
      (himmediate _ (hh.guest v hv).2) (himmediate _ hh.type))

variable {σ : Type} {w : World σ} {call : ChildCall}

/-- A call is answered as in the model, unless something keeps it from being reported; and what it
leaves is what it leaves in the model. -/
theorem Hosts.step (foreign : Caller σ) (fuel : Nat) (hh : Hosts w.heap p k P guests s)
    (hargs : ∀ v ∈ call.arguments, guests v) :
    ∃ fault? w₁ w₂, call.run (invoke foreign (fuel + 2)) (.ref p) w =
        fault?.elim (.ok (call.model s).1 w₁) (.error · w₂) ∧
      Hosts w₁.heap p k P guests (call.model s).2 ∧
      Hosts w₂.heap p k P guests (call.unreported s) ∧
      call.fault? k (.ref p) w.heap w₁.heap = fault? ∧
      call.fault? k (.ref p) w.heap w₂.heap = fault? := by
  obtain ⟨e, he, rfl⟩ := hh.node
  have hchildren := Heap.children_of_childState? hh.state
  cases call with
  | push v =>
    obtain ⟨⟨c, f, rfl, hc, hf⟩, -⟩ := hh.guest v (hargs v List.mem_cons_self)
    obtain ⟨log, hrun⟩ := Tree.push_inserts foreign fuel he hc hf
    rw [hchildren, List.length_append] at hrun
    exact ⟨_, _, _, hrun, hh.insertChild hc _, hh.insertChild hc _, rfl, rfl⟩
  | unshift v =>
    obtain ⟨⟨c, f, rfl, hc, hf⟩, -⟩ := hh.guest v (hargs v List.mem_cons_self)
    obtain ⟨log, hrun⟩ := Tree.unshift_inserts foreign fuel he hc hf
    rw [hchildren] at hrun
    exact ⟨_, _, _, hrun, hh.insertChild hc _, hh.insertChild hc _, rfl, rfl⟩
  | pop =>
    obtain ⟨log, hrun⟩ := Tree.pop_gives foreign (fuel + 1) he
    have hhosts := hh.trimChildren (s.getD []).dropLast
    rw [hchildren] at hrun
    refine ⟨none, _, w, hrun, ?_, hh, rfl, rfl⟩
    cases s <;> exact hhosts
  | shift =>
    obtain ⟨log, hrun⟩ := Tree.shift_gives foreign (fuel + 1) he
    have hhosts := hh.trimChildren (s.getD []).tail
    rw [hchildren] at hrun
    refine ⟨none, _, w, hrun, ?_, hh, rfl, rfl⟩
    cases s <;> exact hhosts
  | remove v =>
    obtain ⟨⟨c, f, rfl, hc, hf⟩, -⟩ := hh.guest v (hargs v List.mem_cons_self)
    obtain ⟨log, hrun⟩ := Tree.remove_apply foreign (fuel + 1) he hc hf
    have hhosts := hh.trimChildren ((s.getD []).erase (.ref c))
    rw [hchildren] at hrun
    rw [ChildCall.model_remove]
    refine ⟨_, _, w, hrun, ?_, hh, rfl, rfl⟩
    cases s <;> exact hhosts
  | has v =>
    obtain ⟨⟨c, f, rfl, hc, hf⟩, -⟩ := hh.guest v (hargs v List.mem_cons_self)
    obtain ⟨log, hhas⟩ := Tree.has_gives foreign (fuel + 1) he hc hf
    rw [hchildren] at hhas
    exact ⟨none, _, w, bind_of_ok hhas _, hh, hh, rfl, rfl⟩

theorem Hosts.outcome (foreign : Caller σ) (fuel : Nat) (hh : Hosts w.heap p k P guests s)
    (hargs : ∀ v ∈ call.arguments, guests v) :
    let x := call.run (invoke foreign (fuel + 2)) (.ref p)
    let seen := call.outcome (call.fault? k (.ref p) w.heap (x.after w).heap) s
    x.result w = seen.1 ∧ Hosts (x.after w).heap p k P guests seen.2 := by
  obtain ⟨fault?, w₁, w₂, hrun, h₁, h₂, hfault₁, hfault₂⟩ := hh.step foreign fuel hargs
  dsimp only
  cases fault? with
  | none =>
    rw [after_of_ok hrun, hfault₁]
    exact ⟨result_of_ok hrun, h₁⟩
  | some fault =>
    rw [after_of_error hrun, hfault₂]
    exact ⟨result_of_error hrun, h₂⟩

/-- A sequence of calls is seen as in the model. -/
theorem Hosts.sightings_eq (foreign : Caller σ) (fuel : Nat) {calls : List ChildCall}
    (hh : Hosts w.heap p k P guests s) (hargs : ∀ c ∈ calls, ∀ v ∈ c.arguments, guests v) :
    sightings (invoke foreign (fuel + 2)) (.ref p) calls w =
      modelSightings (reports (invoke foreign (fuel + 2)) k (.ref p) calls w) s := by
  induction calls generalizing w s with
  | nil => rfl
  | cons call rest ih =>
    obtain ⟨hresult, hnext⟩ := hh.outcome foreign fuel (hargs call List.mem_cons_self)
    have hrest := ih hnext fun c hc ↦ hargs c (List.mem_cons_of_mem _ hc)
    simp only [sightings, reports, modelSightings]
    rw [hresult, hnext.state, hrest]

/-- Under the same conditions as for a single edit all calls of a sequence are reported. -/
theorem Hosts.all_reported (foreign : Caller σ) (fuel : Nat) {calls : List ChildCall}
    (hh : Hosts w.heap p k P guests s) (hquiet : k = .smart ∨ ∀ x, P x → x.Immediate)
    (hargs : ∀ c ∈ calls, ∀ v ∈ c.arguments, guests v) :
    ∀ r ∈ reports (invoke foreign (fuel + 2)) k (.ref p) calls w, r.2 = none := by
  induction calls generalizing w s with
  | nil => simp [reports]
  | cons call rest ih =>
    have hcall := hargs call List.mem_cons_self
    obtain ⟨-, hnext⟩ := hh.outcome foreign fuel hcall
    have hrest := ih hnext fun c hc ↦ hargs c (List.mem_cons_of_mem _ hc)
    refine List.forall_mem_cons.mpr ⟨?_, hrest⟩
    cases call with
    | push v => exact hnext.editFault?_eq_none hquiet (hcall v List.mem_cons_self)
    | unshift v => exact hnext.editFault?_eq_none hquiet (hcall v List.mem_cons_self)
    | remove v =>
      simp only [ChildCall.fault?, Heap.removalFault?,
        hh.editFault?_eq_none hquiet (hcall v List.mem_cons_self), ite_self]
    | _ => rfl

end Steps

theorem reports_eq_of_all_reported {σ : Type} {call : Caller σ} {k : Kind} {parent : Value}
    {calls : List ChildCall} {w : World σ}
    (hall : ∀ r ∈ reports call k parent calls w, r.2 = none) :
    reports call k parent calls w = calls.map (·, none) := by
  induction calls generalizing w with
  | nil => rfl
  | cons c rest ih =>
    obtain ⟨hfirst, hrest⟩ := List.forall_mem_cons.mp hall
    rw [reports, ih hrest, List.map_cons]
    exact congrArg (fun fault? ↦ (c, fault?) :: rest.map (·, none)) hfirst

/-- What is reported throughout looks different from what is not. -/
theorem all_reported_of_eq {calls : List ChildCall} {s s' : Option (List Value)}
    {rs : List (ChildCall × Option Fault)}
    (heq : modelSightings (calls.map (·, none)) s = modelSightings rs s') :
    ∀ r ∈ rs, r.2 = none := by
  induction rs generalizing calls s s' with
  | nil => simp
  | cons r rest ih =>
    cases calls with
    | nil => cases heq
    | cons c calls =>
      obtain ⟨hfirst, hrest⟩ := List.cons.inj heq
      refine List.forall_mem_cons.mpr ⟨?_, ih hrest⟩
      have hresult := congrArg Prod.fst hfirst
      cases hfault : r.2 with
      | none => rfl
      | some fault =>
        rw [hfault] at hresult
        cases hresult

/-! ## Indistinguishable parents -/

/-- A parent that was just made, without children. -/
structure Heap.Childless (h : Heap) (p : Addr) (k : Kind) (e : Entity) : Prop where
  found : h.get? p = some (.entity e)
  kind : e.kind = k
  genuine : e.Genuine
  nodes : Table.get? e.attrs "nodes" = some .null
  parent : e.parent = .absent

theorem Heap.Childless.hosts {h : Heap} {p : Addr} {k : Kind} {e : Entity}
    (hp : h.Childless p k e) {P guests : Value → Prop} (htype : P (h.attrOrNull (.ref p) "type"))
    (hguest : ∀ v, guests v → h.Insertable v ∧ P (h.attrOrNull v "type")) :
    Hosts h p k P guests none := by
  have hnode : h.NodeAt p e := ⟨hp.found, hp.genuine, .inl hp.nodes, by simp [hp.parent]⟩
  refine ⟨⟨e, hnode, hp.kind⟩, htype, hguest, Heap.childState?_of_null ?_⟩
  rw [hnode.attrOrNull_nodes, hp.nodes]
  rfl

/-- Calls on a smart parent that was just made have the results and the effects on the children that
they have in the reference model. Calls on a plain one have those of the model as well, as far as
they can be reported. So both look the same just if all calls on the plain one can be reported; and
they can be if the types of the parent and of all nodes are written out without a look at other
objects. -/
theorem sightings_smart_eq_plain_iff {σ τ : Type} (foreign₁ : Caller σ) (foreign₂ : Caller τ)
    (fuel₁ fuel₂ : Nat) {w₁ : World σ} {w₂ : World τ} {p₁ p₂ : Addr} {e₁ e₂ : Entity}
    (hp₁ : w₁.heap.Childless p₁ .smart e₁) (hp₂ : w₂.heap.Childless p₂ .plain e₂)
    (calls : List ChildCall)
    (hargs : ∀ c ∈ calls, ∀ v ∈ c.arguments, w₁.heap.Insertable v ∧ w₂.heap.Insertable v) :
    let smart := sightings (invoke foreign₁ (fuel₁ + 2)) (.ref p₁) calls w₁
    let plain := sightings (invoke foreign₂ (fuel₂ + 2)) (.ref p₂) calls w₂
    let reported := reports (invoke foreign₂ (fuel₂ + 2)) .plain (.ref p₂) calls w₂
    w₁.heap.childState? (.ref p₁) = some none ∧ w₂.heap.childState? (.ref p₂) = some none ∧
    smart = modelSightings (calls.map (·, none)) none ∧
    plain = modelSightings reported none ∧
    (smart = plain ↔ ∀ r ∈ reported, r.2 = none) ∧
    ((∀ v ∈ Value.ref p₂ :: calls.flatMap ChildCall.arguments,
        (w₂.heap.attrOrNull v "type").Immediate) → smart = plain) := by
  intro smart plain reported
  let guests : Value → Prop := fun v ↦ ∃ c ∈ calls, v ∈ c.arguments
  have hguests : ∀ c ∈ calls, ∀ v ∈ c.arguments, guests v := fun c hc v hv ↦ ⟨c, hc, hv⟩
  have h₁ : Hosts w₁.heap p₁ .smart (fun _ ↦ True) guests none :=
    hp₁.hosts trivial fun v ⟨c, hc, hv⟩ ↦ ⟨(hargs c hc v hv).1, trivial⟩
  have h₂ : Hosts w₂.heap p₂ .plain (fun _ ↦ True) guests none :=
    hp₂.hosts trivial fun v ⟨c, hc, hv⟩ ↦ ⟨(hargs c hc v hv).2, trivial⟩
  have hsmart : smart = modelSightings (calls.map (·, none)) none := by
    rw [← reports_eq_of_all_reported (h₁.all_reported foreign₁ fuel₁ (.inl rfl) hguests)]
    exact h₁.sightings_eq foreign₁ fuel₁ hguests
  have hplain : plain = modelSightings reported none := h₂.sightings_eq foreign₂ fuel₂ hguests
  have hiff : smart = plain ↔ ∀ r ∈ reported, r.2 = none := by
    rw [hsmart, hplain]
    exact ⟨all_reported_of_eq,
      fun hall ↦ congrArg (modelSightings · none) (reports_eq_of_all_reported hall).symm⟩
  refine ⟨h₁.state, h₂.state, hsmart, hplain, hiff, fun himmediate ↦ hiff.mpr ?_⟩
  have h₂' : Hosts w₂.heap p₂ .plain Value.Immediate guests none :=
    hp₂.hosts (himmediate _ List.mem_cons_self) fun v ⟨c, hc, hv⟩ ↦ ⟨(hargs c hc v hv).2,
      himmediate v (List.mem_cons_of_mem _ (List.mem_flatMap.mpr ⟨c, hc, hv⟩))⟩
  exact h₂'.all_reported foreign₂ fuel₂ (.inr fun _ hx ↦ hx) hguests

/-- The same node is inserted at both ends of a smart and of a plain parent; one occurrence is
removed and the other one popped, and then there is nothing left to remove. -/
theorem sightings_of_repeated_node :
    let foreign : Caller Unit := fun _ _ _ ↦ throw .unsupported
    let calls : List ChildCall :=
      [.pop, .push (.ref 4), .unshift (.ref 4), .remove (.ref 4), .pop, .remove (.ref 4)]
    threeLeaves.heap.Childless 1 .smart (NodeMaker.smart.entity {} "a" .null) ∧
    threeLeaves.heap.Childless 2 .plain (NodeMaker.plain.entity {} "b" .null) ∧
    (∀ c ∈ calls, ∀ v ∈ c.arguments, threeLeaves.heap.Insertable v ∧
      threeLeaves.heap.Insertable v) ∧
    sightings (invoke foreign 2) (.ref 1) calls threeLeaves =
      sightings (invoke foreign 2) (.ref 2) calls threeLeaves ∧
    sightings (invoke foreign 2) (.ref 1) calls threeLeaves =
      [(.ok .null, some none), (.ok (.int 1), some (some [.ref 4])),
       (.ok (.int 2), some (some [.ref 4, .ref 4])), (.ok (.ref 4), some (some [.ref 4])),
       (.ok (.ref 4), some (some [])), (.ok .null, some (some []))] := by
  intro foreign calls
  have hsmart : threeLeaves.heap.Childless 1 .smart (NodeMaker.smart.entity {} "a" .null) :=
    ⟨rfl, rfl, NodeMaker.smart.genuine_entity {} "a" .null, rfl, rfl⟩
  have hplain : threeLeaves.heap.Childless 2 .plain (NodeMaker.plain.entity {} "b" .null) :=
    ⟨rfl, rfl, NodeMaker.plain.genuine_entity {} "b" .null, rfl, rfl⟩
  have hguest : threeLeaves.heap.Insertable (.ref 4) :=
    ⟨4, _, rfl, rfl, .genuine (NodeMaker.smart.genuine_entity (NodeMaker.plain.made
      (NodeMaker.smart.made {} "a" .null) "b" .null) "c" .null)⟩
  have hsole : ∀ c ∈ calls, ∀ v ∈ c.arguments, v = Value.ref 4 := by decide
  have hargs : ∀ c ∈ calls, ∀ v ∈ c.arguments, threeLeaves.heap.Insertable v ∧
      threeLeaves.heap.Insertable v := by
    intro c hc v hv
    rw [hsole c hc v hv]
    exact ⟨hguest, hguest⟩
  obtain ⟨-, -, hmodel, -, -, hsame⟩ :=
    sightings_smart_eq_plain_iff foreign foreign 0 0 hsmart hplain calls hargs
  refine ⟨hsmart, hplain, hargs, hsame fun v hv ↦ ?_, hmodel.trans rfl⟩
  rcases List.mem_cons.mp hv with rfl | hv
  · trivial
  · obtain ⟨c, hc, hv⟩ := List.mem_flatMap.mp hv
    rw [hsole c hc v hv]
    trivial

/-- A world with a smart node at 0 and a plain one at 1. The type of the node at 2 is the node at 3,
which has a number for its children and so cannot be written out. -/
def unwritableType : World Unit where
  heap := ⟨#[some (.entity ⟨.smart, [("type", .str "s"), ("nodes", .null)], .absent⟩),
    some (.entity ⟨.plain, [("type", .str "p"), ("nodes", .null), ("parent", .null)], .absent⟩),
    some (.entity ⟨.plain, [("type", .ref 3), ("nodes", .null), ("parent", .null)], .absent⟩),
    some (.entity ⟨.smart, [("type", .str "m"), ("value", .null), ("nodes", .int 5)], .absent⟩)]⟩
  client := ()

/-- Such a node is added to a smart parent and removed again. With a plain parent both fail: the
node is there when it was not added, and is still there when it was not removed. -/
theorem sightings_of_unwritableType :
    let foreign : Caller Unit := fun _ _ _ ↦ throw .unsupported
    let calls : List ChildCall := [.push (.ref 2), .remove (.ref 2)]
    (∃ e, unwritableType.heap.Childless 0 .smart e) ∧
    (∃ e, unwritableType.heap.Childless 1 .plain e) ∧ unwritableType.heap.Insertable (.ref 2) ∧
    sightings (invoke foreign 2) (.ref 0) calls unwritableType =
      [(.ok (.int 1), some (some [.ref 2])), (.ok (.ref 2), some (some []))] ∧
    sightings (invoke foreign 2) (.ref 1) calls unwritableType =
      [(.error .unsupported, some (some [.ref 2])),
        (.error .unsupported, some (some [.ref 2]))] := by
  intro foreign calls
  refine ⟨⟨_, rfl, rfl, ⟨.inl rfl, ?_⟩, rfl, rfl⟩, ⟨_, rfl, rfl, ⟨.inr rfl, ?_⟩, rfl, rfl⟩,
    ⟨2, _, rfl, rfl, .genuine ⟨.inr rfl, ?_⟩⟩, rfl, rfl⟩
  all_goals decide

end TagTree
