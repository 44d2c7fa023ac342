import Mathlib.Data.Set.Finite.Lattice
import TagTree.Proofs.Unfolding
import TagTree.Proofs.Wrapping

/-!
# Walks in pre-order

A walk calls a function on a node and then on everything below it. If the function leaves all
objects as they are, the walk is a tour of the unfolding: it does nothing but call the function on
the nodes at which the tour stops, one after the other, and then it returns or fails as the tour
ends (`visit_tours_unfolding`).
-/

namespace TagTree

open Op

/-! ## What is met after other objects were made -/

namespace Heap

/-- A value does not lead to an address that was not given out. -/
def Placed (h : Heap) (v : Value) : Prop :=
  ∀ a, v = .ref a → a < h.fresh

variable {h h' : Heap} {v : Value} {items : List Value}

theorem Extends.truthy_eq (hext : h.Extends h') (hv : h.Placed v) : h'.truthy v = h.truthy v := by
  cases v with
  | ref a => simp [truthy, hext.same a (hv a rfl)]
  | _ => rfl

theorem Extends.sequence?_eq (hext : h.Extends h') (hv : h.Placed v) :
    h'.sequence? v = h.sequence? v := by
  cases v with
  | ref a => simp [sequence?, object?, hext.same a (hv a rfl)]
  | _ => rfl

theorem Extends.attr?_eq (hext : h.Extends h') (hv : h.Placed v) {name : String}
    (hname : name ≠ "parent") : h'.attr? v name = h.attr? v name := by
  cases v with
  | ref a => exact attr?_congr (hext.same a (hv a rfl)) hname
  | maker m => cases m <;> rfl
  | _ => rfl

theorem Extends.callable (hext : h.Extends h') (hv : h.callable v = true) :
    h'.callable v = true := by
  cases v with
  | ref a =>
    cases hget : h.get? a with
    | none => simp [Heap.callable, hget] at hv
    | some o => simpa [Heap.callable, hget, hext.found hget] using hv
  | _ => exact hv

theorem Grounded.placed_attrOrNull (hg : h.Grounded) (a : Addr) {name : String}
    (hname : name ≠ "parent") : h.Placed (h.attrOrNull (.ref a) name) := by
  intro b hb
  cases hx : h.attr? (.ref a) name with
  | none => simp [attrOrNull, hx] at hb
  | some x =>
    rw [attrOrNull, hx] at hb
    exact hg.targets a b (mem_targets_of_attr? hname (hx.trans (congrArg some hb)))

theorem Extends.isNode_eq (hext : h.Extends h') (hg : h.Grounded) (hv : h.Placed v) :
    h'.isNode v = h.isNode v := by
  cases v with
  | ref a =>
    have hmark : h.Placed (h.attrOrNull (.ref a) "is_node") :=
      hg.placed_attrOrNull a (by decide)
    unfold isNode
    dsimp only
    rw [hext.attr?_eq hv (by decide)]
    cases hx : h.attr? (.ref a) "is_node" with
    | none => rfl
    | some x =>
      rw [Heap.attrOrNull, hx] at hmark
      exact hext.truthy_eq hmark
  | _ => rfl

end Heap

/-! ## One call after the other -/

namespace Walk

variable {σ α β : Type}

/-- Calls a function on several values, one after the other. -/
def callEach (call : Caller σ) (fn : Value) : List Value → Op σ Unit
  | [] => return ()
  | v :: rest => do
    let _ ← call fn [v] []
    callEach call fn rest

/-- Ends with a fault, or with a result if there is none. -/
def finish (ending : Option Fault) (result : α) : Op σ α :=
  match ending with
  | none => return result
  | some fault => throw fault

/-- Calls a function on the nodes at which a tour stops, and ends as the tour does. -/
def follow (call : Caller σ) (fn : Value) (stops : List (List Nat × Value)) (ending : Option Fault)
    (result : α) : Op σ α := do
  callEach call fn (stops.map Prod.snd)
  finish ending result

variable {call : Caller σ} {fn : Value} {stops later : List (List Nat × Value)}

theorem callEach_append (xs ys : List Value) :
    callEach call fn (xs ++ ys) = (do callEach call fn xs; callEach call fn ys) := by
  induction xs with
  | nil => simp [callEach]
  | cons x xs ih => simp [callEach, ih]

theorem follow_cons (stop : List Nat × Value) (ending : Option Fault) (result : α) :
    follow call fn (stop :: stops) ending result =
      (do let _ ← call fn [stop.2] []; follow call fn stops ending result) := by
  simp [follow, callEach]

theorem under_cons (index : Nat) (v : Value) :
    ([index], v) :: stops.map (under index) = (([], v) :: stops).map (under index) := rfl

theorem follow_under (index : Nat) (ending : Option Fault) (result : α) :
    follow call fn (stops.map (under index)) ending result =
      follow call fn stops ending result := by
  have hvalues : (stops.map (under index)).map Prod.snd = stops.map Prod.snd := by
    rw [List.map_map]
    rfl
  rw [follow, hvalues, follow]

theorem follow_pass (ending : Option Fault) (a : α) (b : β) :
    (do let _ ← follow call fn stops none a; follow call fn later ending b) =
      follow call fn (stops ++ later) ending b := by
  simp [follow, finish, callEach_append]

theorem follow_stop (fault : Fault) (a : α) (b : β) (f : α → Op σ β) :
    (do f (← follow call fn stops (some fault) a)) = follow call fn stops (some fault) b := by
  have hthrow : (throw fault >>= f : Op σ β) = throw fault := rfl
  simp [follow, finish, hthrow]

theorem follow_map (ending : Option Fault) (a : α) (b : β) :
    (do let _ ← follow call fn stops ending a; return b) = follow call fn stops ending b := by
  cases ending with
  | none => simp [follow, finish]
  | some fault => exact follow_stop fault a b _

/-! ## Walks are tours -/

section Touring

variable {h : Heap} {w : World σ} {v nodes : Value} {items row : List Value} {index n : Nat}
  {ending : Option Fault} (hground : h.Grounded) (hfn : h.callable fn = true)
  (hcall : ∀ w v, h.Extends w.heap → h.Extends ((call fn [v] []).after w).heap)

theorem visitItems_cons (hnodes : w.heap.sequence? nodes = some items)
    (hitems : items.drop index = v :: row) (n : Nat) :
    visitItems call fn (n + 1) nodes index w =
      (do
        let _ ← visit call fn n v
        visitItems call fn n nodes (index + 1) : Op σ Unit) w := by
  rw [visitItems, bind_of_ok (Document.itemAt?_of_sequence hnodes index),
    (Document.drop_eq_cons hitems).1]

/-- A walk through a row ends with the first fault. -/
theorem visitItems_stop (hnodes : w.heap.sequence? nodes = some items)
    (hitems : items.drop index = v :: row) {fault : Fault}
    (hvisit : visit call fn n v w = follow call fn stops (some fault) v w) :
    visitItems call fn (n + 1) nodes index w = follow call fn stops (some fault) () w := by
  rw [visitItems_cons hnodes hitems, bind_apply, hvisit, ← bind_apply]
  exact congrFun (follow_stop fault v () _) w

/-- What each call keeps is kept by all of them. -/
theorem callEach_preserves {P : World σ → Prop} {values : List Value}
    (hcall : ∀ w, ∀ v ∈ values, P w → P ((call fn [v] []).after w)) (hw : P w) :
    P ((callEach call fn values).after w) := by
  induction values generalizing w with
  | nil => exact hw
  | cons v values ih =>
    have hfirst := hcall w v List.mem_cons_self hw
    cases hrun : call fn [v] [] w with
    | error fault w₁ =>
      rw [after_of_error hrun] at hfirst
      rw [callEach, after_of_error (bind_of_error hrun _)]
      exact hfirst
    | ok r w₁ =>
      rw [after_of_ok hrun] at hfirst
      rw [callEach, after, bind_of_ok hrun]
      exact ih (fun w' v' hv' ↦ hcall w' v' (List.mem_cons_of_mem v hv')) hfirst

theorem follow_preserves {P : World σ → Prop} (ending : Option Fault) (result : α)
    (hcall : ∀ w, ∀ v ∈ stops.map Prod.snd, P w → P ((call fn [v] []).after w)) (hw : P w) :
    P ((follow call fn stops ending result).after w) := by
  have hcalls := callEach_preserves hcall hw
  cases hrun : callEach call fn (stops.map Prod.snd) w with
  | error fault w₁ =>
    rw [after_of_error hrun] at hcalls
    rw [follow, after_of_error (bind_of_error hrun _)]
    exact hcalls
  | ok r w₁ =>
    rw [after_of_ok hrun] at hcalls
    rw [follow, after, bind_of_ok hrun]
    cases ending <;> exact hcalls

include hcall in
theorem follow_keeps (ending : Option Fault) (result : α) (hext : h.Extends w.heap) :
    h.Extends ((follow call fn stops ending result).after w).heap :=
  follow_preserves (P := fun w ↦ h.Extends w.heap) ending result (fun w' v _ ↦ hcall w' v) hext

/-- A walk through a row goes on as long as there is no fault. -/
theorem visitItems_pass (hnodes : w.heap.sequence? nodes = some items)
    (hitems : items.drop index = v :: row)
    (hvisit : visit call fn n v w = follow call fn stops none v w)
    (hlater : ∀ r w₁, follow call fn stops none v w = .ok r w₁ →
      visitItems call fn n nodes (index + 1) w₁ = follow call fn later ending () w₁) :
    visitItems call fn (n + 1) nodes index w = follow call fn (stops ++ later) ending () w := by
  rw [visitItems_cons hnodes hitems, bind_apply, hvisit, ← follow_pass ending v (),
    bind_apply]
  cases hrun : follow call fn stops none v w with
  | error fault w₁ => rfl
  | ok r w₁ => exact hlater r w₁ hrun

include hground

theorem requireNode_of_meet (hext : h.Extends w.heap) (hv : h.Placed v)
    (hmeet : h.meet v ≠ .stranger) : (requireNode v "node" : Op σ Unit) w = .ok () w := by
  apply requireNode_apply
  rw [hext.isNode_eq hground hv]
  exact Heap.isNode_of_meet hmeet

theorem attrOrNull_of_meet (hext : h.Extends w.heap) (hv : h.Placed v)
    (hmeet : h.meet v ≠ .stranger) :
    w.heap.attrOrNull v "nodes" = h.attrOrNull v "nodes" ∧
      w.heap.sequence? (h.attrOrNull v "nodes") = h.sequence? (h.attrOrNull v "nodes") := by
  obtain ⟨a, e, rfl, -⟩ := Heap.exists_entity_of_isNode (Heap.isNode_of_meet hmeet)
  refine ⟨?_, hext.sequence?_eq (hground.placed_attrOrNull a (by decide))⟩
  rw [Heap.attrOrNull, hext.attr?_eq hv (by decide), Heap.attrOrNull]

theorem visit_of_stranger (hext : h.Extends w.heap) (hv : h.Placed v)
    (hmeet : h.meet v = .stranger) (n : Nat) :
    visit call fn (n + 1) v w = follow call fn [] (Meeting.fault? .stranger) v w := by
  have hrefused : (requireNode v "node" : Op σ Unit) w =
      .error (.argument (.expected "node" .node) (.str "node")) w := by
    apply require_apply_false
    rw [hext.isNode_eq hground hv]
    exact Heap.meet_eq_stranger_iff.mp hmeet
  rw [visit, bind_of_error hrefused]
  rfl

include hfn

theorem visitChildren_of_meet (hext : h.Extends w.heap) (hv : h.Placed v)
    (hmeet : h.meet v ≠ .stranger) (n : Nat) :
    visitChildren call fn (n + 1) v w =
      (do
        if h.attrOrNull v "nodes" = .null then return v
        requireSequence (h.attrOrNull v "nodes") "node.nodes" false
        visitItems call fn n (h.attrOrNull v "nodes") 0
        return v : Op σ Value) w := by
  rw [visitChildren, bind_of_ok (requireNode_of_meet hground hext hv hmeet),
    bind_of_ok (requireFunction_apply (hext.callable hfn) _), bind_of_ok (heap_apply w),
    (attrOrNull_of_meet hground hext hv hmeet).1]

theorem visitChildren_of_misshapen (hext : h.Extends w.heap) (hv : h.Placed v)
    (hmeet : h.meet v = .misshapen) (n : Nat) :
    visitChildren call fn (n + 1) v w =
      follow call fn [] (Meeting.fault? .misshapen) v w := by
  have hnode : h.meet v ≠ .stranger := by simp [hmeet]
  obtain ⟨hne, hnone⟩ := Heap.nodes_of_misshapen hmeet
  have hrefused : (requireSequence (h.attrOrNull v "nodes") "node.nodes" false : Op σ Unit) w =
      .error (.argument (.expected "node.nodes" .array) (.str "node.nodes")) w := by
    apply require_apply_false
    rw [(attrOrNull_of_meet hground hext hv hnode).2, hnone]
    rfl
  rw [visitChildren_of_meet hground hfn hext hv hnode, if_neg hne,
    bind_of_error hrefused]
  rfl

theorem visitChildren_of_node (hext : h.Extends w.heap) (hv : h.Placed v)
    (hmeet : h.meet v = .node items) (ht : Tour h 0 items stops ending)
    (hrow : ∀ nodes, h.sequence? nodes = some items →
      visitItems call fn n nodes 0 w = follow call fn stops ending () w) :
    visitChildren call fn (n + 1) v w = follow call fn stops ending v w := by
  have hnode : h.meet v ≠ .stranger := by simp [hmeet]
  rw [visitChildren_of_meet hground hfn hext hv hnode]
  rcases Heap.nodes_of_meet hmeet with ⟨hnull, rfl⟩ | ⟨hne, hitems⟩
  · cases ht
    rw [if_pos hnull]
    rfl
  · have hsequence : (requireSequence (h.attrOrNull v "nodes") "node.nodes" false :
        Op σ Unit) w = .ok () w := by
      apply requireSequence_apply
      rw [(attrOrNull_of_meet hground hext hv hnode).2, hitems]
      rfl
    rw [if_neg hne, bind_of_ok hsequence, ← follow_map ending () v]
    rw [bind_apply, bind_apply, hrow _ hitems]

include hcall in
/-- After the call on a node, a walk goes on with the children. -/
theorem visit_of_meet (hext : h.Extends w.heap) (hv : h.Placed v) (hmeet : h.meet v ≠ .stranger)
    (hchildren : ∀ w, h.Extends w.heap →
      visitChildren call fn (n + 1) v w = follow call fn stops ending v w) :
    visit call fn (n + 2) v w = follow call fn (([], v) :: stops) ending v w := by
  rw [visit, bind_of_ok (requireNode_of_meet hground hext hv hmeet),
    bind_of_ok (requireFunction_apply (hext.callable hfn) _), follow_cons]
  cases hrun : call fn [v] [] w with
  | error fault w₁ => rw [bind_of_error hrun, bind_of_error hrun]
  | ok r w₁ =>
    have hext₁ : h.Extends w₁.heap := by
      have hafter := hcall w v hext
      rwa [after_of_ok hrun] at hafter
    rw [bind_of_ok hrun, bind_of_ok hrun, bind_of_ok (heap_apply w₁),
      (attrOrNull_of_meet hground hext₁ hv hmeet).1]
    have hbelow := hchildren w₁ hext₁
    split
    · next hnull =>
      rw [visitChildren_of_meet hground hfn hext₁ hv hmeet, if_pos hnull] at hbelow
      exact hbelow
    · exact hbelow

include hcall

theorem visit_of_node (hext : h.Extends w.heap) (hv : h.Placed v) (hmeet : h.meet v = .node items)
    (ht : Tour h 0 items stops ending)
    (hrow : ∀ nodes w, h.Extends w.heap → h.sequence? nodes = some items →
      visitItems call fn n nodes 0 w = follow call fn stops ending () w) :
    visit call fn (n + 2) v w = follow call fn (([], v) :: stops) ending v w := by
  apply visit_of_meet hground hfn hcall hext hv (by simp [hmeet])
  intro w₁ hext₁
  exact visitChildren_of_node hground hfn hext₁ hv hmeet ht fun nodes hnodes ↦
    hrow nodes w₁ hext₁ hnodes

/-- A walk through a row is a tour of it. The induction is on the tour. -/
theorem visitItems_tours (ht : Tour h index row stops ending) :
    ∃ bound, ∀ n, bound ≤ n → ∀ nodes items w, h.Extends w.heap →
      h.sequence? nodes = some items → items.drop index = row →
      visitItems call fn n nodes index w = follow call fn stops ending () w := by
  have hplaced {v nodes : Value} {items row : List Value} {index : Nat}
      (hnodes : h.sequence? nodes = some items) (hrow : items.drop index = v :: row) :
      h.Placed v :=
    hground.items hnodes v (List.mem_of_mem_drop (hrow ▸ List.mem_cons_self))
  induction ht with
  | nil index =>
    refine ⟨1, fun n hn nodes items w hext hnodes hrow ↦ ?_⟩
    obtain ⟨n, rfl⟩ : ∃ m, n = m + 1 := ⟨n - 1, by omega⟩
    have hnone : items[index]? = none := List.getElem?_eq_none (List.drop_eq_nil_iff.mp hrow)
    have hnodes' := hext.relinked.sequence? hnodes
    rw [visitItems, bind_of_ok (Document.itemAt?_of_sequence hnodes' index), hnone]
    rfl
  | stranger hv =>
    refine ⟨2, fun n hn nodes items w hext hnodes hrow ↦ ?_⟩
    obtain ⟨n, rfl⟩ : ∃ m, n = m + 2 := ⟨n - 2, by omega⟩
    apply visitItems_stop (hext.relinked.sequence? hnodes) hrow
    exact visit_of_stranger hground hext (hplaced hnodes hrow) hv n
  | @misshapen index v row hv =>
    refine ⟨3, fun n hn nodes items w hext hnodes hrow ↦ ?_⟩
    obtain ⟨n, rfl⟩ : ∃ m, n = m + 3 := ⟨n - 3, by omega⟩
    have hv' := hplaced hnodes hrow
    rw [show [([index], v)] = [([], v)].map (under index) from rfl, follow_under]
    apply visitItems_stop (hext.relinked.sequence? hnodes) hrow
    apply visit_of_meet hground hfn hcall hext hv' (by simp [hv])
    intro w₁ hext₁
    exact visitChildren_of_misshapen hground hfn hext₁ hv' hv n
  | @stop index v items row inner fault hv hinner ih =>
    obtain ⟨bound, hbound⟩ := ih
    refine ⟨bound + 3, fun n hn nodes siblings w hext hnodes hrow ↦ ?_⟩
    obtain ⟨n, rfl⟩ : ∃ m, n = m + 3 := ⟨n - 3, by omega⟩
    rw [under_cons, follow_under]
    apply visitItems_stop (hext.relinked.sequence? hnodes) hrow
    exact visit_of_node hground hfn hcall hext (hplaced hnodes hrow) hv hinner
      fun nodes' w₁ hext₁ hnodes' ↦ hbound n (by omega) nodes' items w₁ hext₁ hnodes' List.drop_zero
  | @pass index v items row inner later ending hv hinner _ ihinner ihlater =>
    obtain ⟨bound, hbound⟩ := ihinner
    obtain ⟨bound', hbound'⟩ := ihlater
    refine ⟨bound + bound' + 3, fun n hn nodes siblings w hext hnodes hrow ↦ ?_⟩
    obtain ⟨n, rfl⟩ : ∃ m, n = m + 3 := ⟨n - 3, by omega⟩
    have hvisit := visit_of_node hground hfn hcall hext (hplaced hnodes hrow) hv hinner
      fun nodes' w₁ hext₁ hnodes' ↦ hbound n (by omega) nodes' items w₁ hext₁ hnodes' List.drop_zero
    rw [← follow_under index] at hvisit
    rw [under_cons]
    apply visitItems_pass (hext.relinked.sequence? hnodes) hrow hvisit
    intro r w₁ hrun
    have hext₁ : h.Extends w₁.heap := by
      rw [← after_of_ok hrun]
      exact follow_keeps hcall none v hext
    exact hbound' (n + 2) (by omega) nodes siblings w₁ hext₁ hnodes (Document.drop_eq_cons hrow).2

/-- Visiting a node is a tour of its unfolding, and visiting its children is the rest of it. -/
theorem visit_tours (hext : h.Extends w.heap) (hv : h.Placed v)
    (ht : h.meet v = .misshapen ∧ stops = [] ∧ ending = Meeting.fault? .misshapen ∨
      ∃ items, h.meet v = .node items ∧ Tour h 0 items stops ending) :
    ∃ bound, ∀ n, bound ≤ n →
      visit call fn n v w = follow call fn (([], v) :: stops) ending v w ∧
      visitChildren call fn n v w = follow call fn stops ending v w := by
  rcases ht with ⟨hmeet, rfl, rfl⟩ | ⟨items, hmeet, ht⟩
  · have hchildren (n : Nat) (w : World σ) (hext : h.Extends w.heap) :
        visitChildren call fn (n + 1) v w =
          follow call fn [] (Meeting.fault? .misshapen) v w :=
      visitChildren_of_misshapen hground hfn hext hv hmeet n
    refine ⟨2, fun n hn ↦ ?_⟩
    obtain ⟨n, rfl⟩ : ∃ m, n = m + 2 := ⟨n - 2, by omega⟩
    exact ⟨visit_of_meet hground hfn hcall hext hv (by simp [hmeet]) (hchildren n),
      hchildren (n + 1) w hext⟩
  · obtain ⟨bound, hbound⟩ := visitItems_tours hground hfn hcall ht
    refine ⟨bound + 2, fun n hn ↦ ?_⟩
    obtain ⟨n, rfl⟩ : ∃ m, n = m + 2 := ⟨n - 2, by omega⟩
    constructor
    · exact visit_of_node hground hfn hcall hext hv hmeet ht fun nodes w₁ hext₁ hnodes ↦
        hbound n (by omega) nodes items w₁ hext₁ hnodes List.drop_zero
    · exact visitChildren_of_node hground hfn hext hv hmeet ht fun nodes hnodes ↦
        hbound (n + 1) (by omega) nodes items w hext hnodes List.drop_zero

omit hground hfn in
/-- If no call fails, the outcome is as the tour ends. -/
theorem follow_result (hreturns : ∀ w v, h.Extends w.heap → ∃ r w', call fn [v] [] w = .ok r w')
    (hext : h.Extends w.heap) (result : α) :
    (follow call fn stops ending result).result w = ending.elim (.ok result) .error := by
  induction stops generalizing w with
  | nil => cases ending <;> rfl
  | cons stop stops ih =>
    obtain ⟨r, w₁, hrun⟩ := hreturns w stop.2 hext
    have hext₁ := hcall w stop.2 hext
    rw [after_of_ok hrun] at hext₁
    rw [follow_cons, Op.result, bind_of_ok hrun]
    exact ih hext₁

end Touring

end Walk

/-- If all positions of a finite unfolding are nodes whose children are in order, a tour stops at
all of them. -/
theorem exists_tour_of_finite {h : Heap} {root : Value}
    (hnodes : ∀ path v, h.descend? root path = some v → ∃ items, h.meet v = .node items)
    (hfinite : {path | (h.descend? root path).isSome = true}.Finite) :
    ∃ items inner, h.meet root = .node items ∧ Tour h 0 items inner none ∧
      ((([], root) :: inner).map Prod.fst).Pairwise (· < ·) ∧
      ∀ path v, (path, v) ∈ ([], root) :: inner ↔ h.descend? root path = some v := by
  have hnode {path : List Nat} {v : Value} (hv : h.descend? root path = some v) :
      h.isNode v = true := by
    obtain ⟨items, hmeet⟩ := hnodes path v hv
    exact Heap.isNode_of_meet (by simp [hmeet])
  have hclear (q : List Nat) (fault : Fault) : ¬ h.Offends root q fault := by
    rintro ⟨v, hv, hfault⟩
    obtain ⟨items, hmeet⟩ := hnodes q v hv
    rw [hmeet] at hfault
    cases hfault
  -- Finitely many positions are not deeper than some bound.
  obtain ⟨depth, hdepth⟩ := (hfinite.image List.length).bddAbove
  have hroot : h.isNode root = true := hnode (show h.descend? root [] = some root from rfl)
  obtain ⟨inner, ending, ht, hinner⟩ := exists_tour_of_node (n := depth) hroot fun path x hx ↦
    hdepth ⟨path, by simp [hx], rfl⟩
  obtain ⟨items, hmeet⟩ := hnodes [] root rfl
  have hending : ending = none := by
    cases ending with
    | none => rfl
    | some fault =>
      obtain ⟨path, hpath, -⟩ := ht.ends_at_offence rfl
      obtain ⟨q, -, hq⟩ := Heap.rowOffends_singleton_iff.mp hpath
      exact absurd hq (hclear q fault)
  subst hending
  refine ⟨items, inner, hmeet, ?_, ?_, fun path v ↦ ?_⟩
  · rcases hinner with ⟨-, -, hfault⟩ | ⟨items', hmeet', hinner⟩
    · cases hfault
    · rw [hmeet] at hmeet'
      cases hmeet'
      exact hinner
  · have hsorted := ht.sorted
    rw [List.pairwise_map] at hsorted ⊢
    exact hsorted.imp fun hlt ↦ by simpa [under, List.cons_lt_cons_iff] using hlt
  · calc (path, v) ∈ ([], root) :: inner
        ↔ (0 :: path, v) ∈ (([], root) :: inner).map (under 0) := by
          rw [mem_map_under]
          simp
      _ ↔ h.descend? root path = some v := by
          rw [ht.mem_iff, Heap.rowAt?_singleton_iff, Heap.clear_singleton_iff]
          constructor
          · exact fun hv ↦ hv.1.2
          · exact fun hv ↦ ⟨⟨rfl, hv⟩, hnode hv, fun q fault hq ↦ absurd hq (hclear q fault)⟩

/-- Let a function leave all objects as they are. A walk from a node with a finite unfolding stops
at positions in pre-order, at each at most once: at exactly the nodes that no offence comes before.
It does nothing but call the function at these stops, one after the other, and then returns the node
or, if there is any offence, fails with the complaint about the first one. A walk through the nodes
below makes the same calls without the first. No object is changed. -/
theorem visit_tours_unfolding {σ : Type} {call : Caller σ} {fn root : Value} {w : World σ}
    (hground : w.heap.Grounded) (hroot : w.heap.isNode root = true)
    (hfn : w.heap.callable fn = true)
    (hfinite : {path | (w.heap.descend? root path).isSome = true}.Finite)
    (hcall : ∀ (w' : World σ) v, w.heap.Extends w'.heap →
      w'.heap.Extends ((call fn [v] []).after w').heap) :
    ∃ (stops : List (List Nat × Value)) (ending : Option Fault),
      stops.head? = some ([], root) ∧ (stops.map Prod.fst).Pairwise (· < ·) ∧
      (∀ path v, (path, v) ∈ stops ↔ w.heap.descend? root path = some v ∧
        w.heap.isNode v = true ∧ ∀ p fault, w.heap.Offends root p fault → ¬ p < path) ∧
      (ending = none ↔ ∀ p fault, ¬ w.heap.Offends root p fault) ∧
      (∀ fault, ending = some fault → ∃ path, w.heap.Offends root path fault ∧
        ∀ p other, w.heap.Offends root p other → ¬ p < path) ∧
      ∃ bound, ∀ fuel, bound ≤ fuel →
        Walk.visit call fn fuel root w = Walk.follow call fn stops ending root w ∧
        Walk.visitChildren call fn fuel root w = Walk.follow call fn stops.tail ending root w ∧
        w.heap.Extends ((Walk.visit call fn fuel root).after w).heap ∧
        w.heap.Extends ((Walk.visitChildren call fn fuel root).after w).heap ∧
        ((∀ (w' : World σ) v, w.heap.Extends w'.heap →
            ∃ r w'', call fn [v] [] w' = .ok r w'') →
          (Walk.visit call fn fuel root).result w = ending.elim (.ok root) .error ∧
          (Walk.visitChildren call fn fuel root).result w = ending.elim (.ok root) .error) := by
  have hkept : ∀ (w' : World σ) v, w.heap.Extends w'.heap →
      w.heap.Extends ((call fn [v] []).after w').heap :=
    fun w' v hext ↦ hext.trans (hcall w' v hext)
  have hself := Heap.Extends.refl w.heap
  obtain ⟨a, e, rfl, hget⟩ := Heap.exists_entity_of_isNode hroot
  have hplaced : w.heap.Placed (.ref a) := by
    rintro b ⟨⟩
    exact Heap.lt_fresh_of_get? hget
  -- Finitely many positions are not deeper than some bound.
  obtain ⟨depth, hdepth⟩ := (hfinite.image List.length).bddAbove
  obtain ⟨inner, ending, ht, hinner⟩ := exists_tour_of_node (n := depth) hroot fun path x hx ↦
    hdepth ⟨path, by simp [hx], rfl⟩
  obtain ⟨bound, hwalk⟩ := Walk.visit_tours hground hfn hkept hself hplaced hinner
  refine ⟨([], .ref a) :: inner, ending, rfl, ?_, fun path v ↦ ?_, ?_, fun fault hfault ↦ ?_, bound,
    fun fuel hfuel ↦ ?_⟩
  · have hsorted := ht.sorted
    rw [List.pairwise_map] at hsorted ⊢
    exact hsorted.imp fun hlt ↦ by simpa [under, List.cons_lt_cons_iff] using hlt
  · calc (path, v) ∈ ([], .ref a) :: inner
        ↔ (0 :: path, v) ∈ (([], .ref a) :: inner).map (under 0) := by
          rw [mem_map_under]
          simp
      _ ↔ _ := by
          rw [ht.mem_iff, Heap.rowAt?_singleton_iff, Heap.clear_singleton_iff]
          simp
  · constructor
    · intro hending p fault hp
      exact ht.not_rowOffends hending _ _ (Heap.rowOffends_singleton_iff.mpr ⟨p, rfl, hp⟩)
    · intro hnone
      cases ending with
      | none => rfl
      | some fault =>
        obtain ⟨path, hpath, -⟩ := ht.ends_at_offence rfl
        obtain ⟨q, -, hq⟩ := Heap.rowOffends_singleton_iff.mp hpath
        exact absurd hq (hnone q fault)
  · obtain ⟨path, hpath, hclear⟩ := ht.ends_at_offence hfault
    obtain ⟨q, rfl, hq⟩ := Heap.rowOffends_singleton_iff.mp hpath
    exact ⟨q, hq, Heap.clear_singleton_iff.mp hclear⟩
  · obtain ⟨hvisit, hchildren⟩ := hwalk fuel hfuel
    refine ⟨hvisit, hchildren, ?_, ?_, fun hreturns ↦ ⟨?_, ?_⟩⟩
    · rw [after, hvisit]
      exact Walk.follow_keeps hkept ending _ hself
    · rw [after, hchildren]
      exact Walk.follow_keeps hkept ending _ hself
    · rw [Op.result, hvisit]
      exact Walk.follow_result hkept hreturns hself _
    · rw [Op.result, hchildren]
      exact Walk.follow_result hkept hreturns hself _

/-- Only the addresses that were given out need to be looked at. -/
theorem Heap.grounded_of_lt_fresh {h : Heap}
    (htargets : ∀ a < h.fresh, ∀ b ∈ h.targets a, b < h.fresh)
    (hlinks : ∀ a < h.fresh, ∀ e q, h.get? a = some (.entity e) → e.parent = .weak q →
      q < h.fresh) : h.Grounded where
  targets a b hb := by
    rcases Nat.lt_or_ge a h.fresh with ha | ha
    · exact htargets a ha b hb
    · rw [Heap.targets, Heap.get?_eq_none_of_fresh_le ha] at hb
      cases hb
  links a e q hget := hlinks a (Heap.lt_fresh_of_get? hget) e q hget

theorem eq_of_lt_three {a : Nat} (ha : a < 3) : a = 0 ∨ a = 1 ∨ a = 2 := by
  omega

/-- A world with a node at 0 whose children are in a tuple: the node at 2, and something that is no
node. -/
def strangerBelow : World Unit where
  heap := ⟨#[some (.entity ⟨.plain, [("type", .str "a"), ("nodes", .ref 1)], .absent⟩),
    some (.tuple [.ref 2, .null]),
    some (.entity ⟨.plain, [("type", .str "b"), ("nodes", .null)], .absent⟩)]⟩
  client := ()

theorem grounded_strangerBelow : strangerBelow.heap.Grounded := by
  apply Heap.grounded_of_lt_fresh
  · intro a ha b hb
    rcases eq_of_lt_three ha with rfl | rfl | rfl
    · obtain rfl := List.mem_singleton.mp hb
      decide
    · obtain rfl := List.mem_singleton.mp hb
      decide
    · cases hb
  · intro a ha e q hget hq
    rcases eq_of_lt_three ha with rfl | rfl | rfl <;> cases hget <;> cases hq

/-- There are three positions. -/
theorem descend?_strangerBelow {path : List Nat} {x : Value}
    (hx : strangerBelow.heap.descend? (.ref 0) path = some x) :
    path = [] ∧ x = .ref 0 ∨ path = [0] ∧ x = .ref 2 ∨ path = [1] ∧ x = .null := by
  match path, hx with
  | [], hx => exact .inl ⟨rfl, (Option.some.inj hx).symm⟩
  | [0], hx => exact .inr (.inl ⟨rfl, (Option.some.inj hx).symm⟩)
  | [1], hx => exact .inr (.inr ⟨rfl, (Option.some.inj hx).symm⟩)
  | 0 :: _ :: _, hx | 1 :: _ :: _, hx => cases hx
  | (n + 2) :: _, hx => cases hx

/-- The function is called on the two nodes, and then the walk fails. -/
theorem visit_strangerBelow :
    let call : Caller Unit := fun _ _ _ ↦ return .null
    let fault := Fault.argument (.expected "node" .node) (.str "node")
    ∃ stops bound, ([], .ref 0) ∈ stops ∧ ([0], .ref 2) ∈ stops ∧ ∀ fuel, bound ≤ fuel →
      Walk.visit call (.callback 0) fuel (.ref 0) strangerBelow =
        Walk.follow call (.callback 0) stops (some fault) (.ref 0) strangerBelow ∧
      (Walk.visit call (.callback 0) fuel (.ref 0)).result strangerBelow = .error fault := by
  intro call fault
  have hfinite : {path | (strangerBelow.heap.descend? (.ref 0) path).isSome = true}.Finite := by
    apply Set.Finite.subset (List.finite_toSet [[], [0], [1]])
    intro path hpath
    obtain ⟨x, hx⟩ := Option.isSome_iff_exists.mp hpath
    rcases descend?_strangerBelow hx with ⟨rfl, -⟩ | ⟨rfl, -⟩ | ⟨rfl, -⟩ <;> simp
  have hoffends : ∀ p other, strangerBelow.heap.Offends (.ref 0) p other →
      p = [1] ∧ other = fault := by
    rintro p other ⟨x, hx, hfault⟩
    rcases descend?_strangerBelow hx with ⟨-, rfl⟩ | ⟨-, rfl⟩ | ⟨rfl, rfl⟩
    · cases hfault
    · cases hfault
    · exact ⟨rfl, (Option.some.inj hfault).symm⟩
  have hfn : strangerBelow.heap.callable (.callback 0) = true := rfl
  obtain ⟨stops, ending, -, -, hmem, hnone, hsome, bound, hwalk⟩ :=
    @visit_tours_unfolding Unit call (.callback 0) (.ref 0) strangerBelow grounded_strangerBelow
      rfl hfn hfinite fun w' _ _ ↦ Heap.Extends.refl w'.heap
  have hending : ending = some fault := by
    cases ending with
    | none => exact absurd ⟨.null, rfl, rfl⟩ (hnone.mp rfl [1] fault)
    | some other =>
      obtain ⟨path, hpath, -⟩ := hsome other rfl
      rw [(hoffends path other hpath).2]
  subst hending
  have hstops (path : List Nat) (v : Value)
      (hv : strangerBelow.heap.descend? (.ref 0) path = some v)
      (hnode : strangerBelow.heap.isNode v = true) (hlt : ¬ [1] < path) : (path, v) ∈ stops := by
    refine (hmem path v).mpr ⟨hv, hnode, fun p other hp ↦ ?_⟩
    rw [(hoffends p other hp).1]
    exact hlt
  refine ⟨stops, bound, hstops [] _ rfl rfl (by decide), hstops [0] _ rfl rfl (by decide),
    fun fuel hfuel ↦ ?_⟩
  obtain ⟨hvisit, -, -, -, hresult⟩ := hwalk fuel hfuel
  exact ⟨hvisit, (hresult fun w' _ _ ↦ ⟨.null, w', rfl⟩).1⟩

end TagTree
