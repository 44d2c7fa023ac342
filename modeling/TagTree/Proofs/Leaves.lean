import TagTree.Proofs.Emptiness
import TagTree.Proofs.Preorder

/-!
# Content is in the leaves

Whether a node carries no content is asked of the leaves of its unfolding, the positions without
children to speak of: one after the other in pre-order, up to the first that carries some
(`isEmpty_tests_leaves`). A node with children is not asked itself, even if it has none at the
moment.
-/

namespace TagTree

open Op

/-- The stops of a tour at leaves. -/
def Heap.leaves (h : Heap) (stops : List (List Nat × Value)) : List (List Nat × Value) :=
  stops.filter fun stop ↦ h.attrOrNull stop.2 "nodes" = .null

namespace Walk

/-- What a leaf is asked for: whether the predicate holds or, without one, whether its payload
counts as false. -/
def leafTest {σ : Type} (call : Caller σ) (predicate v : Value) : Op σ Bool := do
  if predicate ≠ .null then
    let answer ← call predicate [v] []
    return (← heap).truthy answer
  else
    let payload ← Payload.value v
    return !(← heap).truthy payload

/-- Tests the leaves among several stops, up to the first that fails. -/
def testLeaves {σ : Type} (call : Caller σ) (predicate : Value) (h : Heap)
    (stops : List (List Nat × Value)) : Op σ Bool :=
  ((h.leaves stops).map Prod.snd).allM (leafTest call predicate)

/-- The values that are tested if the tests end with the first that fails. -/
def tested (test : Value → Bool) (values : List Value) : List Value :=
  values.takeWhile test ++ (values.dropWhile test).take 1

section Testing

variable {σ : Type} {call : Caller σ} {p v : Value} {h : Heap} {w : World σ} {items : List Value}
  {stops later : List (List Nat × Value)}

theorem allM_append (f : Value → Op σ Bool) (xs ys : List Value) :
    (xs ++ ys).allM f = (do if ← xs.allM f then ys.allM f else return false) := by
  induction xs with
  | nil => simp [List.allM]
  | cons x xs ih =>
    simp only [List.cons_append, List.allM, ih, bind_assoc]
    congr 1
    funext b
    cases b <;> simp

theorem testLeaves_append :
    testLeaves call p h (stops ++ later) =
      (do if ← testLeaves call p h stops then testLeaves call p h later else return false) := by
  rw [testLeaves, Heap.leaves, List.filter_append, List.map_append, allM_append]
  rfl

theorem testLeaves_under (index : Nat) :
    testLeaves call p h (stops.map (under index)) = testLeaves call p h stops := by
  have hvalues : (h.leaves (stops.map (under index))).map Prod.snd =
      (h.leaves stops).map Prod.snd := by
    rw [Heap.leaves, List.filter_map, List.map_map]
    rfl
  rw [testLeaves, hvalues, testLeaves]

theorem testLeaves_of_null (hv : h.attrOrNull v "nodes" = .null) (path : List Nat) :
    testLeaves call p h [(path, v)] = leafTest call p v := by
  have hpure : (fun b : Bool ↦ if b then pure true else pure false : Bool → Op σ Bool) = pure := by
    funext b
    cases b <;> rfl
  simp [testLeaves, Heap.leaves, hv, List.allM, hpure]

theorem testLeaves_of_ne (hv : h.attrOrNull v "nodes" ≠ .null) (path : List Nat) :
    testLeaves call p h ((path, v) :: stops) = testLeaves call p h stops := by
  simp [testLeaves, Heap.leaves, hv]

/-- What each test keeps is kept by all of them. -/
theorem allM_keeps {P : World σ → Prop} {f : Value → Op σ Bool}
    (hf : ∀ w v, P w → P ((f v).after w)) (values : List Value) (hw : P w) :
    P ((values.allM f).after w) := by
  induction values generalizing w with
  | nil => exact hw
  | cons v values ih =>
    have hfirst := hf w v hw
    cases hrun : f v w with
    | error fault w₁ =>
      rw [after_of_error hrun] at hfirst
      rw [List.allM, after_of_error (bind_of_error hrun _)]
      exact hfirst
    | ok b w₁ =>
      rw [after_of_ok hrun] at hfirst
      rw [List.allM, after, bind_of_ok hrun]
      cases b with
      | false => exact hfirst
      | true => exact ih hfirst

end Testing

/-! ## The walk to the leaves -/

section Walking

variable {σ : Type} {call : Caller σ} {p v : Value} {h : Heap} {w : World σ}
  {items row : List Value} {stops : List (List Nat × Value)} {index n : Nat}
  (hground : h.Grounded) (hp : p = .null ∨ h.callable p = true)
  (hcall : p ≠ .null → ∀ w v, h.Extends w.heap → h.Extends ((call p [v] []).after w).heap)

include hcall in
theorem leafTest_keeps (v : Value) (hext : h.Extends w.heap) :
    h.Extends ((leafTest call p v).after w).heap := by
  unfold leafTest
  split
  · next hne =>
    have hafter := hcall hne w v hext
    cases hrun : call p [v] [] w with
    | error fault w₁ =>
      rw [after_of_error hrun] at hafter
      rw [after_of_error (bind_of_error hrun _)]
      exact hafter
    | ok r w₁ =>
      rw [after_of_ok hrun] at hafter
      rw [after, bind_of_ok hrun]
      exact hafter
  · have hvalue : (Payload.value v : Op σ Value).Reads w :=
      Reads.bind ((reads_heap w).bind fun _ _ ↦ reads_require w _ _ _) fun _ _ ↦
        (reads_heap w).bind fun _ _ ↦ reads_pure w _
    have hreads := hvalue.bind (f := fun payload ↦ do return !(← heap).truthy payload)
      fun _ _ ↦ (reads_heap w).bind fun _ _ ↦ reads_pure w _
    rw [hreads]
    exact hext

include hcall in
theorem testLeaves_keeps (hext : h.Extends w.heap) :
    h.Extends ((testLeaves call p h stops).after w).heap :=
  allM_keeps (P := fun w ↦ h.Extends w.heap) (fun _ v hw ↦ leafTest_keeps hcall v hw) _ hext

include hground hp

theorem isEmpty_of_meet (hext : h.Extends w.heap) (hv : h.Placed v) (hmeet : h.meet v = .node items)
    (n : Nat) :
    isEmpty call p (n + 1) v w =
      if h.attrOrNull v "nodes" = .null then leafTest call p v w
      else allEmpty call p n (h.attrOrNull v "nodes") 0 w := by
  have hnode : h.meet v ≠ .stranger := by simp [hmeet]
  obtain ⟨hnodes, hitems⟩ := attrOrNull_of_meet hground hext hv hnode
  have hsequence : (requireSequence (h.attrOrNull v "nodes") "node.nodes" true : Op σ Unit) w =
      .ok () w := by
    rcases Heap.nodes_of_meet hmeet with ⟨hnull, -⟩ | ⟨-, hsome⟩
    · rw [hnull]
      rfl
    · apply requireSequence_apply
      rw [hitems, hsome]
      rfl
  have hrest : (do
      let nodes := (← heap).attrOrNull v "nodes"
      requireSequence nodes "node.nodes" true
      if nodes ≠ .null then allEmpty call p n nodes 0 else leafTest call p v : Op σ Bool) w =
      if h.attrOrNull v "nodes" = .null then leafTest call p v w
      else allEmpty call p n (h.attrOrNull v "nodes") 0 w := by
    rw [bind_of_ok (heap_apply w), hnodes, bind_of_ok hsequence]
    by_cases hnull : h.attrOrNull v "nodes" = .null
    · rw [if_pos hnull, if_neg (not_not_intro hnull)]
    · rw [if_neg hnull, if_pos hnull]
  rw [isEmpty, bind_of_ok (requireNode_of_meet hground hext hv hnode), ← hrest]
  split
  · next hne =>
    have hfunction := requireFunction_apply (hext.callable (hp.resolve_left hne)) "predicate"
    rw [bind_of_ok hfunction]
    simp only [leafTest, if_pos hne]
  · next hnull =>
    simp only [leafTest, if_neg hnull]

/-- Asking a node is testing the leaves of its unfolding, if that is so for a row of its
children. -/
theorem isEmpty_of_row (hext : h.Extends w.heap) (hv : h.Placed v) (hmeet : h.meet v = .node items)
    (ht : Tour h 0 items stops none)
    (hrow : ∀ nodes, h.sequence? nodes = some items →
      allEmpty call p n nodes 0 w = testLeaves call p h stops w) :
    isEmpty call p (n + 1) v w = testLeaves call p h (([], v) :: stops) w := by
  rw [isEmpty_of_meet hground hp hext hv hmeet]
  rcases Heap.nodes_of_meet hmeet with ⟨hnull, rfl⟩ | ⟨hne, hitems⟩
  · cases ht
    rw [if_pos hnull, testLeaves_of_null hnull]
  · rw [if_neg hne, testLeaves_of_ne hne]
    exact hrow _ hitems

include hcall in
/-- Asking the items of a row is testing the leaves at which a tour stops. The induction is on the
tour. -/
theorem allEmpty_tours {ending : Option Fault} (ht : Tour h index row stops ending)
    (hending : ending = none) :
    ∃ bound, ∀ n, bound ≤ n → ∀ nodes items w, h.Extends w.heap →
      h.sequence? nodes = some items → items.drop index = row →
      allEmpty call p n nodes index w = testLeaves call p h stops w := by
  induction ht with
  | nil index =>
    refine ⟨1, fun n hn nodes items w hext hnodes hrow ↦ ?_⟩
    obtain ⟨n, rfl⟩ : ∃ m, n = m + 1 := ⟨n - 1, by omega⟩
    have hnone : items[index]? = none := List.getElem?_eq_none (List.drop_eq_nil_iff.mp hrow)
    have hnodes' := hext.relinked.sequence? hnodes
    rw [allEmpty, bind_of_ok (Document.itemAt?_of_sequence hnodes' index), hnone]
    rfl
  | stranger | misshapen | stop => cases hending
  | @pass index v items row inner later ending hv hinner _ ihinner ihlater =>
    obtain ⟨bound, hbound⟩ := ihinner rfl
    obtain ⟨bound', hbound'⟩ := ihlater hending
    refine ⟨bound + bound' + 2, fun n hn nodes siblings w hext hnodes hrow ↦ ?_⟩
    obtain ⟨n, rfl⟩ : ∃ m, n = m + 2 := ⟨n - 2, by omega⟩
    have hplaced : h.Placed v :=
      hground.items hnodes v (List.mem_of_mem_drop (hrow ▸ List.mem_cons_self))
    have hfirst : isEmpty call p (n + 1) v w =
        testLeaves call p h ((([], v) :: inner).map (under index)) w := by
      rw [testLeaves_under]
      exact isEmpty_of_row hground hp hext hplaced hv hinner fun nodes' hnodes' ↦
        hbound n (by omega) nodes' items w hext hnodes' List.drop_zero
    have hkept : h.Extends ((testLeaves call p h ((([], v) :: inner).map (under index))).after
        w).heap := testLeaves_keeps hcall hext
    rw [allEmpty, bind_of_ok (Document.itemAt?_of_sequence (hext.relinked.sequence? hnodes) index),
      (Document.drop_eq_cons hrow).1, under_cons, testLeaves_append]
    dsimp only
    rw [bind_apply, bind_apply, hfirst]
    cases hrun : testLeaves call p h ((([], v) :: inner).map (under index)) w with
    | error fault w₁ => rfl
    | ok b w₁ =>
      rw [after_of_ok hrun] at hkept
      cases b with
      | false => rfl
      | true =>
        exact hbound' (n + 1) (by omega) nodes siblings w₁ hkept hnodes
          (Document.drop_eq_cons hrow).2

include hcall in
theorem isEmpty_tours (hext : h.Extends w.heap) (hv : h.Placed v) (hmeet : h.meet v = .node items)
    (ht : Tour h 0 items stops none) :
    ∃ bound, ∀ n, bound ≤ n →
      isEmpty call p n v w = testLeaves call p h (([], v) :: stops) w := by
  obtain ⟨bound, hbound⟩ := allEmpty_tours hground hp hcall ht rfl
  refine ⟨bound + 1, fun n hn ↦ ?_⟩
  obtain ⟨n, rfl⟩ : ∃ m, n = m + 1 := ⟨n - 1, by omega⟩
  exact isEmpty_of_row hground hp hext hv hmeet ht fun nodes hnodes ↦
    hbound n (by omega) nodes items w hext hnodes List.drop_zero

end Walking

/-! ## What the tests come to -/

section Tests

variable {σ : Type} {call : Caller σ} {p : Value} {h : Heap} {w : World σ} {values : List Value}

theorem tested_cons (test : Value → Bool) (v : Value) (values : List Value) :
    tested test (v :: values) = v :: if test v then tested test values else [] := by
  by_cases hv : test v = true <;> simp [tested, hv]

/-- If the predicate answers in one way at each leaf, the outcome is whether it holds at all of
them, and it is called up to the first where it does not. -/
theorem allM_of_test {test : Value → Bool} (hne : p ≠ .null)
    (hcall : ∀ (w : World σ) v, h.Extends w.heap → h.Extends ((call p [v] []).after w).heap)
    (htest : ∀ (w : World σ), ∀ v ∈ values, h.Extends w.heap →
      ∃ r w', call p [v] [] w = .ok r w' ∧ w'.heap.truthy r = test v)
    (hext : h.Extends w.heap) :
    (values.allM (leafTest call p)).result w = .ok (values.all test) ∧
      (values.allM (leafTest call p)).after w =
        (callEach call p (tested test values)).after w := by
  induction values generalizing w with
  | nil => exact ⟨rfl, rfl⟩
  | cons v values ih =>
    obtain ⟨r, w₁, hrun, hr⟩ := htest w v List.mem_cons_self hext
    have hext₁ := hcall w v hext
    rw [after_of_ok hrun] at hext₁
    have hleaf : leafTest call p v w = .ok (test v) w₁ := by
      rw [leafTest, if_pos hne, bind_of_ok hrun, ← hr]
      rfl
    have hlater := ih (fun w' v' hv' ↦ htest w' v' (List.mem_cons_of_mem v hv')) hext₁
    rw [tested_cons, callEach, List.all_cons, List.allM, Op.result, after, after,
      bind_of_ok hleaf, bind_of_ok hrun]
    cases test v with
    | false => exact ⟨rfl, rfl⟩
    | true => exact hlater

/-- Without a predicate, the outcome is whether all payloads count as false. -/
theorem allM_of_null (call : Caller σ) (hvalues : ∀ v ∈ values, w.heap.isNode v = true) :
    values.allM (leafTest call .null) w =
      .ok (values.all fun v ↦ !w.heap.truthy (w.heap.payload v)) w := by
  induction values with
  | nil => rfl
  | cons v values ih =>
    have hleaf : leafTest call .null v w = .ok (!w.heap.truthy (w.heap.payload v)) w := by
      have hnode := hvalues v List.mem_cons_self
      rw [leafTest, if_neg (by simp), bind_of_ok (value_eq_payload w hnode)]
      rfl
    rw [List.allM, bind_of_ok hleaf, List.all_cons]
    cases w.heap.truthy (w.heap.payload v) with
    | true => rfl
    | false => exact ih fun v' hv' ↦ hvalues v' (List.mem_cons_of_mem v hv')

end Tests

end Walk

/-- Let all positions of a finite unfolding be nodes with no children, or with children in a list or
tuple, and let a predicate change no object. The leaves are the positions without children, here
in pre-order. Asking whether the node at the root is empty is nothing but testing the leaves one
after the other, up to the first that fails. If the predicate answers at each leaf in one way, or
without a predicate, the answer is whether all leaves pass. -/
theorem isEmpty_tests_leaves {σ : Type} {call : Caller σ} {p root : Value} {w : World σ}
    (hground : w.heap.Grounded)
    (hnodes : ∀ path v, w.heap.descend? root path = some v → ∃ items, w.heap.meet v = .node items)
    (hfinite : {path | (w.heap.descend? root path).isSome = true}.Finite)
    (hp : p = .null ∨ w.heap.callable p = true ∧ ∀ (w' : World σ) v, w.heap.Extends w'.heap →
      w'.heap.Extends ((call p [v] []).after w').heap) :
    ∃ leaves : List (List Nat × Value),
      (leaves.map Prod.fst).Pairwise (· < ·) ∧
      (∀ path v, (path, v) ∈ leaves ↔
        w.heap.descend? root path = some v ∧ w.heap.attrOrNull v "nodes" = .null) ∧
      ∃ bound, ∀ fuel, bound ≤ fuel →
        Walk.isEmpty call p fuel root w =
          (leaves.map Prod.snd).allM (Walk.leafTest call p) w ∧
        w.heap.Extends ((Walk.isEmpty call p fuel root).after w).heap ∧
        (p = .null → Walk.isEmpty call p fuel root w =
          .ok ((leaves.map Prod.snd).all fun v ↦ !w.heap.truthy (w.heap.payload v)) w) ∧
        ∀ test : Value → Bool, p ≠ .null →
          (∀ (w' : World σ), ∀ v ∈ leaves.map Prod.snd, w.heap.Extends w'.heap →
            ∃ r w'', call p [v] [] w' = .ok r w'' ∧ w''.heap.truthy r = test v) →
          (Walk.isEmpty call p fuel root).result w = .ok ((leaves.map Prod.snd).all test) ∧
          (Walk.isEmpty call p fuel root).after w =
            (Walk.callEach call p (Walk.tested test (leaves.map Prod.snd))).after w := by
  have hcall : p ≠ .null → ∀ (w' : World σ) v, w.heap.Extends w'.heap →
      w.heap.Extends ((call p [v] []).after w').heap := by
    intro hne w' v hext
    exact hext.trans ((hp.resolve_left hne).2 w' v hext)
  have hself := Heap.Extends.refl w.heap
  have hnode {path : List Nat} {v : Value} (hv : w.heap.descend? root path = some v) :
      w.heap.isNode v = true := by
    obtain ⟨items, hmeet⟩ := hnodes path v hv
    exact Heap.isNode_of_meet (by simp [hmeet])
  have hplaced : w.heap.Placed root := by
    obtain ⟨a, e, rfl, hget⟩ :=
      Heap.exists_entity_of_isNode (hnode (show w.heap.descend? root [] = some root from rfl))
    rintro b ⟨⟩
    exact Heap.lt_fresh_of_get? hget
  obtain ⟨items, inner, hmeet, ht, hsorted, hmem⟩ := exists_tour_of_finite hnodes hfinite
  obtain ⟨bound, hwalk⟩ :=
    Walk.isEmpty_tours hground (hp.imp_right And.left) hcall hself hplaced hmeet ht
  refine ⟨w.heap.leaves (([], root) :: inner), ?_, fun path v ↦ ?_, bound, fun fuel hfuel ↦ ?_⟩
  · exact hsorted.sublist (List.filter_sublist.map Prod.fst)
  · rw [Heap.leaves, List.mem_filter, hmem, decide_eq_true_iff]
  · have hrun := hwalk fuel hfuel
    refine ⟨hrun, ?_, ?_, fun test hne htest ↦ ?_⟩
    · rw [after, hrun]
      exact Walk.testLeaves_keeps hcall hself
    · rintro rfl
      rw [hrun]
      apply Walk.allM_of_null
      intro v hv
      obtain ⟨⟨path, v⟩, hleaf, rfl⟩ := List.mem_map.mp hv
      exact hnode ((hmem path v).mp (List.mem_of_mem_filter hleaf))
    · rw [Op.result, after, hrun]
      exact Walk.allM_of_test hne (hcall hne) htest hself

/-- A world with a node at 0 and two children: the one at 2 has a value and an empty list of
children, the one at 4 is a leaf. -/
def hollowChild : World Unit where
  heap := ⟨#[some (.entity ⟨.plain, [("type", .str "a"), ("nodes", .ref 1)], .absent⟩),
    some (.list [.ref 2, .ref 4]),
    some (.entity ⟨.plain, [("type", .str "b"), ("value", .str "x"), ("nodes", .ref 3)], .absent⟩),
    some (.list []),
    some (.entity ⟨.plain, [("type", .str "c"), ("nodes", .null)], .absent⟩)]⟩
  client := ()

theorem descend?_hollowChild {path : List Nat} {x : Value}
    (hx : hollowChild.heap.descend? (.ref 0) path = some x) :
    path = [] ∧ x = .ref 0 ∨ path = [0] ∧ x = .ref 2 ∨ path = [1] ∧ x = .ref 4 := by
  rcases path with _ | ⟨_ | _ | i, _ | ⟨j, path⟩⟩
  · exact .inl ⟨rfl, (Option.some.inj hx).symm⟩
  · exact .inr (.inl ⟨rfl, (Option.some.inj hx).symm⟩)
  · cases hx
  · exact .inr (.inr ⟨rfl, (Option.some.inj hx).symm⟩)
  · cases hx
  · cases hx
  · cases hx

/-- A predicate that holds for the leaf only is asked for nothing else. -/
theorem isEmpty_hollowChild :
    let call : Caller Unit := fun _ args _ ↦ return .bool (args = [.ref 4])
    ∃ (leaves : List (List Nat × Value)) (bound : Nat),
      (∀ leaf, leaf ∈ leaves ↔ leaf = ([1], Value.ref 4)) ∧ ∀ fuel, bound ≤ fuel →
      Walk.isEmpty call (.callback 0) fuel (.ref 0) hollowChild =
        (leaves.map Prod.snd).allM (Walk.leafTest call (.callback 0)) hollowChild ∧
      (Walk.isEmpty call (.callback 0) fuel (.ref 0)).result hollowChild = .ok true := by
  intro call
  have hground : hollowChild.heap.Grounded := by
    have hcases {a : Nat} (ha : a < hollowChild.heap.fresh) :
        a = 0 ∨ a = 1 ∨ a = 2 ∨ a = 3 ∨ a = 4 := by
      have hlt : a < 5 := ha
      omega
    apply Heap.grounded_of_lt_fresh
    · decide +kernel
    · intro a ha e q hget hq
      rcases hcases ha with rfl | rfl | rfl | rfl | rfl <;> cases hget <;> cases hq
  have hnodes : ∀ path v, hollowChild.heap.descend? (.ref 0) path = some v →
      ∃ items, hollowChild.heap.meet v = .node items := by
    intro path v hv
    rcases descend?_hollowChild hv with ⟨-, rfl⟩ | ⟨-, rfl⟩ | ⟨-, rfl⟩
    · exact ⟨[.ref 2, .ref 4], rfl⟩
    · exact ⟨[], rfl⟩
    · exact ⟨[], rfl⟩
  have hfinite : {path | (hollowChild.heap.descend? (.ref 0) path).isSome = true}.Finite := by
    apply Set.Finite.subset (List.finite_toSet [[], [0], [1]])
    intro path hpath
    obtain ⟨x, hx⟩ := Option.isSome_iff_exists.mp hpath
    rcases descend?_hollowChild hx with ⟨rfl, -⟩ | ⟨rfl, -⟩ | ⟨rfl, -⟩ <;> simp
  obtain ⟨leaves, -, hmem, bound, hwalk⟩ :=
    @isEmpty_tests_leaves Unit call (.callback 0) (.ref 0) hollowChild hground hnodes hfinite
      (.inr ⟨rfl, fun w' _ _ ↦ Heap.Extends.refl w'.heap⟩)
  have honly : ∀ leaf, leaf ∈ leaves ↔ leaf = ([1], Value.ref 4) := by
    rintro ⟨path, v⟩
    constructor
    · intro hleaf
      obtain ⟨hv, hnull⟩ := (hmem path v).mp hleaf
      rcases descend?_hollowChild hv with ⟨-, rfl⟩ | ⟨-, rfl⟩ | ⟨rfl, rfl⟩
      · cases hnull
      · cases hnull
      · rfl
    · rintro ⟨⟩
      exact (hmem [1] (.ref 4)).mpr ⟨rfl, rfl⟩
  refine ⟨leaves, bound, honly, fun fuel hfuel ↦ ?_⟩
  obtain ⟨hrun, -, -, htest⟩ := hwalk fuel hfuel
  have hresult := (htest (fun v ↦ [v] = [.ref 4]) (by simp)
    fun w' v _ _ ↦ ⟨.bool ([v] = [.ref 4]), w', rfl, rfl⟩).1
  refine ⟨hrun, hresult.trans (congrArg Except.ok ?_)⟩
  rw [List.all_eq_true]
  intro v hv
  obtain ⟨leaf, hleaf, rfl⟩ := List.mem_map.mp hv
  rw [(honly leaf).mp hleaf]
  rfl

end TagTree
