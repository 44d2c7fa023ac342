import TagTree.Proofs.Flattening
import TagTree.Proofs.Phases

/-!
# Looking children up

Whether a node has a child that matches, which is the first that does, and what is found for a
selector are asked by searches that are written separately. Each goes through the children from the
left, asks of each whether its type matches, and ends with the first child for which that is not
answered with no. So they agree on what they find and also on what they fail at, wherever there is
something among the children that is no node or among the leaves of the matcher that is none
(`lookups_agree`).
-/

namespace TagTree.Matcher

open Op

variable {σ : Type} {w : World σ}

/-! ## Searches -/

/-- The item at an index is the first for which the answer is not no, and there it is yes. -/
def FirstHit (p : Value → Op σ Bool) (w : World σ) (items : List Value) (i : Nat) (x : Value) :
    Prop :=
  items[i]? = some x ∧ p x w = .ok true w ∧
    ∀ j < i, ∃ y, items[j]? = some y ∧ p y w = .ok false w

theorem firstHit_zero {p : Value → Op σ Bool} {x : Value} {rest : List Value}
    (hx : p x w = .ok true w) : FirstHit p w (x :: rest) 0 x :=
  ⟨rfl, hx, fun _ hj ↦ absurd hj (Nat.not_lt_zero _)⟩

theorem FirstHit.cons {p : Value → Op σ Bool} {item x : Value} {rest : List Value} {i : Nat}
    (hitem : p item w = .ok false w) (hrest : FirstHit p w rest i x) :
    FirstHit p w (item :: rest) (i + 1) x := by
  obtain ⟨hfound, hyes, hno⟩ := hrest
  refine ⟨by simpa using hfound, hyes, fun j hj ↦ ?_⟩
  cases j with
  | zero => exact ⟨item, rfl, hitem⟩
  | succ j => simpa using hno j (by omega)

/-- A search ends at the first item that is answered with yes, at the first that fails, or behind
the last. The search for an item and the question whether there is one end in the same place. -/
theorem search_cases {p : Value → Op σ Bool} (hp : ∀ item, (p item).Reads w)
    (items : List Value) :
    (∃ i x, FirstHit p w items i x ∧ anyItem p items w = .ok true w ∧
      firstItem p items w = .ok x w) ∨
    ((∀ item ∈ items, p item w = .ok false w) ∧ anyItem p items w = .ok false w ∧
      firstItem p items w = .ok .null w) ∨
    ∃ fault, (∃ item ∈ items, p item w = .error fault w) ∧ anyItem p items w = .error fault w ∧
      firstItem p items w = .error fault w := by
  induction items with
  | nil => exact .inr (.inl ⟨by simp, rfl, rfl⟩)
  | cons item rest ih =>
    rw [anyItem, firstItem]
    rcases (hp item).cases with ⟨_ | _, hitem⟩ | ⟨fault, hitem⟩
    · -- The answer is no, and the search goes on as in the rest.
      rw [bind_of_ok hitem, bind_of_ok hitem]
      simp only [Bool.false_eq_true, if_false]
      rcases ih with ⟨i, x, hhit, hany, hfirst⟩ | ⟨hno, hany, hfirst⟩ |
        ⟨fault, ⟨other, hother, hfails⟩, hany, hfirst⟩
      · exact .inl ⟨i + 1, x, hhit.cons hitem, hany, hfirst⟩
      · exact .inr (.inl ⟨List.forall_mem_cons.mpr ⟨hitem, hno⟩, hany, hfirst⟩)
      · exact .inr (.inr ⟨fault, ⟨other, List.mem_cons_of_mem _ hother, hfails⟩, hany, hfirst⟩)
    · exact .inl ⟨0, item, firstHit_zero hitem, bind_of_ok hitem _, bind_of_ok hitem _⟩
    · exact .inr (.inr ⟨fault, ⟨item, List.mem_cons_self, hitem⟩, bind_of_error hitem _,
        bind_of_error hitem _⟩)

/-! ## What one child answers -/

theorem anyItem_reads {p : Value → Op σ Bool} (hp : ∀ item, (p item).Reads w)
    (items : List Value) : (anyItem p items).Reads w := by
  rcases search_cases hp items with ⟨_, _, -, hany, -⟩ | ⟨-, hany, -⟩ | ⟨_, -, hany, -⟩
  · exact after_of_ok hany
  · exact after_of_ok hany
  · exact after_of_error hany

/-- Asking about the type of a value changes nothing. -/
theorem isType_reads (x : Value) (fuel : Nat) (m : Value) :
    (isType x fuel m : Op σ Bool).Reads w := by
  induction fuel generalizing m with
  | zero => exact reads_throw w _
  | succ fuel ih =>
    rw [isType]
    refine Reads.bind ?_ fun _ _ ↦ Reads.bind ?_ fun _ _ ↦ (reads_heap w).bind fun h _ ↦ ?_
    · exact (reads_heap w).bind fun _ _ ↦ reads_require w _ _ _
    · exact (reads_heap w).bind fun _ _ ↦ reads_require w _ _ _
    · split
      · split
        · exact reads_pure w _
        · exact reads_pure w _
        · refine (reads_heap w).bind fun h _ ↦ ?_
          split
          · exact anyItem_reads ih _
          · exact reads_throw w _
      · exact reads_throw w _

/-- Only nodes are asked about their type. -/
theorem isNode_of_isType {x m : Value} {fuel : Nat} {answer : Bool}
    (h : isType x fuel m w = .ok answer w) : w.heap.isNode x = true := by
  cases hx : w.heap.isNode x with
  | true => rfl
  | false =>
    have hrefused : (requireNode x "node" : Op σ Unit) w =
        .error (.argument (.expected "node" .node) (.str "node")) w :=
      require_apply_false hx _ _ w
    cases fuel with
    | zero => cases h
    | succ fuel =>
      rw [isType, bind_of_error hrefused] at h
      cases h

/-- A question is answered, or is refused because of an argument. -/
def Settled (x : Op σ Bool) (w : World σ) : Prop :=
  (∃ answer, x w = .ok answer w) ∨
    ∃ complaint label, x w = .error (.argument complaint label) w

theorem scanLeaves_settled (type : String) (leaves : List Value) :
    Settled (fromExcept (scanLeaves type leaves) : Op σ Bool) w := by
  induction leaves with
  | nil => exact .inl ⟨false, rfl⟩
  | cons leaf rest ih =>
    have hleaf : leafAnswer type leaf = .ok true ∨ leafAnswer type leaf = .ok false ∨
        leafAnswer type leaf = .error notMatcher := by
      cases leaf <;> simp [leafAnswer, em]
    rw [scanLeaves_cons]
    rcases hleaf with hleaf | hleaf | hleaf <;> rw [hleaf]
    · exact .inl ⟨true, rfl⟩
    · exact ih
    · exact .inr ⟨_, _, rfl⟩

/-- With a matcher that can be gone through, whatever is asked about its type settles that. -/
theorem isType_settled {m : Value} {leaves : List Value} (hm : Flattens w.heap [m] leaves)
    (x : Value) : ∃ bound, ∀ fuel, bound ≤ fuel → Settled (isType x fuel m) w := by
  by_cases htext : w.heap.isNode x = true ∧ isText (w.heap.attrOrNull x "type") = true
  · obtain ⟨hx, htext⟩ := htext
    obtain ⟨type, htype⟩ : ∃ type, w.heap.attrOrNull x "type" = .str type := by
      unfold isText at htext
      split at htext
      · next type htype => exact ⟨type, htype⟩
      · cases htext
    obtain ⟨bound, hscan⟩ := isType_eq_scan hx htype hm
    refine ⟨bound, fun fuel hfuel ↦ ?_⟩
    unfold Settled
    rw [hscan fuel hfuel]
    exact scanLeaves_settled type leaves
  · refine ⟨1, fun fuel hfuel ↦ .inr ?_⟩
    obtain ⟨n, rfl⟩ : ∃ n, fuel = n + 1 := ⟨fuel - 1, by omega⟩
    rw [isType]
    cases hx : w.heap.isNode x with
    | false => exact ⟨_, _, bind_of_error (require_apply_false hx _ _ w) _⟩
    | true =>
      have hno : isText (w.heap.attrOrNull x "type") = false := by simpa [hx] using htext
      exact ⟨_, _, (bind_of_ok (requireNode_apply hx _) _).trans
        (bind_of_error (require_apply_false hno _ _ w) _)⟩

theorem anyItem_settled {p : Value → Op σ Bool} {items : List Value}
    (hp : ∀ item, (p item).Reads w) (hsettled : ∀ item ∈ items, Settled (p item) w) :
    Settled (anyItem p items) w := by
  rcases search_cases hp items with ⟨_, _, -, hany, -⟩ | ⟨-, hany, -⟩ |
    ⟨fault, ⟨item, hitem, hfails⟩, hany, -⟩
  · exact .inl ⟨true, hany⟩
  · exact .inl ⟨false, hany⟩
  · rcases hsettled item hitem with ⟨answer, hrun⟩ | ⟨complaint, label, hrun⟩
    · cases hfails.symm.trans hrun
    · cases hfails.symm.trans hrun
      exact .inr ⟨complaint, label, hany⟩

/-! ## The three lookups -/

section Lookups

variable {node nodes m : Value} {items : List Value}

theorem requireSequence_of_items (hitems : w.heap.sequence? nodes = some items) (label : String)
    (orNull : Bool) : (requireSequence nodes label orNull : Op σ Unit) w = .ok () w :=
  requireSequence_apply (by simp [hitems]) label orNull

theorem hasType_apply (hnode : w.heap.isNode node = true)
    (hitems : w.heap.sequence? (w.heap.attrOrNull node "nodes") = some items) (fuel : Nat)
    (m : Value) :
    hasType fuel node m w = anyItem (fun child ↦ isType child fuel m) items w := by
  rw [hasType, bind_of_ok (requireNode_apply hnode _), bind_of_ok (heap_apply w),
    bind_of_ok (requireSequence_of_items hitems _ _), bind_of_ok (heap_apply w), hitems]
  rfl

theorem firstOfType_apply (hitems : w.heap.sequence? nodes = some items) (fuel : Nat)
    (m : Value) :
    firstOfType fuel nodes m w = firstItem (fun child ↦ isType child fuel m) items w := by
  rw [firstOfType, bind_of_ok (requireSequence_of_items hitems _ _), bind_of_ok (heap_apply w),
    hitems]
  rfl

theorem find_matcher (hitems : w.heap.sequence? nodes = some items) (fuel : Nat)
    (hm : ∀ n, m ≠ .int n) : find fuel nodes m w = firstOfType fuel nodes m w := by
  unfold find
  rw [bind_of_ok (requireSequence_of_items hitems _ _)]
  cases m with
  | int n => exact absurd rfl (hm n)
  | _ => rfl

theorem find_index (hitems : w.heap.sequence? nodes = some items) (fuel i : Nat) :
    find fuel nodes (.int i) w = .ok (items[i]?.getD .null) w := by
  rw [find, bind_of_ok (requireSequence_of_items hitems _ _)]
  dsimp only
  rw [bind_of_ok (heap_apply w), hitems]
  simp

/-- For a node whose children are in a list or tuple, whatever they are: it has a child that matches
if and only if a first one is found, it has none if and only if none is found, and both fail alike.
Selecting by a matcher finds the same. What is found stands at an index up to which all children are
answered with no, and is selected by that index. With a matcher that can be gone through nothing but
an argument is ever complained about. -/
theorem lookups_agree (hnode : w.heap.isNode node = true)
    (hnodes : w.heap.attrOrNull node "nodes" = nodes)
    (hitems : w.heap.sequence? nodes = some items) :
    (∀ m, (∀ n, m ≠ .int n) → ∀ fuel,
      (hasType fuel node m w = .ok true w ↔
        ∃ x, w.heap.isNode x = true ∧ firstOfType fuel nodes m w = .ok x w) ∧
      (hasType fuel node m w = .ok false w ↔ firstOfType fuel nodes m w = .ok .null w) ∧
      (∀ fault, hasType fuel node m w = .error fault w ↔
        firstOfType fuel nodes m w = .error fault w) ∧
      find fuel nodes m w = firstOfType fuel nodes m w ∧
      ∀ x, w.heap.isNode x = true → firstOfType fuel nodes m w = .ok x w →
        ∃ i, FirstHit (fun child ↦ isType child fuel m) w items i x ∧
          find fuel nodes (.int i) w = .ok x w) ∧
    ∀ m leaves, Flattens w.heap [m] leaves → ∃ bound, ∀ fuel, bound ≤ fuel →
      Settled (hasType fuel node m) w := by
  subst hnodes
  have hnull : w.heap.isNode .null = false := rfl
  constructor
  · intro m hm fuel
    rw [find_matcher hitems fuel hm, hasType_apply hnode hitems, firstOfType_apply hitems]
    rcases search_cases (fun child ↦ isType_reads child fuel m) items with
      ⟨i, x, hhit, hany, hfirst⟩ | ⟨-, hany, hfirst⟩ | ⟨fault, -, hany, hfirst⟩
    · have hx : w.heap.isNode x = true := isNode_of_isType hhit.2.1
      have hne : x ≠ .null := by
        rintro rfl
        cases hnull.symm.trans hx
      have hindex : find fuel (w.heap.attrOrNull node "nodes") (.int i) w = .ok x w := by
        rw [find_index hitems, hhit.1]
        rfl
      rw [hany, hfirst]
      refine ⟨by simp [hx], by simp [hne], by simp, rfl, fun y _ hy ↦ ?_⟩
      cases hy
      exact ⟨i, hhit, hindex⟩
    · rw [hany, hfirst]
      refine ⟨by simp [hnull], by simp, by simp, rfl, fun y hy heq ↦ ?_⟩
      cases heq
      cases hnull.symm.trans hy
    · rw [hany, hfirst]
      exact ⟨by simp, by simp, by simp, rfl, by simp⟩
  · intro m leaves hm
    have hchildren : ∀ child ∈ items, ∃ bound, ∀ fuel, bound ≤ fuel →
        Settled (isType child fuel m) w := fun child _ ↦ isType_settled hm child
    obtain ⟨bound, hbound⟩ := exists_common_bound hchildren
    refine ⟨bound, fun fuel hfuel ↦ ?_⟩
    unfold Settled
    rw [hasType_apply hnode hitems]
    exact anyItem_settled (fun child ↦ isType_reads child fuel m) (hbound fuel hfuel)

end Lookups

/-- A world with a node at 0 whose children are a node of another type, a node of type `b`, and the
null value. The matcher at 4 has a number behind the type name. -/
def childBehindHit : World Unit where
  heap := ⟨#[some (.entity ⟨.plain, [("type", .str "p"), ("nodes", .ref 1), ("parent", .null)],
      .absent⟩),
    some (.tuple [.ref 2, .ref 3, .null]),
    some (.entity ⟨.plain, [("type", .str "a"), ("nodes", .null), ("parent", .null)], .absent⟩),
    some (.entity ⟨.plain, [("type", .str "b"), ("nodes", .null), ("parent", .null)], .absent⟩),
    some (.list [.str "b", .int 5])]⟩
  client := ()

/-- The second child is found, and selected by its index, although there is no node behind it. With
the number in the matcher the first child already makes both lookups fail. -/
theorem lookups_agree_childBehindHit :
    (∃ i, FirstHit (fun child ↦ isType child 2 (.str "b")) childBehindHit
        [.ref 2, .ref 3, .null] i (.ref 3) ∧
      find 2 (.ref 1) (.int i) childBehindHit = .ok (.ref 3) childBehindHit) ∧
    hasType 2 (.ref 0) (.str "b") childBehindHit = .ok true childBehindHit ∧
    hasType 2 (.ref 0) (.ref 4) childBehindHit = .error notMatcher childBehindHit := by
  have hnode : childBehindHit.heap.isNode (.ref 0) = true := rfl
  have hnodes : childBehindHit.heap.attrOrNull (.ref 0) "nodes" = .ref 1 := rfl
  have hitems : childBehindHit.heap.sequence? (.ref 1) = some [.ref 2, .ref 3, .null] := rfl
  obtain ⟨hagree, -⟩ := lookups_agree hnode hnodes hitems
  have hfirst : firstOfType 2 (.ref 1) (.str "b") childBehindHit =
      .ok (.ref 3) childBehindHit := rfl
  have hfails : firstOfType 2 (.ref 1) (.ref 4) childBehindHit =
      .error notMatcher childBehindHit := rfl
  obtain ⟨hfound, -, -, -, hindex⟩ := hagree (.str "b") (by simp) 2
  obtain ⟨-, -, hfault, -⟩ := hagree (.ref 4) (by simp) 2
  exact ⟨hindex _ rfl hfirst, hfound.mpr ⟨_, rfl, hfirst⟩, (hfault _).mpr hfails⟩

end TagTree.Matcher
