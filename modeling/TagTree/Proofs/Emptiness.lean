import TagTree.Walk
import TagTree.Proofs.Documents
import TagTree.Proofs.Phases
import TagTree.Proofs.Replay

/-!
# Nodes without content

A node carries no content if none of its children does or, without children, if its payload counts
as false. The walk that finds this out goes down to a given depth, and a node that is below itself
has no answer at any depth. So the answer is what the walk settles at from some depth on, and it is
the same as a verdict by rules that know nothing of depths (`answers_iff`).

By these rules a verdict does not change when empty leaves are put around the children of a node
(`Padded.judged_iff`).
-/

namespace TagTree

open Op

variable {σ : Type}

/-! ## Reading operations and their results -/

section Results

variable {α β : Type}

theorem Op.result_bind {x : Op σ α} {w : World σ} (hx : x.Reads w) (f : α → Op σ β) :
    (x >>= f).result w = (x.result w).bind fun a ↦ (f a).result w := by
  rcases hx.cases with ⟨a, hrun⟩ | ⟨fault, hrun⟩
  · rw [Op.result, bind_of_ok hrun, result_of_ok hrun]
    rfl
  · rw [result_of_error (bind_of_error hrun f), result_of_error hrun]
    rfl

end Results

/-! ## What is met on the way -/

/-- What a search for content meets at a value: an answer, or other values to look at. -/
inductive Sight
  | said (answer : Except Fault Bool)
  | inner (items : List Value)

namespace Heap

/-- The payload of a node: its value or, if that counts as false, an older attribute. -/
def payload (h : Heap) (v : Value) : Value :=
  if h.truthy (h.attrOrNull v "value") then h.attrOrNull v "value" else h.attrOrNull v "val"

/-- What is met at a value. -/
def sight (h : Heap) (v : Value) : Sight :=
  if h.isNode v then
    if h.attrOrNull v "nodes" = .null then .said (.ok !h.truthy (h.payload v))
    else
      match h.sequence? (h.attrOrNull v "nodes") with
      | some items => .inner items
      | none => .said (.error (.argument (.expected "node.nodes" .array) (.str "node.nodes")))
  else .said (.error (.argument (.expected "node" .node) (.str "node")))

variable {h : Heap} {v : Value}

theorem sight_of_null (hv : h.isNode v = true) (hnodes : h.attrOrNull v "nodes" = .null) :
    h.sight v = .said (.ok !h.truthy (h.payload v)) := by
  rw [sight, if_pos hv, if_pos hnodes]

theorem sight_of_sequence {items : List Value} (hv : h.isNode v = true)
    (hnodes : h.sequence? (h.attrOrNull v "nodes") = some items) : h.sight v = .inner items := by
  have hne : h.attrOrNull v "nodes" ≠ .null := by
    intro hnull
    rw [hnull] at hnodes
    cases hnodes
  rw [sight, if_pos hv, if_neg hne, hnodes]

theorem sequence?_of_sight {items : List Value} (hv : h.sight v = .inner items) :
    h.sequence? (h.attrOrNull v "nodes") = some items := by
  unfold sight at hv
  split at hv
  · split at hv
    · cases hv
    · split at hv
      · next hnodes =>
        cases hv
        exact hnodes
      · cases hv
  · cases hv

/-- A walk that is not deep enough is not something to be met. -/
theorem sight_ne_exhausted (h : Heap) (v : Value) : h.sight v ≠ .said (.error .exhausted) := by
  unfold sight
  split
  · split
    · simp
    · split <;> simp
  · simp

end Heap

/-! ## One level of the walk -/

section Walking

variable (call : Caller σ) (w : World σ)

theorem reads_itemAt? (nodes : Value) (index : Nat) :
    (itemAt? nodes index : Op σ (Option Value)).Reads w :=
  (reads_heap w).bind fun _ _ ↦ reads_pure w _

/-- Looking for content changes nothing. -/
theorem reads_isEmpty (n : Nat) :
    (∀ v, (Walk.isEmpty call .null n v).Reads w) ∧
      ∀ nodes index, (Walk.allEmpty call .null n nodes index).Reads w := by
  induction n with
  | zero => exact ⟨fun _ ↦ reads_throw w _, fun _ _ ↦ reads_throw w _⟩
  | succ n ih =>
    have hnode : ∀ v label, (requireNode v label : Op σ Unit).Reads w := fun v label ↦
      (reads_heap w).bind fun _ _ ↦ reads_require w _ _ _
    refine ⟨fun v ↦ ?_, fun nodes index ↦ ?_⟩
    · refine (hnode v _).bind fun _ _ ↦ (reads_heap w).bind fun h _ ↦ ?_
      refine Reads.bind ((reads_heap w).bind fun _ _ ↦ reads_require w _ _ _) fun _ _ ↦ ?_
      split
      · exact ih.2 _ _
      · refine Reads.bind (x := Payload.value v) ?_ fun _ _ ↦ (reads_heap w).bind fun _ _ ↦
          reads_pure w _
        exact (hnode v _).bind fun _ _ ↦ (reads_heap w).bind fun _ _ ↦ reads_pure w _
    · refine (reads_itemAt? w nodes index).bind fun item _ ↦ ?_
      split
      · exact reads_pure w _
      · refine (ih.1 _).bind fun empty _ ↦ ?_
        split
        · exact ih.2 _ _
        · exact reads_pure w _

theorem value_eq_payload {v : Value} (hv : w.heap.isNode v = true) :
    (Payload.value v : Op σ Value) w = .ok (w.heap.payload v) w := by
  rw [Payload.value, bind_of_ok (requireNode_apply hv _), bind_of_ok (heap_apply w)]
  rfl

theorem isEmpty_of_isNode {v : Value} (hv : w.heap.isNode v = true) (n : Nat) :
    Walk.isEmpty call .null (n + 1) v w =
      (do
        requireSequence (w.heap.attrOrNull v "nodes") "node.nodes" true
        if w.heap.attrOrNull v "nodes" ≠ .null then
          Walk.allEmpty call .null n (w.heap.attrOrNull v "nodes") 0
        else do
          let x ← Payload.value v
          return !(← heap).truthy x : Op σ Bool) w := by
  rw [Walk.isEmpty, bind_of_ok (requireNode_apply hv _)]
  rfl

/-- A walk stops at what it meets, or goes on below. -/
theorem isEmpty_result (n : Nat) (v : Value) :
    (Walk.isEmpty call .null (n + 1) v).result w =
      match w.heap.sight v with
      | .said answer => answer
      | .inner _ => (Walk.allEmpty call .null n (w.heap.attrOrNull v "nodes") 0).result w := by
  by_cases hv : w.heap.isNode v = true
  · have hwalk := isEmpty_of_isNode call w hv n
    by_cases hnull : w.heap.attrOrNull v "nodes" = .null
    · have hrun : Walk.isEmpty call .null (n + 1) v w =
          .ok (!w.heap.truthy (w.heap.payload v)) w := by
        have hallowed : (requireSequence .null "node.nodes" true : Op σ Unit) w = .ok () w := rfl
        rw [hwalk, hnull, bind_of_ok hallowed, if_neg (by simp),
          bind_of_ok (value_eq_payload w hv)]
        rfl
      rw [result_of_ok hrun, Heap.sight_of_null hv hnull]
    · cases hnodes : w.heap.sequence? (w.heap.attrOrNull v "nodes") with
      | none =>
        have hrefused : (requireSequence (w.heap.attrOrNull v "nodes") "node.nodes" true :
            Op σ Unit) w = .error _ w :=
          require_apply_false (by simp [hnodes, hnull]) _ _ w
        rw [result_of_error (hwalk.trans (bind_of_error hrefused _)), Heap.sight, if_pos hv,
          if_neg hnull, hnodes]
      | some items =>
        have hsequence : (requireSequence (w.heap.attrOrNull v "nodes") "node.nodes" true :
            Op σ Unit) w = .ok () w := requireSequence_apply (by rw [hnodes]; rfl) _ _
        rw [Heap.sight_of_sequence hv hnodes, Op.result, hwalk, bind_of_ok hsequence,
          if_pos hnull]
        rfl
  · have hrefused : (requireNode v "node" : Op σ Unit) w = .error _ w :=
      require_apply_false (Bool.eq_false_iff.mpr hv) _ _ w
    rw [Heap.sight, if_neg hv, Op.result, Walk.isEmpty, bind_of_error hrefused]

theorem allEmpty_nil {nodes : Value} {items : List Value} {index : Nat}
    (hnodes : w.heap.sequence? nodes = some items) (hitems : items.drop index = []) (n : Nat) :
    (Walk.allEmpty call .null (n + 1) nodes index).result w = .ok true := by
  have hnone : items[index]? = none := List.getElem?_eq_none (List.drop_eq_nil_iff.mp hitems)
  rw [Op.result, Walk.allEmpty, bind_of_ok (Document.itemAt?_of_sequence hnodes index), hnone]
  rfl

theorem allEmpty_cons {nodes v : Value} {items rest : List Value} {index : Nat}
    (hnodes : w.heap.sequence? nodes = some items) (hitems : items.drop index = v :: rest)
    (n : Nat) :
    (Walk.allEmpty call .null (n + 1) nodes index).result w =
      ((Walk.isEmpty call .null n v).result w).bind fun empty ↦
        if empty then (Walk.allEmpty call .null n nodes (index + 1)).result w else .ok false := by
  have hsome := (Document.drop_eq_cons hitems).1
  have hwalk : (Walk.allEmpty call .null (n + 1) nodes index).result w =
      (Walk.isEmpty call .null n v >>= fun empty ↦
        if empty then Walk.allEmpty call .null n nodes (index + 1) else pure false).result w := by
    rw [Op.result, Walk.allEmpty, bind_of_ok (Document.itemAt?_of_sequence hnodes index), hsome]
    rfl
  rw [hwalk, result_bind ((reads_isEmpty call w n).1 v)]
  congr 1
  funext empty
  cases empty <;> rfl

end Walking

/-! ## Answers and verdicts -/

/-- From some depth on, a walk gives the same answer. -/
def Walk.Settles (walk : Nat → Except Fault Bool) (answer : Except Fault Bool) : Prop :=
  ∃ bound, ∀ n, bound ≤ n → walk n = answer

theorem Walk.settles_of_succ {walk : Nat → Except Fault Bool} {answer : Except Fault Bool}
    (bound : Nat) (h : ∀ n, bound ≤ n → walk (n + 1) = answer) : Walk.Settles walk answer := by
  refine ⟨bound + 1, fun n hn ↦ ?_⟩
  obtain ⟨n, rfl⟩ : ∃ i, n = i + 1 := ⟨n - 1, by omega⟩
  exact h n (by omega)

/-- What asking whether a value carries no content answers, if the walk may be as deep as it has to
be. -/
def Walk.Answers (call : Caller σ) (w : World σ) (v : Value) (answer : Except Fault Bool) : Prop :=
  answer ≠ .error .exhausted ∧ Walk.Settles (fun n ↦ (isEmpty call .null n v).result w) answer

/-- Whether several values carry no content. They are looked at one after the other, up to the first
one that has content or a fault. -/
inductive Verdict (see : Value → Sight) : List Value → Except Fault Bool → Prop
  | nil : Verdict see [] (.ok true)
  | stop {v : Value} {rest : List Value} {answer : Except Fault Bool} :
    see v = .said answer → answer ≠ .ok true → Verdict see (v :: rest) answer
  | pass {v : Value} {rest : List Value} {answer : Except Fault Bool} :
    see v = .said (.ok true) → Verdict see rest answer → Verdict see (v :: rest) answer
  | stopBelow {v : Value} {items rest : List Value} {answer : Except Fault Bool} :
    see v = .inner items → Verdict see items answer → answer ≠ .ok true →
    Verdict see (v :: rest) answer
  | passBelow {v : Value} {items rest : List Value} {answer : Except Fault Bool} :
    see v = .inner items → Verdict see items (.ok true) → Verdict see rest answer →
    Verdict see (v :: rest) answer

/-- Whether a single value carries no content. -/
def Judged (see : Value → Sight) (v : Value) (answer : Except Fault Bool) : Prop :=
  match see v with
  | .said said => answer = said
  | .inner items => Verdict see items answer

section Verdicts

variable {see : Value → Sight} {v : Value} {rest xs : List Value} {answer : Except Fault Bool}

theorem judged_of_said (hv : see v = .said answer) : Judged see v answer := by
  rw [Judged, hv]

theorem judged_of_inner {items : List Value} (hv : see v = .inner items) :
    Judged see v answer ↔ Verdict see items answer := by
  rw [Judged, hv]

theorem Judged.stop (hv : Judged see v answer) (hstop : answer ≠ .ok true) :
    Verdict see (v :: rest) answer := by
  unfold Judged at hv
  split at hv
  · next hsee =>
    subst hv
    exact .stop hsee hstop
  · next hsee => exact .stopBelow hsee hv hstop

theorem Judged.pass (hv : Judged see v (.ok true)) (hrest : Verdict see rest answer) :
    Verdict see (v :: rest) answer := by
  unfold Judged at hv
  split at hv
  · next hsee =>
    subst hv
    exact .pass hsee hrest
  · next hsee => exact .passBelow hsee hv hrest

theorem Verdict.ne_exhausted (hsee : ∀ v, see v ≠ .said (.error .exhausted))
    (hv : Verdict see xs answer) : answer ≠ .error .exhausted := by
  induction hv with
  | nil => simp
  | stop hsaid =>
    rintro rfl
    exact hsee _ hsaid
  | pass _ _ ih => exact ih
  | stopBelow _ _ _ ih => exact ih
  | passBelow _ _ _ _ ih => exact ih

end Verdicts

/-! ## Verdicts are what walks settle at -/

section Adequacy

variable (call : Caller σ) (w : World σ) {nodes v : Value} {items rest : List Value} {index : Nat}
  {answer : Except Fault Bool}

theorem settles_of_said (hv : w.heap.sight v = .said answer) :
    Walk.Settles (fun n ↦ (Walk.isEmpty call .null n v).result w) answer := by
  refine Walk.settles_of_succ 0 fun n _ ↦ ?_
  rw [isEmpty_result, hv]

theorem settles_of_inner (hv : w.heap.sight v = .inner items)
    (hbelow : Walk.Settles
      (fun n ↦ (Walk.allEmpty call .null n (w.heap.attrOrNull v "nodes") 0).result w) answer) :
    Walk.Settles (fun n ↦ (Walk.isEmpty call .null n v).result w) answer := by
  obtain ⟨bound, hbound⟩ := hbelow
  refine Walk.settles_of_succ bound fun n hn ↦ ?_
  rw [isEmpty_result, hv]
  exact hbound n hn

section Items

variable (hnodes : w.heap.sequence? nodes = some items)
include hnodes

theorem settles_nil (hitems : items.drop index = []) :
    Walk.Settles (fun n ↦ (Walk.allEmpty call .null n nodes index).result w) (.ok true) :=
  Walk.settles_of_succ 0 fun n _ ↦ allEmpty_nil call w hnodes hitems n

theorem settles_stop (hitems : items.drop index = v :: rest)
    (hv : Walk.Settles (fun n ↦ (Walk.isEmpty call .null n v).result w) answer)
    (hstop : answer ≠ .ok true) :
    Walk.Settles (fun n ↦ (Walk.allEmpty call .null n nodes index).result w) answer := by
  obtain ⟨bound, hbound⟩ := hv
  refine Walk.settles_of_succ bound fun n hn ↦ ?_
  have hfirst : (Walk.isEmpty call .null n v).result w = answer := hbound n hn
  rw [allEmpty_cons call w hnodes hitems, hfirst]
  cases answer with
  | error fault => rfl
  | ok empty =>
    cases empty with
    | true => exact absurd rfl hstop
    | false => rfl

theorem settles_pass (hitems : items.drop index = v :: rest)
    (hv : Walk.Settles (fun n ↦ (Walk.isEmpty call .null n v).result w) (.ok true))
    (hrest : Walk.Settles (fun n ↦ (Walk.allEmpty call .null n nodes (index + 1)).result w)
      answer) :
    Walk.Settles (fun n ↦ (Walk.allEmpty call .null n nodes index).result w) answer := by
  obtain ⟨bound, hbound⟩ := hv
  obtain ⟨bound', hbound'⟩ := hrest
  refine Walk.settles_of_succ (bound + bound') fun n hn ↦ ?_
  have hfirst : (Walk.isEmpty call .null n v).result w = .ok true := hbound n (by omega)
  rw [allEmpty_cons call w hnodes hitems, hfirst]
  exact hbound' n (by omega)

end Items

theorem settles_of_verdict {xs : List Value} (hv : Verdict w.heap.sight xs answer)
    (hnodes : w.heap.sequence? nodes = some items) (hitems : items.drop index = xs) :
    Walk.Settles (fun n ↦ (Walk.allEmpty call .null n nodes index).result w) answer := by
  induction hv generalizing nodes items index with
  | nil => exact settles_nil call w hnodes hitems
  | stop hsaid hstop =>
    exact settles_stop call w hnodes hitems (settles_of_said call w hsaid) hstop
  | pass hsaid _ ih =>
    exact settles_pass call w hnodes hitems (settles_of_said call w hsaid)
      (ih hnodes (Document.drop_eq_cons hitems).2)
  | stopBelow hinner _ hstop ih =>
    have hbelow := ih (Heap.sequence?_of_sight hinner) List.drop_zero
    exact settles_stop call w hnodes hitems (settles_of_inner call w hinner hbelow) hstop
  | passBelow hinner _ _ ihbelow ihrest =>
    have hbelow := ihbelow (Heap.sequence?_of_sight hinner) List.drop_zero
    exact settles_pass call w hnodes hitems (settles_of_inner call w hinner hbelow)
      (ihrest hnodes (Document.drop_eq_cons hitems).2)

/-- A walk that was deep enough gave the verdict. The induction is on the depth. -/
theorem verdict_of_result (n : Nat) :
    (∀ v, (Walk.isEmpty call .null n v).result w ≠ .error .exhausted →
      Judged w.heap.sight v ((Walk.isEmpty call .null n v).result w)) ∧
    ∀ nodes items index, w.heap.sequence? nodes = some items →
      (Walk.allEmpty call .null n nodes index).result w ≠ .error .exhausted →
      Verdict w.heap.sight (items.drop index)
        ((Walk.allEmpty call .null n nodes index).result w) := by
  induction n with
  | zero => exact ⟨fun v h ↦ absurd rfl h, fun nodes items index _ h ↦ absurd rfl h⟩
  | succ n ih =>
    refine ⟨fun v h ↦ ?_, fun nodes items index hnodes h ↦ ?_⟩
    · rw [isEmpty_result] at h ⊢
      cases hsight : w.heap.sight v with
      | said answer => exact judged_of_said hsight
      | inner items =>
        rw [hsight] at h
        exact (judged_of_inner hsight).mpr (ih.2 _ _ 0 (Heap.sequence?_of_sight hsight) h)
    · cases hitems : items.drop index with
      | nil =>
        rw [allEmpty_nil call w hnodes hitems]
        exact .nil
      | cons v rest =>
        have hrest := (Document.drop_eq_cons hitems).2
        have hv := ih.1 v
        rw [allEmpty_cons call w hnodes hitems] at h ⊢
        cases hresult : (Walk.isEmpty call .null n v).result w with
        | error fault =>
          rw [hresult] at h hv
          exact (hv h).stop (by simp)
        | ok empty =>
          rw [hresult] at h hv
          cases empty with
          | true =>
            have hnext := ih.2 nodes items (index + 1) hnodes h
            rw [hrest] at hnext
            exact (hv (by simp)).pass hnext
          | false => exact (hv (by simp)).stop (by simp)

/-- The answer of the walk is the verdict. -/
theorem answers_iff : Walk.Answers call w v answer ↔ Judged w.heap.sight v answer := by
  constructor
  · rintro ⟨hanswer, bound, hbound⟩
    have hresult : (Walk.isEmpty call .null bound v).result w = answer :=
      hbound bound (Nat.le_refl _)
    have hverdict := (verdict_of_result call w bound).1 v
    rw [hresult] at hverdict
    exact hverdict hanswer
  · intro hv
    unfold Judged at hv
    split at hv
    · next said hsaid =>
      subst hv
      refine ⟨?_, settles_of_said call w hsaid⟩
      rintro rfl
      exact w.heap.sight_ne_exhausted v hsaid
    · next items hinner =>
      refine ⟨hv.ne_exhausted w.heap.sight_ne_exhausted, settles_of_inner call w hinner ?_⟩
      exact settles_of_verdict call w hv (Heap.sequence?_of_sight hinner) List.drop_zero

end Adequacy

/-! ## Empty leaves around children -/

/-- All of these are seen to carry no content, without any look further down. -/
def AllBlank (see : Value → Sight) (xs : List Value) : Prop :=
  ∀ x ∈ xs, see x = .said (.ok true)

/-- Values are looked at in two ways. Those in `old` look alike, and so does everything below them,
except that in the second way `p` has empty leaves in front of its items and behind them. -/
structure Padded (see see' : Value → Sight) (old : Value → Prop) (p : Value)
    (front items back : List Value) : Prop where
  same : ∀ v, old v → v ≠ p → see' v = see v
  below : ∀ v inner, old v → see v = .inner inner → ∀ x ∈ inner, old x
  before : see p = .inner items
  after : see' p = .inner (front ++ items ++ back)
  front : AllBlank see' front
  back : AllBlank see' back

section Padding

variable {see see' : Value → Sight} {old : Value → Prop} {p v : Value}
  {front items back xs : List Value} {answer : Except Fault Bool}

theorem allBlank_nil : AllBlank see [] :=
  fun _ hx ↦ absurd hx List.not_mem_nil

/-- Empty leaves do not count. -/
theorem Verdict.append_of_allBlank {leaves : List Value} (hleaves : AllBlank see leaves)
    (hv : Verdict see xs answer) : Verdict see (leaves ++ xs) answer := by
  induction leaves with
  | nil => exact hv
  | cons x leaves ih =>
    apply Verdict.pass (hleaves x List.mem_cons_self)
    exact ih fun y hy ↦ hleaves y (List.mem_cons_of_mem _ hy)

theorem verdict_of_allBlank_iff (hxs : AllBlank see xs) :
    Verdict see xs answer ↔ answer = .ok true := by
  constructor
  · intro hv
    induction hv with
    | nil => rfl
    | stop hsee hstop =>
      have hblank := hxs _ List.mem_cons_self
      exact absurd (Sight.said.inj (hsee.symm.trans hblank)) hstop
    | pass _ _ ih => exact ih fun x hx ↦ hxs x (List.mem_cons_of_mem _ hx)
    | stopBelow hsee =>
      have hblank := hxs _ List.mem_cons_self
      exact absurd (hsee.symm.trans hblank) (by simp)
    | passBelow hsee =>
      have hblank := hxs _ List.mem_cons_self
      exact absurd (hsee.symm.trans hblank) (by simp)
  · rintro rfl
    have hall : Verdict see (xs ++ []) (.ok true) := Verdict.append_of_allBlank hxs .nil
    simpa using hall

/-- Where leaves are around values, the first of all is a leaf or the first of the values. -/
theorem AllBlank.split {f b rest : List Value} (hf : AllBlank see f) (hb : AllBlank see b)
    (h : v :: rest = f ++ xs ++ b) :
    (see v = .said (.ok true) ∧
      ∃ f' b', AllBlank see f' ∧ AllBlank see b' ∧ rest = f' ++ xs ++ b') ∨
    ∃ xs', xs = v :: xs' ∧ rest = [] ++ xs' ++ b := by
  cases f with
  | cons x f =>
    obtain ⟨rfl, rfl⟩ := List.cons.inj h
    exact .inl ⟨hf _ List.mem_cons_self, f, b, fun y hy ↦ hf y (List.mem_cons_of_mem _ hy), hb, rfl⟩
  | nil =>
    cases xs with
    | cons x xs =>
      obtain ⟨rfl, rfl⟩ := List.cons.inj h
      exact .inr ⟨xs, rfl, rfl⟩
    | nil =>
      have hback : b = v :: rest := h.symm
      subst hback
      exact .inl ⟨hb _ List.mem_cons_self, [], rest, allBlank_nil,
        fun y hy ↦ hb y (List.mem_cons_of_mem _ hy), rfl⟩

namespace Padded

variable (hpad : Padded see see' old p front items back)
include hpad

/-- What is said is not said of `p`, so both ways it is the same. -/
theorem said_iff (hv : old v) : see' v = .said answer ↔ see v = .said answer := by
  by_cases hp : v = p
  · rw [hp, hpad.before, hpad.after]
    simp
  · rw [hpad.same v hv hp]

/-- A value is judged in the second way like its items, with leaves behind them. -/
theorem judged_after (hv : old v) {inner : List Value} (hsee : see v = .inner inner)
    (hinner : ∀ b, AllBlank see' b → Verdict see' (inner ++ b) answer) : Judged see' v answer := by
  by_cases hp : v = p
  · subst hp
    obtain rfl : items = inner := Sight.inner.inj (hpad.before.symm.trans hsee)
    rw [judged_of_inner hpad.after, List.append_assoc]
    exact Verdict.append_of_allBlank hpad.front (hinner back hpad.back)
  · rw [judged_of_inner ((hpad.same v hv hp).trans hsee)]
    simpa using hinner [] allBlank_nil

/-- A value is judged in the first way like its items, without leaves around them. -/
theorem judged_before (hv : old v) {inner : List Value} (hsee : see' v = .inner inner)
    (hinner : ∀ f xs b, AllBlank see' f → AllBlank see' b → (∀ x ∈ xs, old x) →
      inner = f ++ xs ++ b → Verdict see xs answer) : Judged see v answer := by
  by_cases hp : v = p
  · subst hp
    obtain rfl : front ++ items ++ back = inner := Sight.inner.inj (hpad.after.symm.trans hsee)
    rw [judged_of_inner hpad.before]
    exact hinner front items back hpad.front hpad.back (hpad.below v items hv hpad.before) rfl
  · have hsame : see v = .inner inner := (hpad.same v hv hp).symm.trans hsee
    rw [judged_of_inner hsame]
    exact hinner [] inner [] allBlank_nil allBlank_nil (hpad.below v inner hv hsame) (by simp)

/-- A verdict stays when there are leaves behind the values. -/
theorem verdict_after (hv : Verdict see xs answer) (hold : ∀ x ∈ xs, old x) {b : List Value}
    (hb : AllBlank see' b) : Verdict see' (xs ++ b) answer := by
  induction hv generalizing b with
  | nil =>
    exact (verdict_of_allBlank_iff hb).mpr rfl
  | stop hsee hstop =>
    exact .stop ((hpad.said_iff (hold _ List.mem_cons_self)).mpr hsee) hstop
  | pass hsee _ ih =>
    exact .pass ((hpad.said_iff (hold _ List.mem_cons_self)).mpr hsee)
      (ih (fun x hx ↦ hold x (List.mem_cons_of_mem _ hx)) hb)
  | stopBelow hsee _ hstop ih =>
    have hv := hold _ List.mem_cons_self
    exact (hpad.judged_after hv hsee fun _ hb ↦ ih (hpad.below _ _ hv hsee) hb).stop hstop
  | passBelow hsee _ _ ihbelow ihrest =>
    have hv := hold _ List.mem_cons_self
    exact (hpad.judged_after hv hsee fun _ hb ↦ ihbelow (hpad.below _ _ hv hsee) hb).pass
      (ihrest (fun x hx ↦ hold x (List.mem_cons_of_mem _ hx)) hb)

/-- A verdict stays when the leaves around the values are taken away. -/
theorem verdict_before {ys : List Value} (hv : Verdict see' ys answer) {f b : List Value}
    (hf : AllBlank see' f) (hb : AllBlank see' b) (hold : ∀ x ∈ xs, old x)
    (hys : ys = f ++ xs ++ b) : Verdict see xs answer := by
  induction hv generalizing f xs b with
  | nil =>
    obtain rfl : xs = [] := by simp_all
    exact .nil
  | stop hsee hstop =>
    rcases hf.split hb hys with ⟨hblank, -⟩ | ⟨xs', rfl, -⟩
    · exact absurd (Sight.said.inj (hsee.symm.trans hblank)) hstop
    · exact .stop ((hpad.said_iff (hold _ List.mem_cons_self)).mp hsee) hstop
  | pass hsee _ ih =>
    rcases hf.split hb hys with ⟨-, f', b', hf', hb', hrest⟩ | ⟨xs', rfl, hrest⟩
    · exact ih hf' hb' hold hrest
    · exact .pass ((hpad.said_iff (hold _ List.mem_cons_self)).mp hsee)
        (ih allBlank_nil hb (fun x hx ↦ hold x (List.mem_cons_of_mem _ hx)) hrest)
  | stopBelow hsee _ hstop ih =>
    rcases hf.split hb hys with ⟨hblank, -⟩ | ⟨xs', rfl, -⟩
    · exact absurd (hsee.symm.trans hblank) (by simp)
    · have hv := hold _ List.mem_cons_self
      exact (hpad.judged_before hv hsee fun _ _ _ hf hb hold ↦ ih hf hb hold).stop hstop
  | passBelow hsee _ _ ihbelow ihrest =>
    rcases hf.split hb hys with ⟨hblank, -⟩ | ⟨xs', rfl, hrest⟩
    · exact absurd (hsee.symm.trans hblank) (by simp)
    · have hv := hold _ List.mem_cons_self
      exact (hpad.judged_before hv hsee fun _ _ _ hf hb hold ↦ ihbelow hf hb hold).pass
        (ihrest allBlank_nil hb (fun x hx ↦ hold x (List.mem_cons_of_mem _ hx)) hrest)

/-- Empty leaves around the items of a value do not change how it is judged. -/
theorem judged_iff (hp : old p) : Judged see p answer ↔ Judged see' p answer := by
  constructor
  · intro h
    rw [judged_of_inner hpad.before] at h
    apply hpad.judged_after hp hpad.before
    intro b hb
    exact hpad.verdict_after h (hpad.below p items hp hpad.before) hb
  · intro h
    rw [judged_of_inner hpad.after] at h
    apply hpad.judged_before hp hpad.after
    intro f xs b hf hb hold hys
    exact hpad.verdict_before h hf hb hold hys

end Padded

end Padding

end TagTree
