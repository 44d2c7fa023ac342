import Mathlib.Data.List.Pairwise
import TagTree.Walk

/-!
# Unfoldings

A walk from a node to its children, to their children and so on unfolds a heap into a tree. A
position of the unfolding is the sequence of indices that leads to it, so a node that is the child
of several nodes has several positions. Compared as words, positions come in pre-order: a node
before what is below it, and this before the next child of its parent.

Where a walk meets something that is no node, or a node whose children are not in a list or tuple,
there is an *offence*. A tour of a row of values, as it is put together here from the tours of their
children, stops at exactly those nodes that no offence comes before, in the order of their
positions, and ends with the first offence (`Tour.mem_iff`, `Tour.ends_at_offence`). If the
unfolding has no infinite branch there is such a tour (`exists_tour`).
-/

namespace TagTree

/-! ## Positions -/

/-- What a walk meets: something that is no node, a node whose children are in something else than a
list or tuple, or a node with its children. -/
inductive Meeting
  | stranger
  | misshapen
  | node (children : List Value)

/-- The complaint about what was met. -/
def Meeting.fault? : Meeting → Option Fault
  | .stranger => some (.argument (.expected "node" .node) (.str "node"))
  | .misshapen => some (.argument (.expected "node.nodes" .array) (.str "node.nodes"))
  | .node _ => none

namespace Heap

/-- What a walk meets at a value. -/
def meet (h : Heap) (v : Value) : Meeting :=
  if h.isNode v then
    if h.attrOrNull v "nodes" = .null then .node []
    else
      match h.sequence? (h.attrOrNull v "nodes") with
      | some items => .node items
      | none => .misshapen
  else .stranger

/-- The values that a walk goes on to. -/
def below (h : Heap) (v : Value) : List Value :=
  match h.meet v with
  | .node items => items
  | _ => []

/-- The value at a position of the unfolding. -/
def descend? (h : Heap) : Value → List Nat → Option Value
  | v, [] => some v
  | v, i :: path => (h.below v)[i]?.bind fun child ↦ h.descend? child path

/-- The value at a position of the unfoldings of several values, the first of which has the given
index. -/
def rowAt? (h : Heap) (index : Nat) (row : List Value) : List Nat → Option Value
  | [] => none
  | i :: path => if index ≤ i then row[i - index]?.bind fun v ↦ h.descend? v path else none

/-- There is an offence at a position of the unfoldings of several values. -/
def RowOffends (h : Heap) (index : Nat) (row : List Value) (path : List Nat) (fault : Fault) :
    Prop :=
  ∃ v, h.rowAt? index row path = some v ∧ (h.meet v).fault? = some fault

/-- There is an offence at a position of the unfolding of a value. -/
def Offends (h : Heap) (root : Value) (path : List Nat) (fault : Fault) : Prop :=
  ∃ v, h.descend? root path = some v ∧ (h.meet v).fault? = some fault

/-- No offence comes before a position. -/
def Clear (h : Heap) (index : Nat) (row : List Value) (path : List Nat) : Prop :=
  ∀ p fault, h.RowOffends index row p fault → ¬ p < path

variable {h : Heap} {v x : Value} {row items : List Value} {index i : Nat} {path : List Nat}
  {fault : Fault}

theorem meet_eq_stranger_iff : h.meet v = .stranger ↔ h.isNode v = false := by
  unfold meet
  split
  · split
    · simp_all
    · split <;> simp_all
  · simp_all

theorem isNode_of_meet (hv : h.meet v ≠ .stranger) : h.isNode v = true := by
  rw [Ne, meet_eq_stranger_iff] at hv
  exact eq_true_of_ne_false hv

/-- How the children of a node are kept. -/
theorem nodes_of_meet (hv : h.meet v = .node items) :
    h.attrOrNull v "nodes" = .null ∧ items = [] ∨
      h.attrOrNull v "nodes" ≠ .null ∧ h.sequence? (h.attrOrNull v "nodes") = some items := by
  unfold meet at hv
  split at hv
  · split at hv
    · next hnull => exact .inl ⟨hnull, (Meeting.node.inj hv).symm⟩
    · next hne =>
      split at hv
      · next hitems => exact .inr ⟨hne, hitems.trans (congrArg some (Meeting.node.inj hv))⟩
      · cases hv
  · cases hv

theorem nodes_of_misshapen (hv : h.meet v = .misshapen) :
    h.attrOrNull v "nodes" ≠ .null ∧ h.sequence? (h.attrOrNull v "nodes") = none := by
  unfold meet at hv
  split at hv
  · split at hv
    · cases hv
    · next hne =>
      split at hv
      · cases hv
      · next hnone => exact ⟨hne, hnone⟩
  · cases hv

theorem below_of_meet (hv : h.meet v = .node items) : h.below v = items := by
  rw [below, hv]

theorem rowAt?_below (i : Nat) (path : List Nat) :
    h.rowAt? 0 (h.below v) (i :: path) = h.descend? v (i :: path) := by
  simp [rowAt?, descend?]

theorem exists_cons_of_rowAt? (hx : h.rowAt? index row path = some x) :
    ∃ i rest, path = i :: rest ∧ index ≤ i := by
  cases path with
  | nil => cases hx
  | cons i rest =>
    refine ⟨i, rest, rfl, ?_⟩
    by_contra hlt
    simp [rowAt?, hlt] at hx

@[simp]
theorem rowAt?_nil : h.rowAt? index [] path = none := by
  cases path <;> simp [rowAt?]

theorem rowAt?_cons_of_ne (hne : i ≠ index) :
    h.rowAt? index (v :: row) (i :: path) = h.rowAt? (index + 1) row (i :: path) := by
  simp only [rowAt?]
  by_cases hlt : index < i
  · obtain ⟨k, rfl⟩ : ∃ k, i = index + 1 + k := ⟨i - (index + 1), by omega⟩
    rw [if_pos (Nat.le_of_lt hlt), if_pos (by omega), Nat.add_sub_cancel_left,
      show index + 1 + k - index = k + 1 by omega, List.getElem?_cons_succ]
  · rw [if_neg (by omega), if_neg (by omega)]

/-- The positions of a row: its first value, what is below it, and the rest of the row. -/
theorem rowAt?_cons_iff :
    h.rowAt? index (v :: row) path = some x ↔
      path = [index] ∧ x = v ∨ (∃ q, path = index :: q ∧ h.rowAt? 0 (h.below v) q = some x) ∨
        h.rowAt? (index + 1) row path = some x := by
  cases path with
  | nil => simp [rowAt?]
  | cons i q =>
    by_cases hi : i = index
    · subst hi
      have hlater : h.rowAt? (i + 1) row (i :: q) = none := by
        rw [rowAt?, if_neg (Nat.not_succ_le_self i)]
      have hfirst : h.rowAt? i (v :: row) (i :: q) = h.descend? v q := by simp [rowAt?]
      rw [hlater, hfirst]
      cases q with
      | nil => simp [descend?, rowAt?, eq_comm]
      | cons j q => simp [rowAt?_below]
    · simp [rowAt?_cons_of_ne hi, hi]

theorem rowOffends_cons_iff :
    h.RowOffends index (v :: row) path fault ↔
      path = [index] ∧ (h.meet v).fault? = some fault ∨
        (∃ q, path = index :: q ∧ h.RowOffends 0 (h.below v) q fault) ∨
        h.RowOffends (index + 1) row path fault := by
  simp only [RowOffends, rowAt?_cons_iff]
  constructor
  · rintro ⟨x, ⟨hpath, rfl⟩ | ⟨q, hpath, hx⟩ | hx, hfault⟩
    · exact .inl ⟨hpath, hfault⟩
    · exact .inr (.inl ⟨q, hpath, x, hx, hfault⟩)
    · exact .inr (.inr ⟨x, hx, hfault⟩)
  · rintro (⟨hpath, hfault⟩ | ⟨q, hpath, x, hx, hfault⟩ | ⟨x, hx, hfault⟩)
    · exact ⟨v, .inl ⟨hpath, rfl⟩, hfault⟩
    · exact ⟨x, .inr (.inl ⟨q, hpath, hx⟩), hfault⟩
    · exact ⟨x, .inr (.inr hx), hfault⟩

/-- What is in the rest of a row comes after the first value and everything below it. -/
theorem lt_of_rowAt? (hx : h.rowAt? (index + 1) row path = some x) (q : List Nat) :
    index :: q < path := by
  obtain ⟨i, rest, rfl, hi⟩ := exists_cons_of_rowAt? hx
  exact List.cons_lt_cons_iff.mpr (.inl (Nat.lt_of_succ_le hi))

theorem RowOffends.not_lt (hp : h.RowOffends (index + 1) row path fault) (q : List Nat) :
    ¬ path < index :: q := by
  obtain ⟨x, hx, -⟩ := hp
  exact List.lt_asymm (lt_of_rowAt? hx q)

theorem clear_first : h.Clear index (v :: row) [index] := by
  intro p fault hp
  rcases rowOffends_cons_iff.mp hp with ⟨rfl, -⟩ | ⟨q, rfl, -⟩ | hlater
  · exact List.lt_irrefl _
  · simp
  · exact hlater.not_lt []

theorem clear_under_iff (hv : h.meet v = .node items) {q : List Nat} :
    h.Clear index (v :: row) (index :: q) ↔ h.Clear 0 items q := by
  constructor
  · intro hclear p fault hp hlt
    rw [← below_of_meet hv] at hp
    exact hclear (index :: p) fault (rowOffends_cons_iff.mpr (.inr (.inl ⟨p, rfl, hp⟩)))
      (List.cons_lt_cons_iff.mpr (.inr ⟨rfl, hlt⟩))
  · intro hclear p fault hp
    rcases rowOffends_cons_iff.mp hp with ⟨-, hfault⟩ | ⟨r, rfl, hr⟩ | hlater
    · simp [hv, Meeting.fault?] at hfault
    · rw [below_of_meet hv] at hr
      simpa [List.cons_lt_cons_iff] using hclear r fault hr
    · exact hlater.not_lt q

/-- If there is no offence below the first value, the rest of the row decides. -/
theorem clear_later_iff (hv : h.meet v = .node items)
    (hnone : ∀ p fault, ¬ h.RowOffends 0 items p fault) :
    h.Clear index (v :: row) path ↔ h.Clear (index + 1) row path := by
  constructor
  · exact fun hclear p fault hp ↦ hclear p fault (rowOffends_cons_iff.mpr (.inr (.inr hp)))
  · intro hclear p fault hp
    rcases rowOffends_cons_iff.mp hp with ⟨-, hfault⟩ | ⟨q, -, hq⟩ | hlater
    · simp [hv, Meeting.fault?] at hfault
    · rw [below_of_meet hv] at hq
      exact absurd hq (hnone q fault)
    · exact hclear p fault hlater

/-- If there is an offence at the first value or below it, it comes before the rest of the row. -/
theorem not_clear_of_rowOffends {q : List Nat}
    (hq : h.RowOffends index (v :: row) (index :: q) fault)
    (hx : h.rowAt? (index + 1) row path = some x) : ¬ h.Clear index (v :: row) path :=
  fun hclear ↦ hclear _ _ hq (lt_of_rowAt? hx q)

end Heap

/-! ## Tours -/

/-- A stop below the value at an index, seen from the row that this value is in. -/
def under (index : Nat) (stop : List Nat × Value) : List Nat × Value :=
  (index :: stop.1, stop.2)

/-- A tour of a row of values, the first of which has the given index: the positions and nodes where
it stops, and the fault that it ends with, if any. -/
inductive Tour (h : Heap) : Nat → List Value → List (List Nat × Value) → Option Fault → Prop
  | nil (index : Nat) : Tour h index [] [] none
  | stranger {index : Nat} {v : Value} {row : List Value} : h.meet v = .stranger →
    Tour h index (v :: row) [] (Meeting.fault? .stranger)
  | misshapen {index : Nat} {v : Value} {row : List Value} : h.meet v = .misshapen →
    Tour h index (v :: row) [([index], v)] (Meeting.fault? .misshapen)
  | stop {index : Nat} {v : Value} {items row : List Value} {inner : List (List Nat × Value)}
      {fault : Fault} : h.meet v = .node items → Tour h 0 items inner (some fault) →
    Tour h index (v :: row) (([index], v) :: inner.map (under index)) (some fault)
  | pass {index : Nat} {v : Value} {items row : List Value}
      {inner later : List (List Nat × Value)} {ending : Option Fault} : h.meet v = .node items →
    Tour h 0 items inner none → Tour h (index + 1) row later ending →
    Tour h index (v :: row) (([index], v) :: inner.map (under index) ++ later) ending

section Tours

variable {h : Heap} {index : Nat} {row : List Value} {stops : List (List Nat × Value)}
  {ending : Option Fault}

/-- A tour without a fault meets no offence. -/
theorem Tour.not_rowOffends (ht : Tour h index row stops ending) (hending : ending = none)
    (path : List Nat) (fault : Fault) : ¬ h.RowOffends index row path fault := by
  induction ht generalizing path with
  | nil => simp [Heap.RowOffends]
  | stranger | misshapen => cases hending
  | stop => cases hending
  | pass hv _ _ ihinner ihlater =>
    rw [Heap.rowOffends_cons_iff, Heap.below_of_meet hv]
    rintro (⟨-, hfault⟩ | ⟨q, -, hq⟩ | hlater)
    · simp [hv, Meeting.fault?] at hfault
    · exact ihinner rfl q hq
    · exact ihlater hending path hlater

/-- A fault is that of the first offence. -/
theorem Tour.ends_at_offence (ht : Tour h index row stops ending) {fault : Fault}
    (hending : ending = some fault) :
    ∃ path, h.RowOffends index row path fault ∧ h.Clear index row path := by
  induction ht with
  | nil => cases hending
  | stranger hv | misshapen hv =>
    refine ⟨_, Heap.rowOffends_cons_iff.mpr (.inl ⟨rfl, ?_⟩), Heap.clear_first⟩
    rw [hv, hending]
  | stop hv _ ih =>
    obtain ⟨path, hpath, hclear⟩ := ih hending
    rw [← Heap.below_of_meet hv] at hpath
    exact ⟨_ :: path, Heap.rowOffends_cons_iff.mpr (.inr (.inl ⟨path, rfl, hpath⟩)),
      (Heap.clear_under_iff hv).mpr hclear⟩
  | pass hv hinner _ _ ihlater =>
    obtain ⟨path, hpath, hclear⟩ := ihlater hending
    exact ⟨path, Heap.rowOffends_cons_iff.mpr (.inr (.inr hpath)),
      (Heap.clear_later_iff hv (hinner.not_rowOffends rfl)).mpr hclear⟩

theorem mem_map_under {path : List Nat} {v : Value} :
    (path, v) ∈ stops.map (under index) ↔ ∃ q, path = index :: q ∧ (q, v) ∈ stops := by
  rw [List.mem_map]
  constructor
  · rintro ⟨⟨q, v⟩, hmem, hstop⟩
    cases hstop
    exact ⟨q, rfl, hmem⟩
  · rintro ⟨q, rfl, hmem⟩
    exact ⟨(q, v), hmem, rfl⟩

/-- A tour stops at the nodes that no offence comes before. -/
theorem Tour.mem_iff (ht : Tour h index row stops ending) (path : List Nat) (x : Value) :
    (path, x) ∈ stops ↔
      h.rowAt? index row path = some x ∧ h.isNode x = true ∧ h.Clear index row path := by
  induction ht generalizing path x with
  | nil => simp
  | @stranger index v row hv =>
    have hoffends : h.RowOffends index (v :: row) [index] _ :=
      Heap.rowOffends_cons_iff.mpr (.inl ⟨rfl, by rw [hv]; rfl⟩)
    simp only [List.not_mem_nil, false_iff]
    rintro ⟨hx, hnode, hclear⟩
    rcases Heap.rowAt?_cons_iff.mp hx with ⟨-, rfl⟩ | ⟨q, -, hq⟩ | hlater
    · simp [Heap.meet_eq_stranger_iff.mp hv] at hnode
    · simp [Heap.below, hv] at hq
    · exact Heap.not_clear_of_rowOffends hoffends hlater hclear
  | @misshapen index v row hv =>
    have hoffends : h.RowOffends index (v :: row) [index] _ :=
      Heap.rowOffends_cons_iff.mpr (.inl ⟨rfl, by rw [hv]; rfl⟩)
    have hnode : h.isNode v = true := Heap.isNode_of_meet (by simp [hv])
    rw [List.mem_singleton, Prod.mk.injEq, Heap.rowAt?_cons_iff]
    constructor
    · rintro ⟨rfl, rfl⟩
      exact ⟨.inl ⟨rfl, rfl⟩, hnode, Heap.clear_first⟩
    · rintro ⟨hfirst | ⟨q, -, hq⟩ | hlater, -, hclear⟩
      · exact hfirst
      · simp [Heap.below, hv] at hq
      · exact absurd hclear (Heap.not_clear_of_rowOffends hoffends hlater)
  | @stop index v items row inner fault hv hinner ih =>
    have hnode : h.isNode v = true := Heap.isNode_of_meet (by simp [hv])
    obtain ⟨p, hp, -⟩ := hinner.ends_at_offence rfl
    have hoffends : h.RowOffends index (v :: row) (index :: p) fault := by
      rw [← Heap.below_of_meet hv] at hp
      exact Heap.rowOffends_cons_iff.mpr (.inr (.inl ⟨p, rfl, hp⟩))
    rw [List.mem_cons, Prod.mk.injEq, mem_map_under, Heap.rowAt?_cons_iff, Heap.below_of_meet hv]
    constructor
    · rintro (⟨rfl, rfl⟩ | ⟨q, rfl, hq⟩)
      · exact ⟨.inl ⟨rfl, rfl⟩, hnode, Heap.clear_first⟩
      · obtain ⟨hx, hxnode, hclear⟩ := (ih q x).mp hq
        exact ⟨.inr (.inl ⟨q, rfl, hx⟩), hxnode, (Heap.clear_under_iff hv).mpr hclear⟩
    · rintro ⟨hfirst | ⟨q, rfl, hx⟩ | hlater, hxnode, hclear⟩
      · exact .inl hfirst
      · exact .inr ⟨q, rfl, (ih q x).mpr ⟨hx, hxnode, (Heap.clear_under_iff hv).mp hclear⟩⟩
      · exact absurd hclear (Heap.not_clear_of_rowOffends hoffends hlater)
  | @pass index v items row inner later ending hv hinner _ ihinner ihlater =>
    have hnode : h.isNode v = true := Heap.isNode_of_meet (by simp [hv])
    have hlater_iff : h.Clear index (v :: row) path ↔ h.Clear (index + 1) row path :=
      Heap.clear_later_iff hv (hinner.not_rowOffends rfl)
    rw [List.cons_append, List.mem_cons, List.mem_append, Prod.mk.injEq, mem_map_under,
      Heap.rowAt?_cons_iff, Heap.below_of_meet hv]
    constructor
    · rintro (⟨rfl, rfl⟩ | ⟨q, rfl, hq⟩ | hlater)
      · exact ⟨.inl ⟨rfl, rfl⟩, hnode, Heap.clear_first⟩
      · obtain ⟨hx, hxnode, hclear⟩ := (ihinner q x).mp hq
        exact ⟨.inr (.inl ⟨q, rfl, hx⟩), hxnode, (Heap.clear_under_iff hv).mpr hclear⟩
      · obtain ⟨hx, hxnode, hclear⟩ := (ihlater path x).mp hlater
        exact ⟨.inr (.inr hx), hxnode, hlater_iff.mpr hclear⟩
    · rintro ⟨hfirst | ⟨q, rfl, hx⟩ | hlater, hxnode, hclear⟩
      · exact .inl hfirst
      · exact .inr (.inl ⟨q, rfl, (ihinner q x).mpr
          ⟨hx, hxnode, (Heap.clear_under_iff hv).mp hclear⟩⟩)
      · exact .inr (.inr ((ihlater path x).mpr ⟨hlater, hxnode, hlater_iff.mp hclear⟩))

/-- A node comes before the stops below it. -/
theorem Tour.sorted_under {v : Value} (ht : Tour h 0 row stops ending)
    (hsorted : stops.Pairwise fun x y ↦ x.1 < y.1) :
    (([index], v) :: stops.map (under index)).Pairwise fun x y ↦ x.1 < y.1 := by
  rw [List.pairwise_cons]
  constructor
  · rintro ⟨path, x⟩ hmem
    obtain ⟨q, rfl, hq⟩ := mem_map_under.mp hmem
    obtain ⟨i, rest, rfl, -⟩ := Heap.exists_cons_of_rowAt? ((ht.mem_iff q x).mp hq).1
    simp
  · rw [List.pairwise_map]
    exact hsorted.imp fun hlt ↦ List.cons_lt_cons_iff.mpr (.inr ⟨rfl, hlt⟩)

/-- The stops of a tour come in the order of their positions. -/
theorem Tour.sorted (ht : Tour h index row stops ending) :
    stops.Pairwise fun x y ↦ x.1 < y.1 := by
  induction ht with
  | nil | stranger => exact List.Pairwise.nil
  | misshapen => exact List.pairwise_singleton _ _
  | stop _ hinner ih => exact hinner.sorted_under ih
  | @pass index v items row inner later ending _ hinner hlater ihinner ihlater =>
    rw [List.pairwise_append]
    refine ⟨hinner.sorted_under ihinner, ihlater, fun x hx y hy ↦ ?_⟩
    have hfirst : ∃ q, x.1 = index :: q := by
      rcases List.mem_cons.mp hx with rfl | hmem
      · exact ⟨[], rfl⟩
      · obtain ⟨q, hq, -⟩ := mem_map_under.mp hmem
        exact ⟨q, hq⟩
    obtain ⟨q, hq⟩ := hfirst
    rw [hq]
    exact Heap.lt_of_rowAt? ((hlater.mem_iff y.1 y.2).mp hy).1 q

/-- There is a tour of every row whose unfoldings are not deeper than some bound. -/
theorem exists_tour (h : Heap) (n : Nat) (row : List Value) (index : Nat)
    (hdepth : ∀ path x, h.rowAt? index row path = some x → path.length ≤ n) :
    ∃ stops ending, Tour h index row stops ending := by
  induction n generalizing row index with
  | zero =>
    cases row with
    | nil => exact ⟨[], none, .nil index⟩
    | cons v row =>
      have hfirst := hdepth [index] v (Heap.rowAt?_cons_iff.mpr (.inl ⟨rfl, rfl⟩))
      cases hfirst
  | succ n ih =>
    induction row generalizing index with
    | nil => exact ⟨[], none, .nil index⟩
    | cons v row ihrow =>
      obtain ⟨later, ending, hlater⟩ := ihrow (index + 1) fun path x hx ↦
        hdepth path x (Heap.rowAt?_cons_iff.mpr (.inr (.inr hx)))
      cases hv : h.meet v with
      | stranger => exact ⟨_, _, .stranger hv⟩
      | misshapen => exact ⟨_, _, .misshapen hv⟩
      | node items =>
        -- What is below the first value is less deep than the row.
        obtain ⟨inner, ending', hinner⟩ := ih items 0 fun path x hx ↦ by
          rw [← Heap.below_of_meet hv] at hx
          have hlength := hdepth (index :: path) x
            (Heap.rowAt?_cons_iff.mpr (.inr (.inl ⟨path, rfl, hx⟩)))
          exact Nat.le_of_succ_le_succ hlength
        cases ending' with
        | none => exact ⟨_, _, .pass hv hinner hlater⟩
        | some fault => exact ⟨_, _, .stop hv hinner⟩

end Tours

/-! ## Tours of one unfolding -/

section Roots

variable {h : Heap} {root x : Value} {i : Nat} {path : List Nat}

theorem Heap.rowAt?_singleton_iff :
    h.rowAt? 0 [root] (i :: path) = some x ↔ i = 0 ∧ h.descend? root path = some x := by
  cases i with
  | zero => simp [Heap.rowAt?]
  | succ i => simp [Heap.rowAt?]

theorem Heap.rowOffends_singleton_iff {p : List Nat} {fault : Fault} :
    h.RowOffends 0 [root] p fault ↔ ∃ q, p = 0 :: q ∧ h.Offends root q fault := by
  constructor
  · rintro ⟨x, hx, hfault⟩
    obtain ⟨i, q, rfl, -⟩ := Heap.exists_cons_of_rowAt? hx
    obtain ⟨rfl, hq⟩ := Heap.rowAt?_singleton_iff.mp hx
    exact ⟨q, rfl, x, hq, hfault⟩
  · rintro ⟨q, rfl, x, hx, hfault⟩
    exact ⟨x, Heap.rowAt?_singleton_iff.mpr ⟨rfl, hx⟩, hfault⟩

theorem Heap.clear_singleton_iff :
    h.Clear 0 [root] (0 :: path) ↔ ∀ p fault, h.Offends root p fault → ¬ p < path := by
  constructor
  · intro hclear p fault hp hlt
    exact hclear (0 :: p) fault (Heap.rowOffends_singleton_iff.mpr ⟨p, rfl, hp⟩)
      (List.cons_lt_cons_iff.mpr (.inr ⟨rfl, hlt⟩))
  · intro hclear p fault hp
    obtain ⟨q, rfl, hq⟩ := Heap.rowOffends_singleton_iff.mp hp
    simpa [List.cons_lt_cons_iff] using hclear q fault hq

/-- A tour of the unfolding of a node begins with the node and goes on with a tour of its children,
if they are in order. -/
theorem exists_tour_of_node (hroot : h.isNode root = true) {n : Nat}
    (hdepth : ∀ path x, h.descend? root path = some x → path.length ≤ n) :
    ∃ inner ending, Tour h 0 [root] ((([], root) :: inner).map (under 0)) ending ∧
      (h.meet root = .misshapen ∧ inner = [] ∧ ending = Meeting.fault? .misshapen ∨
        ∃ items, h.meet root = .node items ∧ Tour h 0 items inner ending) := by
  obtain ⟨stops, ending, ht⟩ := exists_tour h (n + 1) [root] 0 fun path x hx ↦ by
    obtain ⟨i, q, rfl, -⟩ := Heap.exists_cons_of_rowAt? hx
    exact Nat.succ_le_succ (hdepth q x (Heap.rowAt?_singleton_iff.mp hx).2)
  cases ht with
  | stranger hmeet => simp [Heap.meet_eq_stranger_iff.mp hmeet] at hroot
  | misshapen hmeet => exact ⟨[], _, .misshapen hmeet, .inl ⟨hmeet, rfl, rfl⟩⟩
  | stop hmeet hinner => exact ⟨_, _, .stop hmeet hinner, .inr ⟨_, hmeet, hinner⟩⟩
  | @pass _ _ _ _ inner _ _ hmeet hinner hlater =>
    cases hlater
    have hpass := Tour.pass hmeet hinner (.nil 1)
    rw [List.append_nil] at hpass
    exact ⟨inner, none, hpass, .inr ⟨_, hmeet, hinner⟩⟩

end Roots

end TagTree
