import TagTree.Collect
import Mathlib.Tactic.Common

/-!
# What the collector keeps

The collector marks objects round by round: those of the unseen objects that the last round led to,
then what they keep alive, until a round meets nothing new. One round splits what can be reached
into what is met at once and what can be reached from there through the other objects, so all rounds
together mark exactly what can be reached from the roots. The heap is then left with these objects,
each of them as it was.
-/

namespace TagTree.Heap

/-- An address can be reached from a frontier by following what objects keep alive, without leaving
the given addresses. -/
inductive Reached (h : Heap) (among frontier : List Addr) : Addr → Prop
  | start {a : Addr} : a ∈ frontier → a ∈ among → Reached h among frontier a
  | step {a b : Addr} : Reached h among frontier a → b ∈ h.targets a → b ∈ among →
    Reached h among frontier b

section Rounds

variable {h : Heap} {among frontier : List Addr} {a : Addr}

theorem Reached.mem (ha : Reached h among frontier a) : a ∈ among := by
  cases ha with
  | start _ hmem => exact hmem
  | step _ _ hmem => exact hmem

/-- One round: an address is met at once, or it can be reached from what was met through addresses
that were not. -/
theorem reached_iff :
    Reached h among frontier a ↔
      a ∈ among.filter (frontier.contains ·) ∨
        Reached h (among.filter (!frontier.contains ·))
          ((among.filter (frontier.contains ·)).flatMap h.targets) a := by
  constructor
  · intro ha
    induction ha with
    | start hfrontier hmem => exact .inl (by simp [hfrontier, hmem])
    | @step a b _ htarget hmem ih =>
      by_cases hfrontier : b ∈ frontier
      · exact .inl (by simp [hfrontier, hmem])
      · have hrest : b ∈ among.filter (!frontier.contains ·) := by simp [hfrontier, hmem]
        rcases ih with hmet | hreached
        · exact .inr (.start (List.mem_flatMap.mpr ⟨a, hmet, htarget⟩) hrest)
        · exact .inr (.step hreached htarget hrest)
  · rintro (hmet | hreached)
    · have hboth : a ∈ among ∧ a ∈ frontier := by simpa using hmet
      exact .start hboth.2 hboth.1
    · induction hreached with
      | start htargets hrest =>
        obtain ⟨m, hmet, htarget⟩ := List.mem_flatMap.mp htargets
        have hboth : m ∈ among ∧ m ∈ frontier := by simpa using hmet
        exact .step (.start hboth.2 hboth.1) htarget (List.mem_filter.mp hrest).1
      | step _ htarget hrest ih => exact .step ih htarget (List.mem_filter.mp hrest).1

theorem not_reached_nil : ¬ Reached h among [] a := by
  intro ha
  induction ha with
  | start hfrontier _ => cases hfrontier
  | step _ _ _ ih => exact ih

/-- As many rounds as there are addresses are enough: every round but the last meets one. -/
theorem mem_reachFrom_iff {rounds : Nat} (hrounds : among.length ≤ rounds) :
    a ∈ h.reachFrom rounds among frontier ↔ Reached h among frontier a := by
  induction rounds generalizing among frontier with
  | zero =>
    have hnil : among = [] := List.eq_nil_of_length_eq_zero (Nat.le_zero.mp hrounds)
    subst hnil
    constructor
    · intro ha
      cases ha
    · intro ha
      cases ha.mem
  | succ rounds ih =>
    rw [reached_iff, reachFrom]
    simp only
    split
    · next hnone =>
      have hmet : among.filter (frontier.contains ·) = [] := by simpa using hnone
      rw [hmet, List.flatMap_nil]
      simp only [List.not_mem_nil, not_reached_nil, or_self]
    · next hsome =>
      obtain ⟨m, hm⟩ : ∃ m, m ∈ among.filter (frontier.contains ·) :=
        List.exists_mem_of_ne_nil _ (by simpa using hsome)
      have hboth : m ∈ among ∧ m ∈ frontier := by simpa using hm
      have hshorter : (among.filter (!frontier.contains ·)).length < among.length := by
        rw [List.length_filter_lt_length_iff_exists]
        exact ⟨m, hboth.1, by simp [hboth.2]⟩
      rw [List.mem_append, ih (by omega)]

end Rounds

/-! ## Collecting -/

variable {h : Heap} {roots : List Addr} {a : Addr}

theorem mem_live_iff : a ∈ h.live ↔ (h.get? a).isSome = true := by
  rw [live, List.mem_filter, List.mem_range]
  constructor
  · exact fun ha ↦ ha.2
  · intro ha
    obtain ⟨o, ho⟩ := Option.isSome_iff_exists.mp ha
    exact ⟨lt_fresh_of_get? ho, ha⟩

theorem mem_reachable_iff : a ∈ h.reachable roots ↔ Reached h h.live roots a :=
  mem_reachFrom_iff (Nat.le_refl _)

@[simp]
theorem fresh_collect (h : Heap) (roots : List Addr) : (h.collect roots).fresh = h.fresh := by
  simp [collect, fresh]

/-- The collector keeps an object as it is, or not at all. -/
theorem get?_collect_of_mem (ha : a ∈ h.reachable roots) :
    (h.collect roots).get? a = h.get? a := by
  simp [collect, get?, ha]

theorem get?_collect_of_notMem (ha : a ∉ h.reachable roots) :
    (h.collect roots).get? a = none := by
  cases hcell : h.cells[a]? <;> simp [collect, get?, ha, hcell]

end TagTree.Heap
