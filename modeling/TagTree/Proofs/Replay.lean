import TagTree.Proofs.Stacks

/-!
# Nesting over whole runs

A nesting state remembers its whole history as far as it matters: the stack for a type name is what
one gets by replaying, on an empty stack, the events that counted for that name. Between the events
anything may happen that does not touch the objects of the state, and what a node counts for is
decided anew at each event.
-/

namespace TagTree

open Op

/-! ## Events -/

/-- What happened to a nesting state, with the type name that it counted for: a node was entered, or
it was tried to leave one, with some result. -/
inductive NestingEvent
  | entered (key : String) (node : Value)
  | left (key : String) (result : Except Fault Value)

namespace NestingEvent

def key : NestingEvent → String
  | entered key _ | left key _ => key

def isEntry : NestingEvent → Bool
  | entered _ _ => true
  | left _ _ => false

/-- Whether a node was taken from a stack. -/
def isPop : NestingEvent → Bool
  | left _ (.ok v) => v ≠ .null
  | _ => false

/-- What an event makes of the stack for its type name. -/
def apply (stack : List Value) : NestingEvent → List Value
  | entered _ node => stack ++ [node]
  | left _ _ => stack.dropLast

/-- An event that can happen when the stack for its type name is the given one. -/
def Fits (stack : List Value) : NestingEvent → Prop
  | entered _ node => node ≠ .null
  | left _ result => result = .ok (stack.getLast?.getD .null) ∨
    stack = [] ∧ ∃ fault, result = .error fault

end NestingEvent

/-- The stack that the events for a type name lead to. -/
def replay (history : List NestingEvent) (key : String) : List Value :=
  (history.filter fun event ↦ event.key = key).foldl NestingEvent.apply []

/-- How many nodes were entered for a type name. -/
def entryCount (history : List NestingEvent) (key : String) : Nat :=
  history.countP fun event ↦ event.key = key ∧ event.isEntry

/-- How many nodes were taken from the stack for a type name. -/
def popCount (history : List NestingEvent) (key : String) : Nat :=
  history.countP fun event ↦ event.key = key ∧ event.isPop

theorem replay_append_self (history : List NestingEvent) (event : NestingEvent) :
    replay (history ++ [event]) event.key = event.apply (replay history event.key) := by
  simp [replay, List.filter_append]

theorem replay_append_of_ne (history : List NestingEvent) {event : NestingEvent} {key : String}
    (hne : event.key ≠ key) : replay (history ++ [event]) key = replay history key := by
  simp [replay, List.filter_append, hne]

/-! ## Runs -/

/-- The worlds that entering and leaving nodes leads to, each with a record of all events. In an
interlude anything may change except the objects of the nesting state. -/
inductive NestingRun {σ : Type} (call : Caller σ) (st : Addr) (w₀ : World σ) :
    List NestingEvent → World σ → Prop
  | start : NestingRun call st w₀ [] w₀
  | interlude {history : List NestingEvent} {w w' : World σ} :
    NestingRun call st w₀ history w →
    (∀ a, w.heap.InState st a → w'.heap.get? a = w.heap.get? a) →
    NestingRun call st w₀ history w'
  | enter {history : List NestingEvent} {w : World σ} {s : Settings} {node : Value} {key : String} :
    NestingRun call st w₀ history w →
    w.Uses s → w.heap.isNode node = true → w.heap.keyIn node s.openSuffix = some key →
    NestingRun call st w₀ (history ++ [.entered key node])
      ((Nesting.enter call (.ref st) node).after w)
  | leave {history : List NestingEvent} {w : World σ} {s : Settings} {node : Value} {key : String} :
    NestingRun call st w₀ history w →
    w.Uses s → w.heap.isNode node = true → w.heap.keyIn node s.closeSuffix = some key →
    NestingRun call st w₀ (history ++ [.left key ((Nesting.leave call (.ref st) node).result w)])
      ((Nesting.leave call (.ref st) node).after w)

/-- A nesting state agrees with a record of events. -/
structure Recalls (h : Heap) (st : Addr) (history : List NestingEvent) : Prop where
  stacked : h.Stacked st
  inside : h.attrOrNull (.ref st) "inside" = .null ↔ ∀ event ∈ history, event.isEntry = false
  stackOf : ∀ key, h.stackOf (.ref st) key = replay history key
  present : ∀ key, ∀ v ∈ replay history key, v ≠ .null
  balance : ∀ key, (replay history key).length + popCount history key = entryCount history key

/-- The objects of a state are all that matters to it. -/
theorem Heap.Stacked.of_same {h h' : Heap} {st : Addr} (hst : h.Stacked st)
    (hsame : ∀ a, h.InState st a → h'.get? a = h.get? a) :
    h'.Stacked st ∧ h'.attrOrNull (.ref st) "inside" = h.attrOrNull (.ref st) "inside" ∧
      ∀ key, h'.stackOf (.ref st) key = h.stackOf (.ref st) key := by
  rcases hst with hi | ⟨d, table, hh⟩
  · have hi' : h'.Idle st := by
      obtain ⟨e, he, hk, hnull⟩ := hi
      exact ⟨e, (hsame st (.inl rfl)).trans he, hk, hnull⟩
    exact ⟨.inl hi', by rw [hi.inside, hi'.inside], fun key ↦ by rw [hi.stackOf, hi'.stackOf]⟩
  · have hlist : ∀ entry ∈ table, ∀ l, entry.2 = .ref l → h'.get? l = h.get? l := by
      intro entry hentry l hl
      apply hsame
      rw [hh.inState_iff, ← hl]
      exact .inr (.inr (List.mem_map_of_mem hentry))
    have hh' : h'.Holds st d table := by
      obtain ⟨e, he, hk, hinside⟩ := hh.state
      refine ⟨⟨e, (hsame st (.inl rfl)).trans he, hk, hinside⟩,
        (hsame d (hh.inState_iff.mpr (.inr (.inl rfl)))).trans hh.dict, ?_, hh.unshared⟩
      intro entry hentry
      obtain ⟨l, items, hl, hget⟩ := hh.list entry hentry
      exact ⟨l, items, hl, (hlist entry hentry l hl).trans hget⟩
    refine ⟨.inr ⟨d, table, hh'⟩, by rw [hh.inside, hh'.inside], fun key ↦ ?_⟩
    rw [hh.stackOf, hh'.stackOf]
    cases hv : table.lookup (.str key) with
    | none => rfl
    | some v =>
      have hmem := mem_of_lookup hv
      obtain ⟨l, items, rfl, hget⟩ := hh.list _ hmem
      have hget' := (hlist _ hmem l rfl).trans hget
      simp [Heap.list?_of_get? hget, Heap.list?_of_get? hget']

section Steps

variable {h h' : Heap} {st : Addr} {history : List NestingEvent} {event : NestingEvent}

theorem NestingEvent.mem_apply {stack : List Value} (hfits : event.Fits stack)
    (hpresent : ∀ v ∈ stack, v ≠ .null) : ∀ v ∈ event.apply stack, v ≠ .null := by
  intro v hv
  cases event with
  | entered key node =>
    rcases List.mem_append.mp hv with hold | hnew
    · exact hpresent v hold
    · exact List.mem_singleton.mp hnew ▸ hfits
  | left key result => exact hpresent v (List.dropLast_subset _ hv)

/-- A stack gets longer by entering, and shorter exactly if something is taken from it. -/
theorem NestingEvent.length_apply {stack : List Value} (hfits : event.Fits stack)
    (hpresent : ∀ v ∈ stack, v ≠ .null) :
    (event.apply stack).length + (if event.isPop then 1 else 0) =
      stack.length + (if event.isEntry then 1 else 0) := by
  cases event with
  | entered key node => simp [apply, isPop, isEntry]
  | left key result =>
    rcases hfits with rfl | ⟨rfl, fault, rfl⟩
    · cases hlast : stack.getLast? with
      | none =>
        obtain rfl := List.getLast?_eq_none_iff.mp hlast
        rfl
      | some v =>
        have hv : v ≠ .null := hpresent v (List.mem_of_getLast? hlast)
        have hpos : 0 < stack.length := List.length_pos_of_mem (List.mem_of_getLast? hlast)
        simp only [apply, isPop, isEntry, Option.getD_some, List.length_dropLast, hv, ne_eq,
          not_false_eq_true, decide_true, if_true, Bool.false_eq_true, if_false]
        omega
    · rfl

/-- One more event keeps state and record in agreement if it did to the stack for its type name what
it should, and nothing to the others. -/
theorem Recalls.append (hr : Recalls h st history) (hfits : event.Fits (replay history event.key))
    (hstacked : h'.Stacked st)
    (hinside : h'.attrOrNull (.ref st) "inside" = .null ↔
      h.attrOrNull (.ref st) "inside" = .null ∧ event.isEntry = false)
    (hstack : ∀ k, h'.stackOf (.ref st) k =
      if k = event.key then event.apply (replay history event.key) else h.stackOf (.ref st) k) :
    Recalls h' st (history ++ [event]) := by
  -- All statements about stacks are about the one that changed or another one.
  have hcases (k : String) : (k = event.key ∧
      replay (history ++ [event]) k = event.apply (replay history k)) ∨
      (event.key ≠ k ∧ replay (history ++ [event]) k = replay history k) := by
    by_cases hk : k = event.key
    · exact .inl ⟨hk, hk ▸ replay_append_self history event⟩
    · exact .inr ⟨Ne.symm hk, replay_append_of_ne history (Ne.symm hk)⟩
  refine ⟨hstacked, ?_, fun k ↦ ?_, fun k ↦ ?_, fun k ↦ ?_⟩
  · rw [hinside, hr.inside]
    simp [or_imp, forall_and]
  · rw [hstack]
    rcases hcases k with ⟨rfl, hreplay⟩ | ⟨hk, hreplay⟩
    · rw [if_pos rfl, hreplay]
    · rw [if_neg (Ne.symm hk), hreplay, hr.stackOf]
  · rcases hcases k with ⟨rfl, hreplay⟩ | ⟨hk, hreplay⟩
    · rw [hreplay]
      exact NestingEvent.mem_apply hfits (hr.present _)
    · rw [hreplay]
      exact hr.present k
  · have hbalance := hr.balance k
    rcases hcases k with ⟨rfl, hreplay⟩ | ⟨hk, hreplay⟩
    · have hlength := NestingEvent.length_apply hfits (hr.present _)
      have hpops : popCount (history ++ [event]) event.key =
          popCount history event.key + if event.isPop then 1 else 0 := by
        simp [popCount, List.countP_append, List.countP_singleton]
      have hentries : entryCount (history ++ [event]) event.key =
          entryCount history event.key + if event.isEntry then 1 else 0 := by
        simp [entryCount, List.countP_append, List.countP_singleton]
      rw [hreplay, hpops, hentries]
      omega
    · have hpops : popCount (history ++ [event]) k = popCount history k := by
        simp [popCount, List.countP_append, hk]
      have hentries : entryCount (history ++ [event]) k = entryCount history k := by
        simp [entryCount, List.countP_append, hk]
      rw [hreplay, hpops, hentries]
      exact hbalance

theorem Recalls.interlude (hr : Recalls h st history)
    (hsame : ∀ a, h.InState st a → h'.get? a = h.get? a) : Recalls h' st history := by
  obtain ⟨hstacked, hinside, hstack⟩ := hr.stacked.of_same hsame
  exact ⟨hstacked, by rw [hinside, hr.inside], fun k ↦ (hstack k).trans (hr.stackOf k), hr.present,
    hr.balance⟩

variable {σ : Type} {w : World σ} {s : Settings} {node : Value} {key : String}

theorem Recalls.enter (call : Caller σ) (hr : Recalls w.heap st history) (hs : w.Uses s)
    (hnode : w.heap.isNode node = true) (hkey : w.heap.keyIn node s.openSuffix = some key) :
    Recalls ((Nesting.enter call (.ref st) node).after w).heap st
      (history ++ [.entered key node]) := by
  obtain ⟨stack, h, ⟨log, hrun⟩, hre⟩ := Nesting.enter_restacks call hs hr.stacked hnode hkey
  have hpresent : node ≠ .null := by
    rintro rfl
    cases hnode
  rw [after_of_ok hrun]
  refine hr.append hpresent hre.stacked ?_ fun k ↦ ?_
  · simp [hre.held, NestingEvent.isEntry]
  · rw [hre.stackOf, hr.stackOf key]
    rfl

/-- What leaving gives, in terms of the record. -/
theorem Recalls.leave_cases (call : Caller σ) (hr : Recalls w.heap st history) (hs : w.Uses s)
    (hnode : w.heap.isNode node = true) (hkey : w.heap.keyIn node s.closeSuffix = some key) :
    (w.heap.Idle st ∧ Nesting.leave call (.ref st) node w = .error (.neverEntered key) w) ∨
      (w.heap.attrOrNull (.ref st) "inside" ≠ .null ∧
        ∃ h, (Nesting.leave call (.ref st) node).Gives w
            ((replay history key).getLast?.getD .null) h ∧
          w.heap.Restacks h st key (replay history key).dropLast) := by
  rcases hr.stacked with hi | ⟨d, table, hh⟩
  · exact .inl ⟨hi, Nesting.leave_of_idle call hs hi hnode hkey⟩
  · right
    rw [← hr.stackOf]
    exact ⟨by simp [hh.inside], Nesting.leave_restacks call hs hh hnode hkey⟩

theorem Recalls.leave (call : Caller σ) (hr : Recalls w.heap st history) (hs : w.Uses s)
    (hnode : w.heap.isNode node = true) (hkey : w.heap.keyIn node s.closeSuffix = some key) :
    Recalls ((Nesting.leave call (.ref st) node).after w).heap st
      (history ++ [.left key ((Nesting.leave call (.ref st) node).result w)]) := by
  rcases hr.leave_cases call hs hnode hkey with ⟨hi, hrun⟩ | ⟨hheld, h, ⟨log, hrun⟩, hre⟩
  · rw [after_of_error hrun, result_of_error hrun]
    have hempty : ∀ k, replay history k = [] := fun k ↦ by rw [← hr.stackOf, hi.stackOf]
    refine hr.append (.inr ⟨hempty _, _, rfl⟩) hr.stacked ?_ fun k ↦ ?_
    · simp [NestingEvent.isEntry]
    · simp [hi.stackOf, hempty, NestingEvent.apply]
  · rw [after_of_ok hrun, result_of_ok hrun]
    refine hr.append (.inl rfl) hre.stacked ?_ hre.stackOf
    simp [hre.held, hheld]

end Steps

section Runs

variable {σ : Type} {call : Caller σ} {st : Addr} {w₀ w : World σ} {history : List NestingEvent}

theorem recalls_nil {h : Heap} (hi : h.Idle st) : Recalls h st [] where
  stacked := .inl hi
  inside := by simp [hi.inside]
  stackOf := hi.stackOf
  present := fun _ _ hv ↦ absurd hv List.not_mem_nil
  balance := fun _ ↦ rfl

theorem NestingRun.recalls (hi : w₀.heap.Idle st) (hrun : NestingRun call st w₀ history w) :
    Recalls w.heap st history := by
  induction hrun with
  | start => exact recalls_nil hi
  | interlude _ hsame ih => exact ih.interlude hsame
  | enter _ hs hnode hkey ih => exact ih.enter call hs hnode hkey
  | leave _ hs hnode hkey ih => exact ih.leave call hs hnode hkey

/-- At every point of every run: a state has a mapping if and only if something was entered; each
stack is the replay of the events that counted for its type name; entering succeeds; leaving takes
the top of the replayed stack, or nothing if there is none, and fails without any effect if and only
if nothing was ever entered; and a state is inside a type if and only if more nodes were entered for
it than taken out. -/
theorem stackOf_eq_replay_of_run (hi : w₀.heap.Idle st)
    (hrun : NestingRun call st w₀ history w) :
    (w.heap.attrOrNull (.ref st) "inside" = .null ↔
      ∀ event ∈ history, event.isEntry = false) ∧
    (∀ key, w.heap.stackOf (.ref st) key = replay history key) ∧
    (∀ s node key, w.Uses s → w.heap.isNode node = true →
      w.heap.keyIn node s.openSuffix = some key →
      ∃ stack w', Nesting.enter call (.ref st) node w = .ok stack w') ∧
    (∀ s node key, w.Uses s → w.heap.isNode node = true →
      w.heap.keyIn node s.closeSuffix = some key →
      ((∀ event ∈ history, event.isEntry = false) →
        Nesting.leave call (.ref st) node w = .error (.neverEntered key) w) ∧
      ((∃ event ∈ history, event.isEntry = true) →
        ∃ w', Nesting.leave call (.ref st) node w =
          .ok ((replay history key).getLast?.getD .null) w')) ∧
    ∀ key, Nesting.isInsideType call (.ref st) (.str key) w =
      .ok (decide (popCount history key < entryCount history key)) w := by
  have hr := hrun.recalls hi
  refine ⟨hr.inside, hr.stackOf, ?_, ?_, ?_⟩
  · intro s node key hs hnode hkey
    obtain ⟨stack, h, ⟨log, henter⟩, -⟩ := Nesting.enter_restacks call hs hr.stacked hnode hkey
    exact ⟨stack, _, henter⟩
  · intro s node key hs hnode hkey
    rcases hr.leave_cases call hs hnode hkey with ⟨hidle, hleave⟩ | ⟨hheld, h, ⟨log, hleave⟩, -⟩
    · refine ⟨fun _ ↦ hleave, fun ⟨event, hmem, hentry⟩ ↦ ?_⟩
      have hnone := hr.inside.mp hidle.inside event hmem
      rw [hentry] at hnone
      cases hnone
    · exact ⟨fun hnone ↦ absurd (hr.inside.mpr hnone) hheld, fun _ ↦ ⟨_, hleave⟩⟩
  · intro key
    have hbalance := hr.balance key
    have hiff : replay history key ≠ [] ↔ popCount history key < entryCount history key := by
      rw [← List.length_pos_iff]
      omega
    rw [Nesting.isInsideType_apply call hr.stacked, hr.stackOf]
    simp only [hiff]

/-- A world with a node at 0, whose type is that of an open sentinel, and a nesting state at 1. -/
def oneToEnter : World Unit where
  heap := ⟨#[some (.entity ⟨.plain, [("type", .str "b.open"), ("nodes", .null),
    ("parent", .null)], .absent⟩), some (.entity ⟨.nesting, [("inside", .null)], .absent⟩)]⟩
  client := ()

/-- It is tried in vain to leave the node, which is then entered; it counts for two type names. -/
theorem replay_of_leave_enter :
    let call : Caller Unit := fun _ _ _ ↦ throw .unsupported
    let w₁ := (Nesting.leave call (.ref 1) (.ref 0)).after oneToEnter
    let w₂ := (Nesting.enter call (.ref 1) (.ref 0)).after w₁
    let history := [.left "b.open" (.error (.neverEntered "b.open")), .entered "b" (.ref 0)]
    oneToEnter.heap.Idle 1 ∧ NestingRun call 1 oneToEnter history w₂ ∧
      w₂.heap.stackOf (.ref 1) "b" = [.ref 0] ∧ w₂.heap.stackOf (.ref 1) "b.open" = [] ∧
      Nesting.isInsideType call (.ref 1) (.str "b") w₂ = .ok true w₂ := by
  intro call w₁ w₂ history
  have hidle : oneToEnter.heap.Idle 1 := ⟨_, rfl, rfl, rfl⟩
  have hrun : NestingRun call 1 oneToEnter history w₂ := by
    have h₀ : NestingRun call 1 oneToEnter [] oneToEnter := .start
    have hkey₀ : oneToEnter.heap.keyIn (.ref 0) ({} : Settings).closeSuffix = some "b.open" := by
      decide +kernel
    have hkey₁ : w₁.heap.keyIn (.ref 0) ({} : Settings).openSuffix = some "b" := by
      decide +kernel
    exact (h₀.leave rfl rfl hkey₀).enter rfl rfl hkey₁
  obtain ⟨-, hstack, -, -, hinside⟩ := stackOf_eq_replay_of_run hidle hrun
  exact ⟨hidle, hrun, hstack "b", hstack "b.open", hinside "b"⟩

end Runs

end TagTree
