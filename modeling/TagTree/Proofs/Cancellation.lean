import TagTree.Proofs.Preorder

/-!
# Entering and leaving at once

A node without a parent is entered for its type without the open suffix, and left for its type
without the close suffix. So entering one node and leaving another one right after it is as if
nothing had happened exactly if these two names are the same. This is so for the two sentinels of
any block, and for a single node if its type ends in neither suffix. Otherwise the stack that the
first node was put on keeps it.
-/

namespace TagTree

open Op

/-! ## Type names without a suffix -/

/-- What is left of a type name if a suffix that may be behind it is taken away. -/
def Strips (suffix type key : String) : Prop :=
  type = key ++ suffix ∨ ¬ suffix.toList <:+ type.toList ∧ key = type

section Names

variable {suffix other type key : String}

theorem withoutSuffix_append (hsuffix : suffix ≠ "") (key : String) :
    withoutSuffix (key ++ suffix) suffix = key := by
  have hends : suffix.toList.isSuffixOf (key ++ suffix).toList = true := by simp
  rw [withoutSuffix, if_neg hsuffix, if_pos hends, String.toList_append, List.length_append,
    ← String.length_toList, Nat.add_sub_cancel, List.take_left, String.ofList_toList]

theorem withoutSuffix_of_not_suffix (hout : ¬ suffix.toList <:+ type.toList) :
    withoutSuffix type suffix = type := by
  have hsuffix : suffix ≠ "" := by
    rintro rfl
    exact hout List.nil_suffix
  rw [withoutSuffix, if_neg hsuffix, if_neg]
  rwa [List.isSuffixOf_iff_suffix]

theorem withoutSuffix_eq_iff (hsuffix : suffix ≠ "") :
    withoutSuffix type suffix = key ↔ Strips suffix type key := by
  by_cases hends : suffix.toList <:+ type.toList
  · obtain ⟨front, hfront⟩ := hends
    obtain rfl : String.ofList front ++ suffix = type := by
      simp [← String.toList_inj, hfront]
    rw [withoutSuffix_append hsuffix]
    simp [Strips, ← String.toList_inj]
  · rw [withoutSuffix_of_not_suffix hends, Strips]
    constructor
    · rintro rfl
      exact .inr ⟨hends, rfl⟩
    · rintro (rfl | ⟨-, rfl⟩)
      · simp at hends
      · rfl

/-- Two different suffixes leave the same of a type name only if neither is behind it. -/
theorem strips_both_iff (hsuffix : suffix ≠ "") (hother : other ≠ "") (hne : suffix ≠ other) :
    (∃ key, Strips suffix type key ∧ Strips other type key) ↔
      ¬ suffix.toList <:+ type.toList ∧ ¬ other.toList <:+ type.toList := by
  constructor
  · rintro ⟨key, htype | ⟨hout, hkey⟩, htype' | ⟨hout', hkey'⟩⟩
    · exact absurd ((String.append_right_inj key).mp (htype.symm.trans htype')) hne
    · rw [hkey'] at htype
      exact absurd (String.append_eq_left_iff.mp htype.symm) hsuffix
    · rw [hkey] at htype'
      exact absurd (String.append_eq_left_iff.mp htype'.symm) hother
    · exact ⟨hout, hout'⟩
  · rintro ⟨hout, hout'⟩
    exact ⟨type, .inr ⟨hout, rfl⟩, .inr ⟨hout', rfl⟩⟩

end Names

/-! ## Nodes when objects get more -/

namespace Heap

variable {h h' : Heap} {v : Value} {name : String}

/-- What counts as true does so still. -/
theorem Accrues.truthy (hacc : h.Accrues h') (hv : h.Placed v) (htrue : h.truthy v = true) :
    h'.truthy v = true := by
  cases v with
  | ref a =>
    cases ho : h.get? a with
    | none => simp [Heap.truthy, hacc.empty a (hv a rfl) ho]
    | some o =>
      obtain ⟨o', ho', hmore⟩ := hacc.found a o ho
      cases hmore with
      | same => simpa [Heap.truthy, ho, ho'] using htrue
      | list items more =>
        have hitems : items ≠ [] := by simpa [Heap.truthy, ho] using htrue
        simp [Heap.truthy, ho', hitems]
      | dict entries more =>
        have hentries : entries ≠ [] := by simpa [Heap.truthy, ho] using htrue
        simp [Heap.truthy, ho', hentries]
      | entity => simp [Heap.truthy, ho']
  | _ => exact htrue

/-- A link leads to the same as before. -/
theorem Accrues.target_eq (hacc : h.Accrues h') {link : Link}
    (hlink : ∀ q, link = .weak q → q < h.fresh) : link.target h' = link.target h := by
  cases link with
  | weak q =>
    cases ho : h.get? q with
    | none => simp [Link.target, ho, hacc.empty q (hlink q rfl) ho]
    | some o =>
      obtain ⟨o', ho', -⟩ := hacc.found q o ho
      simp [Link.target, ho, ho']
  | _ => rfl

/-- Only the stacks of a state are read differently. -/
theorem Accrues.attr?_eq (hacc : h.Accrues h') (hg : h.Grounded) (hv : h.Placed v)
    (hname : name ≠ "inside") : h'.attr? v name = h.attr? v name := by
  cases v with
  | ref a =>
    cases ho : h.get? a with
    | none => simp [attr?, ho, hacc.empty a (hv a rfl) ho]
    | some o =>
      obtain ⟨o', ho', hmore⟩ := hacc.found a o ho
      cases hmore with
      | same =>
        cases o with
        | entity e =>
          rw [attr?_entity ho, attr?_entity ho', entityAttr?, entityAttr?,
            hacc.target_eq (hg.links a e · ho)]
        | _ => simp [attr?, ho, ho']
      | list | dict => simp [attr?, ho, ho']
      | @entity e e' hkind hparent hattrs =>
        have htarget : e'.parent.target h' = e.parent.target h := by
          rw [hparent]
          exact hacc.target_eq (hg.links a e · ho)
        rw [attr?_entity ho, attr?_entity ho', entityAttr?, entityAttr?, hkind, htarget,
          hattrs name hname, hattrs "nodes" (by decide)]
  | maker m => cases m <;> rfl
  | _ => rfl

theorem Accrues.isNode (hacc : h.Accrues h') (hg : h.Grounded) (hv : h.isNode v = true) :
    h'.isNode v = true := by
  obtain ⟨a, e, rfl, ha⟩ := exists_entity_of_isNode hv
  have hplaced : h.Placed (.ref a) := by
    rintro b ⟨⟩
    exact lt_fresh_of_get? ha
  have hmark : h.Placed (h.attrOrNull (.ref a) "is_node") := hg.placed_attrOrNull a (by decide)
  unfold Heap.isNode at hv ⊢
  dsimp only at hv ⊢
  rw [hacc.attr?_eq hg hplaced (by decide)]
  cases hx : h.attr? (.ref a) "is_node" with
  | none => simp [hx] at hv
  | some x =>
    rw [attrOrNull, hx] at hmark
    rw [hx] at hv
    exact hacc.truthy hmark hv

/-- A node without a parent, with a text as its type. -/
structure Orphan (h : Heap) (v : Value) (type : String) : Prop where
  node : h.isNode v = true
  parent : h.attrOrNull v "parent" = .null
  type : h.attrOrNull v "type" = .str type

variable {type : String}

theorem Orphan.keyIn (hv : h.Orphan v type) (suffix : String) :
    h.keyIn v suffix = some (withoutSuffix type suffix) := by
  simp [Heap.keyIn, hv.parent, hv.type]

theorem Orphan.accrue (hv : h.Orphan v type) (hacc : h.Accrues h') (hg : h.Grounded) :
    h'.Orphan v type := by
  have hplaced : h.Placed v := by
    obtain ⟨a, e, rfl, ha⟩ := exists_entity_of_isNode hv.node
    rintro b ⟨⟩
    exact lt_fresh_of_get? ha
  have hattr : ∀ name, name ≠ "inside" → h'.attrOrNull v name = h.attrOrNull v name := by
    intro name hname
    rw [attrOrNull, hacc.attr?_eq hg hplaced hname, attrOrNull]
  exact {
    node := hacc.isNode hg hv.node
    parent := (hattr "parent" (by decide)).trans hv.parent
    type := (hattr "type" (by decide)).trans hv.type }

/-! ## Two steps of a state -/

variable {st a : Addr} {e : Entity}

/-- The only entity among the objects of a state is the state. -/
theorem Stacked.kind_of_inState (hst : h.Stacked st) (ha : h.InState st a)
    (he : h.get? a = some (.entity e)) : e.kind = .nesting := by
  have hkind : ∀ e', h.get? st = some (.entity e') → e'.kind = .nesting → a = st →
      e.kind = .nesting := by
    rintro e' he' hk rfl
    obtain rfl : e' = e := by simpa [he'] using he
    exact hk
  rcases hst with hidle | ⟨d, entries, hh⟩
  · rw [hidle.inState_iff] at ha
    obtain ⟨e', he', hk, -⟩ := hidle
    exact hkind e' he' hk ha
  · rcases hh.inState_iff.mp ha with rfl | rfl | hmem
    · obtain ⟨e', he', hk, -⟩ := hh.state
      exact hkind e' he' hk rfl
    · simp [hh.dict] at he
    · obtain ⟨entry, hentry, hlist⟩ := List.mem_map.mp hmem
      obtain ⟨l, items, hl, hget⟩ := hh.list entry hentry
      obtain rfl : l = a := Value.ref.inj (hl.symm.trans hlist)
      simp [hget] at he

theorem Within.keepsSettings (hwithin : h.Within h' st) (hst : h.Stacked st) :
    h.KeepsSettings h' := by
  intro a e ha hk
  rw [hwithin.same a (lt_fresh_of_get? ha), ha]
  intro hin
  have hnesting := hst.kind_of_inState hin ha
  rw [hk] at hnesting
  cases hnesting

end Heap

/-- All stacks of a state are the same as before. Whether an empty stack is there does not
matter. -/
def Nesting.Restored (h h' : Heap) (st : Addr) : Prop :=
  ∀ key, h'.stackOf (.ref st) key = h.stackOf (.ref st) key

section Steps

variable {σ : Type} {w : World σ} {s : Settings} {st : Addr} {n m : Value} {tn tm : String}

/-- Entering one node and leaving another one succeeds. The first is put on a stack, and the latest
is taken from the same stack or from another one. -/
theorem Nesting.enter_leave_gives (call : Caller σ) (hs : w.Uses s) (hst : w.heap.Stacked st)
    (hg : w.heap.Grounded) (hn : w.heap.Orphan n tn) (hm : w.heap.Orphan m tm) :
    ∃ stack w₁ popped w₂, Nesting.enter call (.ref st) n w = .ok stack w₁ ∧
      Nesting.leave call (.ref st) m w₁ = .ok popped w₂ ∧
      w.heap.Restacks w₁.heap st (withoutSuffix tn s.openSuffix)
        (w.heap.stackOf (.ref st) (withoutSuffix tn s.openSuffix) ++ [n]) ∧
      w₁.heap.Restacks w₂.heap st (withoutSuffix tm s.closeSuffix)
        (w₁.heap.stackOf (.ref st) (withoutSuffix tm s.closeSuffix)).dropLast := by
  obtain ⟨stack, h₁, ⟨log, henter⟩, hpush, hacc⟩ :=
    Nesting.enter_accrues call hs hst hn.node (hn.keyIn s.openSuffix)
  have hs₁ := hs.of_keepsSettings (hpush.within.keepsSettings hst) log
  have hm₁ : h₁.Orphan m tm := hm.accrue hacc hg
  obtain ⟨d, entries, hh₁⟩ : ∃ d entries, h₁.Holds st d entries := by
    apply hpush.stacked.resolve_left
    intro hidle
    exact hpush.held hidle.inside
  obtain ⟨h₂, ⟨log', hleave⟩, hpop⟩ :=
    Nesting.leave_restacks call hs₁ hh₁ hm₁.node (hm₁.keyIn s.closeSuffix)
  exact ⟨stack, _, _, _, henter, hleave, hpush, hpop⟩

/-- What is put on a stack is taken away again only from the same stack. -/
theorem Nesting.restored_iff {h h₁ h₂ : Heap} {key key' : String}
    (hpush : h.Restacks h₁ st key (h.stackOf (.ref st) key ++ [n]))
    (hpop : h₁.Restacks h₂ st key' (h₁.stackOf (.ref st) key').dropLast) :
    Nesting.Restored h h₂ st ↔ key = key' := by
  constructor
  · intro hrestored
    by_contra hne
    have hkept : h₂.stackOf (.ref st) key = h.stackOf (.ref st) key ++ [n] := by
      rw [hpop.stackOf, if_neg hne, hpush.stackOf, if_pos rfl]
    have hlength := congrArg List.length (hkept.symm.trans (hrestored key))
    simp at hlength
  · rintro rfl k
    rw [hpop.stackOf, hpush.stackOf, if_pos rfl, List.dropLast_concat, hpush.stackOf]
    by_cases hk : k = key
    · rw [if_pos hk, hk]
    · rw [if_neg hk, if_neg hk]

end Steps

/-- Whatever was entered and left before, under accepted settings: entering a node without a parent
and leaving such a node right after it succeeds, and restores every stack if and only if the type of
the first without the open suffix is the type of the second without the close suffix. This is so for
any text with the one suffix and with the other one behind it. For one and the same node it is so if
and only if its type ends in neither suffix. -/
theorem enter_leave_cancels_iff {σ : Type} {call : Caller σ} {st : Addr} {w₀ w : World σ}
    {history : List NestingEvent} {given : Settings.Given} {s : Settings} {n m : Value}
    {tn tm : String} (hcheck : Settings.check given = .ok s) (hs : w.Uses s)
    (hidle : w₀.heap.Idle st) (hrun : NestingRun call st w₀ history w) (hground : w.heap.Grounded)
    (hn : w.heap.Orphan n tn) (hm : w.heap.Orphan m tm) :
    ∃ stack w₁ popped w₂, Nesting.enter call (.ref st) n w = .ok stack w₁ ∧
      Nesting.leave call (.ref st) m w₁ = .ok popped w₂ ∧
      (Nesting.Restored w.heap w₂.heap st ↔
        ∃ key, Strips s.openSuffix tn key ∧ Strips s.closeSuffix tm key) ∧
      (∀ b, tn = b ++ s.openSuffix → tm = b ++ s.closeSuffix →
        Nesting.Restored w.heap w₂.heap st) ∧
      (m = n → (Nesting.Restored w.heap w₂.heap st ↔
        ¬ s.openSuffix.toList <:+ tn.toList ∧ ¬ s.closeSuffix.toList <:+ tn.toList)) := by
  have haccepted := Settings.accepted_of_check hcheck
  have hopen := Settings.ne_empty_of_isSuffix haccepted.openSuffix
  have hclose := Settings.ne_empty_of_isSuffix haccepted.closeSuffix
  obtain ⟨stack, w₁, popped, w₂, henter, hleave, hpush, hpop⟩ :=
    Nesting.enter_leave_gives call hs (hrun.recalls hidle).stacked hground hn hm
  have hiff : Nesting.Restored w.heap w₂.heap st ↔
      ∃ key, Strips s.openSuffix tn key ∧ Strips s.closeSuffix tm key := by
    calc Nesting.Restored w.heap w₂.heap st
        ↔ withoutSuffix tn s.openSuffix = withoutSuffix tm s.closeSuffix :=
          Nesting.restored_iff hpush hpop
      _ ↔ ∃ key, withoutSuffix tn s.openSuffix = key ∧ withoutSuffix tm s.closeSuffix = key := by
          simp [eq_comm]
      _ ↔ _ := by simp only [withoutSuffix_eq_iff hopen, withoutSuffix_eq_iff hclose]
  refine ⟨stack, w₁, popped, w₂, henter, hleave, hiff, ?_, ?_⟩
  · intro b htn htm
    exact hiff.mpr ⟨b, .inl htn, .inl htm⟩
  · rintro rfl
    obtain rfl : tn = tm := Value.str.inj (hn.type.symm.trans hm.type)
    exact hiff.trans (strips_both_iff hopen hclose haccepted.differ)

/-- A world where the close suffix ends in the open one, with the sentinels of a block of type `t.x`
at 1 and 2 and a nesting state at 3. -/
def strayPair : World Unit where
  heap := ⟨#[some (.entity ⟨.settings, overlapping.toAttrs, .absent⟩),
    some (.entity (NodeMaker.plain.entity {} "t.x.x" .null)),
    some (.entity (NodeMaker.plain.entity {} "t.x.a.x" .null)),
    some (.entity ⟨.nesting, [("inside", .null)], .absent⟩)]⟩
  active := some 0
  client := ()

/-- After the second sentinel was entered: to enter the first and leave the second cancels, but to
enter and leave the second does not. -/
theorem enter_leave_strayPair :
    let call : Caller Unit := fun _ _ _ ↦ throw .unsupported
    let w := (Nesting.enter call (.ref 3) (.ref 2)).after strayPair
    Settings.check overlapping.toGiven = .ok overlapping ∧ w.Uses overlapping ∧
      NestingRun call 3 strayPair [.entered "t.x.a" (.ref 2)] w ∧ w.heap.Grounded ∧
      w.heap.Orphan (.ref 1) "t.x.x" ∧ w.heap.Orphan (.ref 2) "t.x.a.x" ∧
      (∃ stack w₁ popped w₂, Nesting.enter call (.ref 3) (.ref 1) w = .ok stack w₁ ∧
        Nesting.leave call (.ref 3) (.ref 2) w₁ = .ok popped w₂ ∧
        Nesting.Restored w.heap w₂.heap 3) ∧
      ∃ stack w₁ popped w₂, Nesting.enter call (.ref 3) (.ref 2) w = .ok stack w₁ ∧
        Nesting.leave call (.ref 3) (.ref 2) w₁ = .ok popped w₂ ∧
        ¬ Nesting.Restored w.heap w₂.heap 3 := by
  intro call w
  have hcheck := accepted_overlapping.check_toGiven
  have hs : w.Uses overlapping := rfl
  have hidle : strayPair.heap.Idle 3 := ⟨_, rfl, rfl, rfl⟩
  have hrun : NestingRun call 3 strayPair [.entered "t.x.a" (.ref 2)] w := by
    have hstart : NestingRun call 3 strayPair [] strayPair := .start
    have hkey : strayPair.heap.keyIn (.ref 2) overlapping.openSuffix = some "t.x.a" := by
      decide +kernel
    exact hstart.enter rfl rfl hkey
  have hground : w.heap.Grounded := by
    have hcases {a : Nat} (ha : a < w.heap.fresh) :
        a = 0 ∨ a = 1 ∨ a = 2 ∨ a = 3 ∨ a = 4 ∨ a = 5 := by
      have hlt : a < 6 := ha
      omega
    apply Heap.grounded_of_lt_fresh
    · decide +kernel
    · intro a ha e q hget hq
      rcases hcases ha with rfl | rfl | rfl | rfl | rfl | rfl <;> cases hget <;> cases hq
  have hopen : w.heap.Orphan (.ref 1) "t.x.x" := ⟨rfl, rfl, rfl⟩
  have hclose : w.heap.Orphan (.ref 2) "t.x.a.x" := ⟨rfl, rfl, rfl⟩
  obtain ⟨stack, w₁, popped, w₂, henter, hleave, -, hpair, -⟩ :=
    enter_leave_cancels_iff hcheck hs hidle hrun hground hopen hclose
  obtain ⟨stack', w₁', popped', w₂', henter', hleave', -, -, hsame⟩ :=
    enter_leave_cancels_iff hcheck hs hidle hrun hground hclose hclose
  refine ⟨hcheck, hs, hrun, hground, hopen, hclose,
    ⟨stack, w₁, popped, w₂, henter, hleave, hpair "t.x" rfl rfl⟩,
    stack', w₁', popped', w₂', henter', hleave', fun hrestored ↦ ?_⟩
  exact ((hsame rfl).mp hrestored).1 ⟨"t.x.a".toList, by decide⟩

end TagTree
