import Mathlib.Data.List.Nodup
import TagTree.Nesting
import TagTree.Proofs.Children

/-!
# Stacks of entered nodes

A nesting state keeps its stacks in a mapping, which it gets when a node is entered for the first
time. This module says which objects belong to a state, and what entering and leaving do: one stack
gets longer or shorter by one node, all others stay as they are, and so does every object that does
not belong to the state.
-/

namespace TagTree

open Op

/-! ## The objects of a state -/

namespace Heap

/-- The stack of entered nodes for a type name, the latest last; empty if there is no such stack. -/
def stackOf (h : Heap) (state : Value) (key : String) : List Value :=
  match h.dict? (h.attrOrNull state "inside") with
  | some entries => ((entries.lookup (.str key)).bind h.list?).getD []
  | none => []

/-- A nesting state for which nothing was ever entered. -/
def Idle (h : Heap) (st : Addr) : Prop :=
  ∃ e, h.get? st = some (.entity e) ∧ e.kind = .nesting ∧
    (Table.get? e.attrs "inside").getD .null = .null

/-- A nesting state with a mapping from type names to lists, none of which is there twice. -/
structure Holds (h : Heap) (st d : Addr) (entries : List (Value × Value)) : Prop where
  state : ∃ e, h.get? st = some (.entity e) ∧ e.kind = .nesting ∧
    Table.get? e.attrs "inside" = some (.ref d)
  dict : h.get? d = some (.dict entries)
  list : ∀ entry ∈ entries, ∃ l items, entry.2 = .ref l ∧ h.get? l = some (.list items)
  unshared : (entries.map Prod.snd).Nodup

/-- A nesting state in order. -/
def Stacked (h : Heap) (st : Addr) : Prop :=
  h.Idle st ∨ ∃ d entries, h.Holds st d entries

/-- What a state keeps in its mapping can be looked up: each entry is the one that is found for its
key, and the key is a type name. -/
def Indexed (h : Heap) (st : Addr) : Prop :=
  ∀ d entries, h.attrOrNull (.ref st) "inside" = .ref d → h.get? d = some (.dict entries) →
    ∀ entry ∈ entries, ∃ name, entry.1 = .str name ∧ entries.lookup (.str name) = some entry.2

/-- The objects that belong to a nesting state: itself, its mapping and its stacks. -/
def InState (h : Heap) (st a : Addr) : Prop :=
  a = st ∨ h.attrOrNull (.ref st) "inside" = .ref a ∨
    ∃ d entries, h.attrOrNull (.ref st) "inside" = .ref d ∧ h.get? d = some (.dict entries) ∧
      .ref a ∈ entries.map Prod.snd

/-- Only objects of a nesting state are changed, and only new objects come to belong to it. -/
structure Within (h h' : Heap) (st : Addr) : Prop where
  same : ∀ a, a < h.fresh → ¬ h.InState st a → h'.get? a = h.get? a
  inner : ∀ a, h'.InState st a → h.InState st a ∨ h.fresh ≤ a
  grows : h.fresh ≤ h'.fresh

variable {h h' h'' : Heap} {st d l a : Addr} {entries : List (Value × Value)} {key : String}
  {old : List Value}

theorem attrOrNull_inside {e : Entity} (hst : h.get? st = some (.entity e))
    (hk : e.kind = .nesting) :
    h.attrOrNull (.ref st) "inside" = (Table.get? e.attrs "inside").getD .null := by
  rw [attrOrNull, attr?_entity hst]
  simp only [entityAttr?, hk, if_true]
  cases Table.get? e.attrs "inside" <;> rfl

theorem Idle.inside (hi : h.Idle st) : h.attrOrNull (.ref st) "inside" = .null := by
  obtain ⟨e, hst, hk, hnull⟩ := hi
  rw [attrOrNull_inside hst hk, hnull]

theorem Holds.inside (hh : h.Holds st d entries) : h.attrOrNull (.ref st) "inside" = .ref d := by
  obtain ⟨e, hst, hk, hd⟩ := hh.state
  rw [attrOrNull_inside hst hk, hd]
  rfl

theorem Idle.inState_iff (hi : h.Idle st) : h.InState st a ↔ a = st := by
  simp [InState, hi.inside]

theorem Holds.inState_iff (hh : h.Holds st d entries) :
    h.InState st a ↔ a = st ∨ a = d ∨ .ref a ∈ entries.map Prod.snd := by
  unfold InState
  rw [hh.inside]
  constructor
  · rintro (rfl | hd | ⟨d', entries', hd', hdict, hmem⟩)
    · exact .inl rfl
    · exact .inr (.inl (Value.ref.inj hd).symm)
    · obtain rfl : d = d' := Value.ref.inj hd'
      obtain rfl : entries = entries' := by simpa [hh.dict] using hdict
      exact .inr (.inr hmem)
  · rintro (rfl | rfl | hmem)
    · exact .inl rfl
    · exact .inr (.inl rfl)
    · exact .inr (.inr ⟨d, entries, rfl, hh.dict, hmem⟩)

theorem Idle.indexed (hi : h.Idle st) : h.Indexed st := by
  intro d entries hd
  rw [hi.inside] at hd
  cases hd

theorem Holds.indexed_iff (hh : h.Holds st d entries) :
    h.Indexed st ↔ ∀ entry ∈ entries,
      ∃ name, entry.1 = .str name ∧ entries.lookup (.str name) = some entry.2 := by
  refine ⟨fun hi ↦ hi d entries hh.inside hh.dict, fun hall d' entries' hd hdict ↦ ?_⟩
  obtain rfl : d = d' := Value.ref.inj (hh.inside.symm.trans hd)
  obtain rfl : entries = entries' := by simpa [hh.dict] using hdict
  exact hall

theorem Idle.stackOf (hi : h.Idle st) (key : String) : h.stackOf (.ref st) key = [] := by
  rw [Heap.stackOf, hi.inside]
  rfl

theorem Holds.stackOf (hh : h.Holds st d entries) (key : String) :
    h.stackOf (.ref st) key = ((entries.lookup (.str key)).bind h.list?).getD [] := by
  simp [Heap.stackOf, hh.inside, dict?, object?, hh.dict]

/-- The stack for a type name is in a list, or there is none. -/
theorem Holds.lookup_cases (hh : h.Holds st d entries) (key : String) :
    (entries.lookup (.str key) = none ∧ h.stackOf (.ref st) key = []) ∨
      ∃ l, entries.lookup (.str key) = some (.ref l) ∧ .ref l ∈ entries.map Prod.snd ∧
        h.get? l = some (.list (h.stackOf (.ref st) key)) := by
  rw [hh.stackOf]
  cases hv : entries.lookup (.str key) with
  | none => exact .inl ⟨rfl, rfl⟩
  | some v =>
    have hmem := mem_of_lookup hv
    obtain ⟨l, items, rfl, hl⟩ := hh.list _ hmem
    refine .inr ⟨l, rfl, List.mem_map_of_mem hmem, ?_⟩
    simp [list?_of_get? hl, hl]

theorem Within.refl (h : Heap) (st : Addr) : h.Within h st :=
  ⟨fun _ _ _ ↦ rfl, fun _ ↦ .inl, Nat.le_refl _⟩

theorem Within.trans (h₁ : h.Within h' st) (h₂ : h'.Within h'' st) : h.Within h'' st where
  same := fun a hlt hout ↦ by
    have hout' : ¬ h'.InState st a := by
      intro hin
      rcases h₁.inner a hin with hold | hnew
      · exact hout hold
      · exact absurd hlt (Nat.not_lt.mpr hnew)
    rw [h₂.same a (Nat.lt_of_lt_of_le hlt h₁.grows) hout', h₁.same a hlt hout]
  inner := fun a hin ↦ by
    rcases h₂.inner a hin with hold | hnew
    · exact h₁.inner a hold
    · exact .inr (Nat.le_trans h₁.grows hnew)
  grows := Nat.le_trans h₁.grows h₂.grows

/-! ## Objects that get more -/

/-- What becomes of an object when a state gets more to keep: a list or mapping is longer, and an
entity has other stacks. -/
inductive Outgrows : Object → Object → Prop
  | same (o : Object) : Outgrows o o
  | list (items more : List Value) : Outgrows (.list items) (.list (items ++ more))
  | dict (entries more : List (Value × Value)) : Outgrows (.dict entries) (.dict (entries ++ more))
  | entity {e e' : Entity} : e'.kind = e.kind → e'.parent = e.parent →
    (∀ name, name ≠ "inside" → Table.get? e'.attrs name = Table.get? e.attrs name) →
    Outgrows (.entity e) (.entity e')

/-- Nothing is lost, and objects only get more. -/
structure Accrues (h h' : Heap) : Prop where
  grows : h.fresh ≤ h'.fresh
  found : ∀ a o, h.get? a = some o → ∃ o', h'.get? a = some o' ∧ Outgrows o o'
  empty : ∀ a, a < h.fresh → h.get? a = none → h'.get? a = none

theorem Outgrows.trans {o o' o'' : Object} (h₁ : Outgrows o o') (h₂ : Outgrows o' o'') :
    Outgrows o o'' := by
  cases h₁ with
  | same => exact h₂
  | list items more =>
    cases h₂ with
    | same => exact .list items more
    | list _ more' =>
      rw [List.append_assoc]
      exact .list items (more ++ more')
  | dict entries more =>
    cases h₂ with
    | same => exact .dict entries more
    | dict _ more' =>
      rw [List.append_assoc]
      exact .dict entries (more ++ more')
  | entity hkind hparent hattrs =>
    cases h₂ with
    | same => exact .entity hkind hparent hattrs
    | entity hkind' hparent' hattrs' =>
      exact .entity (hkind'.trans hkind) (hparent'.trans hparent)
        fun name hname ↦ (hattrs' name hname).trans (hattrs name hname)

theorem Accrues.refl (h : Heap) : h.Accrues h :=
  ⟨Nat.le_refl _, fun _ o ho ↦ ⟨o, ho, .same o⟩, fun _ _ ha ↦ ha⟩

theorem Accrues.trans (h₁ : h.Accrues h') (h₂ : h'.Accrues h'') : h.Accrues h'' where
  grows := Nat.le_trans h₁.grows h₂.grows
  found := fun a o ho ↦ by
    obtain ⟨o', ho', hmore⟩ := h₁.found a o ho
    obtain ⟨o'', ho'', hmore'⟩ := h₂.found a o' ho'
    exact ⟨o'', ho'', hmore.trans hmore'⟩
  empty := fun a hlt ha ↦ h₂.empty a (Nat.lt_of_lt_of_le hlt h₁.grows) (h₁.empty a hlt ha)

theorem accrues_add (h : Heap) (o : Object) : h.Accrues (h.add o) where
  grows := by simp
  found := fun a o' ho' ↦ ⟨o', (get?_add_of_lt o (lt_fresh_of_get? ho')).trans ho', .same o'⟩
  empty := fun _ hlt ha ↦ (get?_add_of_lt o hlt).trans ha

theorem accrues_put {o o' : Object} (ha : h.get? a = some o) (hmore : Outgrows o o') :
    h.Accrues (h.put a o') where
  grows := by simp
  found := fun b x hx ↦ by
    by_cases hb : b = a
    · subst hb
      obtain rfl : o = x := Option.some.inj (ha.symm.trans hx)
      exact ⟨o', get?_put_self (lt_fresh_of_get? ha), hmore⟩
    · exact ⟨x, (get?_put_of_ne o' hb).trans hx, .same x⟩
  empty := fun b _ hb ↦ by
    have hne : b ≠ a := by
      rintro rfl
      simp [ha] at hb
    rw [get?_put_of_ne o' hne, hb]

/-! ## Getting a mapping, a stack, and other nodes on a stack -/

/-- The heap after a state got an empty mapping. -/
def withStacks (h : Heap) (st : Addr) (e : Entity) : Heap :=
  (h.add (.dict [])).put st (.entity { e with attrs := Table.put "inside" (.ref h.fresh) e.attrs })

/-- The heap after a mapping got an empty stack. -/
def withStack (h : Heap) (d : Addr) (entries : List (Value × Value)) (key : String) : Heap :=
  (h.add (.list [])).put d (.dict (entries ++ [(.str key, .ref h.fresh)]))

theorem get?_withStacks_of_lt {e : Entity} (ha : a < h.fresh) (hne : a ≠ st) :
    (h.withStacks st e).get? a = h.get? a := by
  rw [withStacks, get?_put_of_ne _ hne, get?_add_of_lt _ ha]

theorem holds_withStacks {e : Entity} (hst : h.get? st = some (.entity e))
    (hk : e.kind = .nesting) : (h.withStacks st e).Holds st h.fresh [] := by
  have hlt := lt_fresh_of_get? hst
  refine ⟨⟨{ e with attrs := Table.put "inside" (.ref h.fresh) e.attrs }, ?_, hk,
    Table.get?_put_self _ _ _⟩, ?_, by simp, List.nodup_nil⟩
  · rw [withStacks, get?_put_self]
    rw [fresh_add]
    exact Nat.lt_succ_of_lt hlt
  · rw [withStacks, get?_put_of_ne _ (Nat.ne_of_gt hlt), get?_add_fresh]

theorem within_withStacks {e : Entity} (hst : h.get? st = some (.entity e))
    (hk : e.kind = .nesting) : h.Within (h.withStacks st e) st where
  same := fun a hlt hout ↦ get?_withStacks_of_lt hlt fun heq ↦ hout (.inl heq)
  inner := fun a hin ↦ by
    rw [(holds_withStacks hst hk).inState_iff] at hin
    rcases hin with rfl | rfl | hmem
    · exact .inl (.inl rfl)
    · exact .inr (Nat.le_refl _)
    · simp at hmem
  grows := by simp [withStacks]

theorem accrues_withStacks {e : Entity} (hst : h.get? st = some (.entity e)) :
    h.Accrues (h.withStacks st e) := by
  have hst' : (h.add (.dict [])).get? st = some (.entity e) :=
    (get?_add_of_lt _ (lt_fresh_of_get? hst)).trans hst
  apply (accrues_add h (.dict [])).trans
  apply accrues_put hst'
  exact .entity rfl rfl fun name hname ↦ Table.get?_put_of_ne hname _ _

theorem get?_withStack_of_lt (hlt : a < h.fresh) (hne : a ≠ d) (entries : List (Value × Value))
    (key : String) : (h.withStack d entries key).get? a = h.get? a := by
  rw [withStack, get?_put_of_ne _ hne, get?_add_of_lt _ hlt]

section Holding

variable (hh : h.Holds st d entries)
include hh

theorem Holds.ne_of_list {items : List Value} (hl : h.get? l = some (.list items)) :
    l ≠ st ∧ l ≠ d := by
  obtain ⟨e, hst, -, -⟩ := hh.state
  constructor
  · rintro rfl
    simp [hst] at hl
  · rintro rfl
    simp [hh.dict] at hl

theorem Holds.state_ne_dict : st ≠ d := by
  obtain ⟨e, hst, -, -⟩ := hh.state
  rintro rfl
  simp [hh.dict] at hst

theorem Holds.get?_withStack_fresh (key : String) :
    (h.withStack d entries key).get? h.fresh = some (.list []) := by
  have hd := lt_fresh_of_get? hh.dict
  rw [withStack, get?_put_of_ne _ (Nat.ne_of_gt hd), get?_add_fresh]

theorem Holds.withStack (key : String) :
    (h.withStack d entries key).Holds st d (entries ++ [(.str key, .ref h.fresh)]) := by
  obtain ⟨e, hst, hk, hinside⟩ := hh.state
  have hold : ∀ a o, h.get? a = some o → a ≠ d → (h.withStack d entries key).get? a = some o :=
    fun a o ha hne ↦ (get?_withStack_of_lt (lt_fresh_of_get? ha) hne entries key).trans ha
  refine ⟨⟨e, hold st _ hst hh.state_ne_dict, hk, hinside⟩, ?_, ?_, ?_⟩
  · rw [Heap.withStack, get?_put_self]
    rw [fresh_add]
    exact Nat.lt_succ_of_lt (lt_fresh_of_get? hh.dict)
  · intro entry hentry
    rcases List.mem_append.mp hentry with hmem | hnew
    · obtain ⟨l, items, hl, hget⟩ := hh.list entry hmem
      exact ⟨l, items, hl, hold l _ hget (hh.ne_of_list hget).2⟩
    · obtain rfl := List.mem_singleton.mp hnew
      exact ⟨h.fresh, [], rfl, hh.get?_withStack_fresh key⟩
  · -- The new list is not among the old ones, which were all found.
    have hnew : Value.ref h.fresh ∉ entries.map Prod.snd := by
      intro hmem
      obtain ⟨entry, hentry, heq⟩ := List.mem_map.mp hmem
      obtain ⟨l, items, hl, hget⟩ := hh.list entry hentry
      rw [heq] at hl
      exact absurd (lt_fresh_of_get? hget) (Value.ref.inj hl ▸ Nat.lt_irrefl _)
    rw [List.map_append]
    exact List.nodup_append_comm.mp (List.nodup_cons.mpr ⟨hnew, hh.unshared⟩)

theorem Holds.within_withStack (key : String) : h.Within (h.withStack d entries key) st where
  same := fun a hlt hout ↦
    get?_withStack_of_lt hlt (fun heq ↦ hout (hh.inState_iff.mpr (.inr (.inl heq)))) entries key
  inner := fun a hin ↦ by
    rw [(hh.withStack key).inState_iff, List.map_append, List.mem_append] at hin
    rcases hin with rfl | rfl | hold | hnew
    · exact .inl (.inl rfl)
    · exact .inl (hh.inState_iff.mpr (.inr (.inl rfl)))
    · exact .inl (hh.inState_iff.mpr (.inr (.inr hold)))
    · obtain rfl : a = h.fresh := by simpa using hnew
      exact .inr (Nat.le_refl _)
  grows := by simp [Heap.withStack]

theorem Holds.accrues_withStack (key : String) : h.Accrues (h.withStack d entries key) := by
  have hdict : (h.add (.list [])).get? d = some (.dict entries) :=
    (get?_add_of_lt _ (lt_fresh_of_get? hh.dict)).trans hh.dict
  apply (accrues_add h (.list [])).trans
  exact accrues_put hdict (.dict entries _)

/-- A new stack is empty, as is the stack of a name without one. -/
theorem Holds.stackOf_withStack (hnone : entries.lookup (.str key) = none) (other : String) :
    (h.withStack d entries key).stackOf (.ref st) other = h.stackOf (.ref st) other := by
  rw [(hh.withStack key).stackOf, List.lookup_append, List.lookup_cons]
  rcases hh.lookup_cases other with ⟨hother, hempty⟩ | ⟨l, hother, -, hget⟩
  · rw [hother, hempty]
    by_cases heq : other = key
    · subst heq
      simp [list?_of_get? (hh.get?_withStack_fresh other)]
    · have hbeq : (Value.str other == Value.str key) = false := by simpa using heq
      simp [hbeq]
  · have hget' := (get?_withStack_of_lt (lt_fresh_of_get? hget) (hh.ne_of_list hget).2 entries
      key).trans hget
    rw [hother]
    simp [list?_of_get? hget']

/-- A new stack is found under its name, and hides no other. -/
theorem Holds.indexed_withStack (hnone : entries.lookup (.str key) = none) (hi : h.Indexed st) :
    (h.withStack d entries key).Indexed st := by
  rw [(hh.withStack key).indexed_iff]
  intro entry hentry
  rcases List.mem_append.mp hentry with hold | hnew
  · obtain ⟨name, hname, hlookup⟩ := hh.indexed_iff.mp hi entry hold
    exact ⟨name, hname, by simp [List.lookup_append, hlookup]⟩
  · obtain rfl := List.mem_singleton.mp hnew
    exact ⟨key, rfl, by simp [List.lookup_append, hnone]⟩

/-- The heap after a stack got other nodes. -/
theorem Holds.putStack (hl : h.get? l = some (.list old)) (items : List Value) :
    (h.put l (.list items)).Holds st d entries := by
  obtain ⟨e, hst, hk, hinside⟩ := hh.state
  obtain ⟨hls, hld⟩ := hh.ne_of_list hl
  refine ⟨⟨e, (get?_put_of_ne _ hls.symm).trans hst, hk, hinside⟩,
    (get?_put_of_ne _ hld.symm).trans hh.dict, fun entry hentry ↦ ?_, hh.unshared⟩
  obtain ⟨m, old', hm, hget⟩ := hh.list entry hentry
  by_cases hml : m = l
  · subst hml
    exact ⟨m, items, hm, get?_put_self (lt_fresh_of_get? hget)⟩
  · exact ⟨m, old', hm, (get?_put_of_ne _ hml).trans hget⟩

theorem Holds.within_putStack (hl : h.get? l = some (.list old))
    (hmem : .ref l ∈ entries.map Prod.snd) (items : List Value) :
    h.Within (h.put l (.list items)) st where
  same := fun a _ hout ↦ by
    have hne : a ≠ l := by
      rintro rfl
      exact hout (hh.inState_iff.mpr (.inr (.inr hmem)))
    exact get?_put_of_ne _ hne
  inner := fun a hin ↦ by
    rw [(hh.putStack hl items).inState_iff] at hin
    exact .inl (hh.inState_iff.mpr hin)
  grows := by simp

/-- The other stacks are in other lists. -/
theorem Holds.stackOf_putStack (hkey : entries.lookup (.str key) = some (.ref l))
    (hl : h.get? l = some (.list old)) (items : List Value) (other : String) :
    (h.put l (.list items)).stackOf (.ref st) other =
      if other = key then items else h.stackOf (.ref st) other := by
  rw [(hh.putStack hl items).stackOf, hh.stackOf]
  by_cases heq : other = key
  · subst heq
    rw [hkey, if_pos rfl]
    simp [list?_of_get? (get?_put_self (o := .list items) (lt_fresh_of_get? hl))]
  · rw [if_neg heq]
    cases hv : entries.lookup (.str other) with
    | none => rfl
    | some v =>
      have hne : v ≠ .ref l := by
        rintro rfl
        have hinj := List.inj_on_of_nodup_map hh.unshared (mem_of_lookup hv)
          (mem_of_lookup hkey) rfl
        exact heq (Value.str.inj (Prod.mk.inj hinj).1)
      simp [list?_put_of_ne _ hne]

end Holding

/-- After something happened to the stack for one type name: it has the given nodes, and nothing but
the state was touched. -/
structure Restacks (h h' : Heap) (st : Addr) (key : String) (items : List Value) : Prop where
  stacked : h'.Stacked st
  within : h.Within h' st
  held : h'.attrOrNull (.ref st) "inside" ≠ .null
  indexed : h.Indexed st → h'.Indexed st
  stackOf : ∀ k, h'.stackOf (.ref st) k = if k = key then items else h.stackOf (.ref st) k

theorem Holds.restacks (hh : h.Holds st d entries)
    (hkey : entries.lookup (.str key) = some (.ref l)) (hl : h.get? l = some (.list old))
    (items : List Value) : h.Restacks (h.put l (.list items)) st key items where
  stacked := .inr ⟨d, entries, hh.putStack hl items⟩
  within := hh.within_putStack hl (List.mem_map_of_mem (mem_of_lookup hkey)) items
  held := by simp [(hh.putStack hl items).inside]
  indexed := fun hi ↦ (hh.putStack hl items).indexed_iff.mpr (hh.indexed_iff.mp hi)
  stackOf := hh.stackOf_putStack hkey hl items

/-- Changes that do not show in any stack may come first. -/
theorem Restacks.of_within {items : List Value} (hr : h'.Restacks h'' st key items)
    (hwithin : h.Within h' st) (hindexed : h.Indexed st → h'.Indexed st)
    (hsame : ∀ k, h'.stackOf (.ref st) k = h.stackOf (.ref st) k) :
    h.Restacks h'' st key items where
  stacked := hr.stacked
  within := hwithin.trans hr.within
  held := hr.held
  indexed := hr.indexed ∘ hindexed
  stackOf := fun k ↦ by rw [hr.stackOf, hsame]

end Heap

/-! ## Type names that nodes count for -/

/-- A type name without a suffix. If the suffix is empty nothing is left. -/
def withoutSuffix (type suffix : String) : String :=
  if suffix = "" then ""
  else if suffix.toList.isSuffixOf type.toList then
    String.ofList (type.toList.take (type.toList.length - suffix.length))
  else type

/-- The type name that a node counts for, as the heap is: the type of its parent, which must be a
node, or its own type without the suffix if it has no parent. There is none if the type in question
is not a text. -/
def Heap.keyIn (h : Heap) (node : Value) (suffix : String) : Option String :=
  let parent := h.attrOrNull node "parent"
  let owner := if parent = .null then node else parent
  match h.attrOrNull owner "type" with
  | .str type =>
    if parent = .null then some (withoutSuffix type suffix)
    else if h.isNode parent then some type
    else none
  | _ => none

section Specs

variable {σ : Type} {w : World σ} {s : Settings} {st d : Addr} {node : Value} {key : String}
  {entries : List (Value × Value)}

theorem stripSuffix_apply (type suffix : String) (w : World σ) :
    (Nesting.stripSuffix type (.str suffix) : Op σ String) w =
      .ok (withoutSuffix type suffix) w := by
  by_cases hnil : suffix = ""
  · subst hnil
    simp [Nesting.stripSuffix, Smart.endsWith, bind_apply, map_apply, size, Heap.size?,
      withoutSuffix]
  · cases hs : suffix.toList.isSuffixOf type.toList <;>
      simp [Nesting.stripSuffix, Smart.endsWith, bind_apply, map_apply, size, Heap.size?,
        withoutSuffix, hs, hnil]

theorem keyOf_apply {suffix : String} (hkey : w.heap.keyIn node suffix = some key) :
    (Nesting.keyOf node (.str suffix) : Op σ String) w = .ok key w := by
  unfold Heap.keyIn at hkey
  rw [Nesting.keyOf, bind_of_ok (heap_apply w)]
  by_cases hparent : w.heap.attrOrNull node "parent" = .null
  · simp only [hparent, if_true] at hkey
    cases htype : w.heap.attrOrNull node "type" with
    | str type =>
      simp only [htype, Option.some.injEq] at hkey
      simp only [hparent, ne_eq, not_true_eq_false, if_false]
      rw [stripSuffix_apply, hkey]
    | _ => simp [htype] at hkey
  · simp only [hparent, if_false] at hkey
    cases htype : w.heap.attrOrNull (w.heap.attrOrNull node "parent") "type" with
    | str type =>
      simp only [htype, Option.ite_none_right_eq_some, Option.some.injEq] at hkey
      simp only [hparent, ne_eq, not_false_eq_true, if_true]
      rw [bind_of_ok (requireNode_apply hkey.1 _), hkey.2]
      rfl
    | _ => simp [htype] at hkey

theorem isState_of_stacked {h : Heap} (hst : h.Stacked st) : h.isState (.ref st) = true := by
  have hentity : ∃ e, h.get? st = some (.entity e) ∧ e.kind = .nesting := by
    rcases hst with ⟨e, he, hk, -⟩ | ⟨d, entries, hh⟩
    · exact ⟨e, he, hk⟩
    · obtain ⟨e, he, hk, -⟩ := hh.state
      exact ⟨e, he, hk⟩
  obtain ⟨e, he, hk⟩ := hentity
  simp [Heap.isState, Heap.entity?_of_get? he, hk]

/-! ## Entering -/

/-- The first step of entering makes sure that there is a mapping. -/
theorem beginStacks_apply (hst : w.heap.Stacked st) :
    ∃ h d entries,
      (∀ rest : Op σ Value, (do
          if w.heap.attrOrNull (.ref st) "inside" = .null then
            setAttr (.ref st) "inside" (← new (.dict []))
          rest : Op σ Value) w = rest { w with heap := h }) ∧
      h.Holds st d entries ∧ w.heap.Within h st ∧ (w.heap.Indexed st → h.Indexed st) ∧
      w.heap.Accrues h ∧ ∀ k, h.stackOf (.ref st) k = w.heap.stackOf (.ref st) k := by
  rcases hst with hidle | ⟨d, entries, hh⟩
  · have hinside := hidle.inside
    have hstack := hidle.stackOf
    obtain ⟨e, hget, hk, -⟩ := hidle
    have hholds := Heap.holds_withStacks hget hk
    have hget' : (w.heap.add (.dict [])).get? st = some (.entity e) :=
      (Heap.get?_add_of_lt _ (Heap.lt_fresh_of_get? hget)).trans hget
    refine ⟨w.heap.withStacks st e, w.heap.fresh, [], ?_, hholds,
      Heap.within_withStacks hget hk, fun _ ↦ hholds.indexed_iff.mpr (by simp),
      Heap.accrues_withStacks hget, fun k ↦ ?_⟩
    · intro rest
      simp [hinside, bind_apply, setAttr, Heap.entity?_of_get? hget', Heap.assign, hk,
        Heap.withStacks]
    · rw [hholds.stackOf, hstack]
      rfl
  · refine ⟨w.heap, d, entries, ?_, hh, .refl _ _, id, .refl _, fun _ ↦ rfl⟩
    simp [hh.inside]

/-- The second step finds the stack or makes one. -/
theorem lookupOrAdd_apply (call : Caller σ) (hh : w.heap.Holds st d entries) (key : String) :
    ∃ h entries' l,
      (lookupOrAdd call (.ref d) key : Op σ Value) w = .ok (.ref l) { w with heap := h } ∧
      h.Holds st d entries' ∧ entries'.lookup (.str key) = some (.ref l) ∧
      h.get? l = some (.list (w.heap.stackOf (.ref st) key)) ∧ w.heap.Within h st ∧
      (w.heap.Indexed st → h.Indexed st) ∧ w.heap.Accrues h ∧
      ∀ k, h.stackOf (.ref st) k = w.heap.stackOf (.ref st) k := by
  have hdict : w.heap.dict? (.ref d) = some entries := by
    simp [Heap.dict?, Heap.object?, hh.dict]
  rcases hh.lookup_cases key with ⟨hnone, hempty⟩ | ⟨l, hsome, -, hget⟩
  · refine ⟨w.heap.withStack d entries key, _, w.heap.fresh, ?_, hh.withStack key, ?_, ?_,
      hh.within_withStack key, hh.indexed_withStack hnone, hh.accrues_withStack key,
      hh.stackOf_withStack hnone⟩
    · simp [lookupOrAdd, bind_apply, map_apply, hdict, hnone, Heap.withStack]
    · simp [List.lookup_append, hnone]
    · rw [hempty, hh.get?_withStack_fresh]
  · refine ⟨w.heap, entries, l, ?_, hh, hsome, hget, .refl _ _, id, .refl _, fun _ ↦ rfl⟩
    simp [lookupOrAdd, bind_apply, hdict, hsome]

/-- Entering a node always succeeds and puts it on the stack it counts for. Nothing gets less by
it. -/
theorem Nesting.enter_accrues (call : Caller σ) (hs : w.Uses s) (hst : w.heap.Stacked st)
    (hnode : w.heap.isNode node = true) (hkey : w.heap.keyIn node s.openSuffix = some key) :
    ∃ stack h, (Nesting.enter call (.ref st) node).Gives w stack h ∧
      w.heap.Restacks h st key (w.heap.stackOf (.ref st) key ++ [node]) ∧ w.heap.Accrues h := by
  obtain ⟨h₁, d, entries, hbegin, hh₁, hwithin₁, hindexed₁, haccrues₁, hsame₁⟩ :=
    beginStacks_apply hst
  obtain ⟨h₂, entries', l, hlookup, hh₂, hl, hget, hwithin₂, hindexed₂, haccrues₂, hsame₂⟩ :=
    lookupOrAdd_apply (w := { w with heap := h₁ }) call hh₁ key
  have hinside : (getAttr (.ref st) "inside" : Op σ Value) { w with heap := h₁ } =
      .ok (.ref d) { w with heap := h₁ } := by
    obtain ⟨e, he, hk, hd⟩ := hh₁.state
    simp [getAttr, bind_apply, Heap.attr, Heap.entity?_of_get? he, hk, Heap.attr?_entity he,
      Heap.entityAttr?, hd]
  have happend := append_apply (w := { w with heap := h₂ }) hget call node
  have hsize := size_apply
    (w := { w with heap := h₂.put l (.list (h₁.stackOf (.ref st) key ++ [node])) })
    (Heap.get?_put_self (Heap.lt_fresh_of_get? hget))
  refine ⟨.ref l, h₂.put l (.list (h₁.stackOf (.ref st) key ++ [node])), ?_, ?_, ?_⟩
  · exact ⟨_, by
      rw [Nesting.enter, bind_of_ok (requireNode_apply hnode _),
        bind_of_ok (requireState_apply (isState_of_stacked hst) _), bind_of_ok hs.openSuffix_apply,
        bind_of_ok (keyOf_apply hkey), bind_of_ok (heap_apply w)]
      refine (hbegin _).trans ?_
      rw [bind_of_ok hinside, bind_of_ok hlookup, bind_of_ok happend, bind_of_ok hsize]
      rfl⟩
  · rw [hsame₁] at hget ⊢
    exact (hh₂.restacks hl hget _).of_within (hwithin₁.trans hwithin₂) (hindexed₂ ∘ hindexed₁)
      fun k ↦ (hsame₂ k).trans (hsame₁ k)
  · exact (haccrues₁.trans haccrues₂).trans (Heap.accrues_put hget (.list _ _))

theorem Nesting.enter_restacks (call : Caller σ) (hs : w.Uses s) (hst : w.heap.Stacked st)
    (hnode : w.heap.isNode node = true) (hkey : w.heap.keyIn node s.openSuffix = some key) :
    ∃ stack h, (Nesting.enter call (.ref st) node).Gives w stack h ∧
      w.heap.Restacks h st key (w.heap.stackOf (.ref st) key ++ [node]) := by
  obtain ⟨stack, h, hgives, hrestacks, -⟩ := Nesting.enter_accrues call hs hst hnode hkey
  exact ⟨stack, h, hgives, hrestacks⟩

/-! ## Leaving -/

theorem lookup_apply (call : Caller σ) (hh : w.heap.Holds st d entries) (key : String) :
    (lookup call (.ref d) key : Op σ Value) w = .ok ((entries.lookup (.str key)).getD .null) w := by
  simp [lookup, bind_apply, Heap.dict?, Heap.object?, hh.dict]

/-- There is no leaving before anything was entered. -/
theorem Nesting.leave_of_idle (call : Caller σ) (hs : w.Uses s) (hi : w.heap.Idle st)
    (hnode : w.heap.isNode node = true) (hkey : w.heap.keyIn node s.closeSuffix = some key) :
    Nesting.leave call (.ref st) node w = .error (.neverEntered key) w := by
  rw [Nesting.leave, bind_of_ok (requireNode_apply hnode _),
    bind_of_ok (requireState_apply (isState_of_stacked (.inl hi)) _),
    bind_of_ok hs.closeSuffix_apply, bind_of_ok (keyOf_apply hkey), bind_of_ok (heap_apply w)]
  simp [hi.inside, bind_apply]

/-- Leaving takes the latest node from the stack that the given node counts for, if there is any. -/
theorem Nesting.leave_restacks (call : Caller σ) (hs : w.Uses s) (hh : w.heap.Holds st d entries)
    (hnode : w.heap.isNode node = true) (hkey : w.heap.keyIn node s.closeSuffix = some key) :
    ∃ h, (Nesting.leave call (.ref st) node).Gives w
        ((w.heap.stackOf (.ref st) key).getLast?.getD .null) h ∧
      w.heap.Restacks h st key (w.heap.stackOf (.ref st) key).dropLast := by
  have hstart : Nesting.leave call (.ref st) node w =
      (do
        if !w.heap.truthy ((entries.lookup (.str key)).getD .null) then return .null
        let popped ← popLast call ((entries.lookup (.str key)).getD .null)
        debug nestingLogger ("Left " ++ Text.quote key ++ " (depth " ++
          toString (← size ((entries.lookup (.str key)).getD .null)) ++ ")")
        return popped : Op σ Value) w := by
    rw [Nesting.leave, bind_of_ok (requireNode_apply hnode _),
      bind_of_ok (requireState_apply (isState_of_stacked (.inr ⟨d, entries, hh⟩)) _),
      bind_of_ok hs.closeSuffix_apply, bind_of_ok (keyOf_apply hkey), bind_of_ok (heap_apply w)]
    simp only [hh.inside, reduceCtorEq, if_false]
    rw [bind_of_ok (lookup_apply call hh key), bind_of_ok (heap_apply w)]
  -- Nothing is changed if the stack is missing or empty.
  have hnothing (hempty : w.heap.stackOf (.ref st) key = []) :
      w.heap.Restacks w.heap st key (w.heap.stackOf (.ref st) key).dropLast := by
    refine ⟨.inr ⟨d, entries, hh⟩, .refl _ _, by simp [hh.inside], id, fun k ↦ ?_⟩
    by_cases hk : k = key
    · rw [hk, if_pos rfl, hempty]
      rfl
    · rw [if_neg hk]
  rcases hh.lookup_cases key with ⟨hnone, hempty⟩ | ⟨l, hsome, -, hget⟩
  · refine ⟨w.heap, gives_of_ok (hstart.trans ?_), hnothing hempty⟩
    simp [hnone, hempty, Heap.truthy]
  · rw [hsome] at hstart
    simp only [Option.getD_some, Heap.truthy_list hget, Bool.not_not, List.isEmpty_iff] at hstart
    by_cases hempty : w.heap.stackOf (.ref st) key = []
    · refine ⟨w.heap, gives_of_ok (hstart.trans ?_), hnothing hempty⟩
      simp [hempty]
    · rw [if_neg hempty, bind_of_ok (popLast_apply hget call)] at hstart
      have hsize := size_apply
        (w := { w with heap := w.heap.put l (.list (w.heap.stackOf (.ref st) key).dropLast) })
        (Heap.get?_put_self (Heap.lt_fresh_of_get? hget))
      rw [bind_of_ok hsize] at hstart
      exact ⟨_, ⟨_, hstart⟩, hh.restacks hsome hget _⟩

/-! ## Asking -/

theorem stacksOf_apply (state : Value) (w : World σ) :
    (Nesting.stacksOf state : Op σ (Option Value)) w =
      .ok (if w.heap.truthy (w.heap.attrOrNull state "inside") then
        some (w.heap.attrOrNull state "inside") else none) w := rfl

/-- A state is inside a type if and only if the stack for it is not empty. -/
theorem Nesting.isInsideType_apply (call : Caller σ) (hst : w.heap.Stacked st) (key : String) :
    (Nesting.isInsideType call (.ref st) (.str key) : Op σ Bool) w =
      .ok (decide (w.heap.stackOf (.ref st) key ≠ [])) w := by
  rw [Nesting.isInsideType, bind_of_ok (requireState_apply (isState_of_stacked hst) _),
    bind_of_ok (stacksOf_apply (.ref st) w)]
  rcases hst with hi | ⟨d, entries, hh⟩
  · simp [hi.inside, Heap.truthy, hi.stackOf]
  · have htruthy : w.heap.truthy (.ref d) = !entries.isEmpty := by simp [Heap.truthy, hh.dict]
    simp only [hh.inside, htruthy]
    cases entries with
    | nil => simp [hh.stackOf]
    | cons entry rest =>
      simp only [List.isEmpty_cons, Bool.not_false, if_true]
      rw [bind_of_ok (lookup_apply call hh key), bind_of_ok (heap_apply w)]
      rcases hh.lookup_cases key with ⟨hnone, hempty⟩ | ⟨l, hsome, -, hget⟩
      · simp [hnone, hempty, Heap.truthy]
      · simp only [hsome, Option.getD_some, Heap.truthy_list hget]
        cases hitems : w.heap.stackOf (.ref st) key with
        | nil => simp
        | cons item items =>
          rw [hitems] at hget
          simp [bind_apply, size_apply hget]

end Specs

end TagTree
