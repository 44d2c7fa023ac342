import TagTree.Proofs.Children

/-!
# Heaps without attributes to call

In an inert heap no attribute of an object can be called, except perhaps its parent. What can be
called there through an attribute is an ability that the object has by its kind. This module says
which changes keep a heap inert, and what an inert heap answers when an object is asked for
something to call.
-/

namespace TagTree

/-- Whether an object can be called itself. -/
def Object.isCallable : Object → Bool
  | .entity ⟨.handler _, _, _⟩ | .entity ⟨.ability _, _, _⟩ => true
  | _ => false

/-- No attribute of an object can be called, except perhaps its parent. -/
def Object.InertIn (h : Heap) : Object → Prop
  | .entity e =>
    ∀ name v, name ≠ "parent" → Table.get? e.attrs name = some v → h.callable v = false
  | _ => True

/-- Whether an object is a list, tuple, set or mapping. -/
def Object.isCollection : Object → Bool
  | .entity _ => false
  | _ => true

theorem Object.isCallable_of_isCollection {o : Object} (ho : o.isCollection = true) :
    o.isCallable = false := by
  cases o with
  | entity e => cases ho
  | _ => rfl

theorem Object.inertIn_of_isCollection {o : Object} (ho : o.isCollection = true) (h : Heap) :
    o.InertIn h := by
  cases o with
  | entity e => cases ho
  | _ => trivial

namespace Heap

/-- No attribute in the heap can be called, except perhaps a parent. -/
def Inert (h : Heap) : Prop :=
  ∀ a o, h.get? a = some o → o.InertIn h

variable {h h' : Heap} {a : Addr} {o o' : Object} {v x : Value} {name : String}

/-! ## Changes that keep a heap inert -/

theorem callable_ref (h : Heap) (a : Addr) :
    h.callable (.ref a) = true ↔ ∃ o, h.get? a = some o ∧ o.isCallable = true := by
  simp only [callable]
  constructor
  · intro hc
    split at hc
    · next hget => exact ⟨_, hget, rfl⟩
    · next hget => exact ⟨_, hget, rfl⟩
    · cases hc
  · rintro ⟨o, hget, ho⟩
    unfold Object.isCallable at ho
    split at ho
    · rw [hget]
    · rw [hget]
    · cases ho

/-- What cannot be called in a heap cannot be called in one with no other objects to call. -/
theorem callable_eq_false_of_le
    (hle : ∀ a o', h'.get? a = some o' → o'.isCallable = true →
      ∃ o, h.get? a = some o ∧ o.isCallable = true)
    (hv : h.callable v = false) : h'.callable v = false := by
  cases v with
  | ref a =>
    rw [← Bool.not_eq_true, callable_ref] at hv ⊢
    rintro ⟨o', hget, ho'⟩
    exact hv (hle a o' hget ho')
  | _ => exact hv

theorem callable_put (ha : h.get? a = some o) (hcall : o'.isCallable = true → o.isCallable = true)
    (hv : h.callable v = false) : (h.put a o').callable v = false := by
  refine callable_eq_false_of_le (fun b p hget hp ↦ ?_) hv
  by_cases hb : b = a
  · subst hb
    rw [get?_put_self (lt_fresh_of_get? ha)] at hget
    cases hget
    exact ⟨o, ha, hcall hp⟩
  · rw [get?_put_of_ne o' hb] at hget
    exact ⟨p, hget, hp⟩

theorem callable_add (hcall : o.isCallable = false) (hv : h.callable v = false) :
    (h.add o).callable v = false := by
  refine callable_eq_false_of_le (fun b p hget hp ↦ ?_) hv
  by_cases hb : b = h.fresh
  · subst hb
    rw [get?_add_fresh] at hget
    cases hget
    rw [hcall] at hp
    cases hp
  · rw [get?_add_of_ne o hb] at hget
    exact ⟨p, hget, hp⟩

theorem inertIn_mono (hle : ∀ v, h.callable v = false → h'.callable v = false)
    (ho : o.InertIn h) : o.InertIn h' := by
  cases o with
  | entity e => exact fun name v hn hv ↦ hle v (ho name v hn hv)
  | _ => trivial

/-- An object is replaced by one that can be called only if the old one could. -/
theorem Inert.put (hi : h.Inert) (ha : h.get? a = some o)
    (hcall : o'.isCallable = true → o.isCallable = true) (ho' : o'.InertIn h) :
    (h.put a o').Inert := by
  intro b p hget
  refine inertIn_mono (fun v hv ↦ callable_put ha hcall hv) ?_
  by_cases hb : b = a
  · subst hb
    rw [get?_put_self (lt_fresh_of_get? ha)] at hget
    cases hget
    exact ho'
  · rw [get?_put_of_ne o' hb] at hget
    exact hi b p hget

/-- An object is added that cannot be called. -/
theorem Inert.add (hi : h.Inert) (hcall : o.isCallable = false) (ho : o.InertIn h) :
    (h.add o).Inert := by
  intro b p hget
  refine inertIn_mono (fun v hv ↦ callable_add hcall hv) ?_
  by_cases hb : b = h.fresh
  · subst hb
    rw [get?_add_fresh] at hget
    cases hget
    exact ho
  · rw [get?_add_of_ne o hb] at hget
    exact hi b p hget

/-- An assignment changes one attribute, or only the link to the parent. -/
theorem assign_cases {e e' : Entity} (hassign : h.assign e name x = .ok e') :
    e'.kind = e.kind ∧ (e'.attrs = e.attrs ∨ e'.attrs = Table.put name x e.attrs) := by
  unfold Heap.assign at hassign
  cases hk : e.kind <;> simp only [hk] at hassign <;> grind

/-- An entity gets a parent, or another attribute that cannot be called. -/
theorem Inert.assign (hi : h.Inert) {e e' : Entity} (ha : h.get? a = some (.entity e))
    (hassign : h.assign e name x = .ok e') (hx : name = "parent" ∨ h.callable x = false) :
    (h.put a (.entity e')).Inert := by
  obtain ⟨hkind, hattrs⟩ := assign_cases hassign
  have hsame : Object.isCallable (.entity e') = Object.isCallable (.entity e) := by
    obtain ⟨k', attrs', link'⟩ := e'
    obtain ⟨k, attrs, link⟩ := e
    obtain rfl : k' = k := hkind
    cases k' <;> rfl
  refine hi.put ha (fun hc ↦ hsame ▸ hc) fun other v hn hv ↦ ?_
  rcases hattrs with hattrs | hattrs <;> rw [hattrs] at hv
  · exact hi a _ ha other v hn hv
  · by_cases hother : other = name
    · subst hother
      rw [Table.get?_put_self] at hv
      cases hv
      exact hx.resolve_left hn
    · rw [Table.get?_put_of_ne hother] at hv
      exact hi a _ ha other v hn hv

/-! ## What can be called -/

/-- An attribute of an entity was assigned, or comes with its kind. -/
theorem entityAttr?_cases {e : Entity} (hn : name ≠ "parent")
    (hx : h.entityAttr? a e name = some x) :
    (∃ other, other ≠ "parent" ∧ Table.get? e.attrs other = some x) ∨
      (e.kind = .smart ∧ smartMember? a name = some x) ∨ x = .bool true ∨ x = .null := by
  unfold entityAttr? at hx
  cases hk : e.kind <;> simp only [hk] at hx <;> grind [Option.or_eq_some_iff]

/-- Whatever can be called as an attribute is an ability of a smart node, an operation of a list, or
belongs to the maker of smart nodes. -/
theorem Inert.member_of_callable (hi : h.Inert) (hn : name ≠ "parent")
    (hx : h.attr? v name = some x) (hc : h.callable x = true) :
    (∃ a e, v = .ref a ∧ h.get? a = some (.entity e) ∧ e.kind = .smart ∧
      smartMember? a name = some x) ∨
    (∃ a items, v = .ref a ∧ h.get? a = some (.list items) ∧
      (Method.ofListName? name).map (.method a) = some x) ∨
    v = .maker .smart ∧ makerMember? name = some x := by
  have hassigned : ∀ {a e other}, h.get? a = some (.entity e) → other ≠ "parent" →
      Table.get? e.attrs other ≠ some x := by
    intro a e other ha hother hget
    rw [hi a _ ha other x hother hget] at hc
    cases hc
  cases v with
  | ref a =>
    cases hget : h.get? a with
    | none => simp [attr?, hget] at hx
    | some o =>
      cases o with
      | entity e =>
        rw [attr?_entity hget] at hx
        rcases entityAttr?_cases hn hx with ⟨other, hother, hget'⟩ | ⟨hk, hmember⟩ | rfl | rfl
        · exact absurd hget' (hassigned hget hother)
        · exact .inl ⟨a, e, rfl, hget, hk, hmember⟩
        · cases hc
        · cases hc
      | list items =>
        simp only [attr?, hget] at hx
        exact .inr (.inl ⟨a, items, rfl, hget, hx⟩)
      | _ => simp [attr?, hget] at hx
  | maker m =>
    cases m with
    | smart => exact .inr (.inr ⟨rfl, hx⟩)
    | plain =>
      simp only [attr?] at hx
      split at hx <;> cases hx
      cases hc
    | nesting =>
      simp only [attr?] at hx
      split at hx <;> cases hx
      cases hc
    | settings => cases hx
  | _ => simp [attr?] at hx

theorem get?_of_entity? {e : Entity} (hv : h.entity? (.ref a) = some e) :
    h.get? a = some (.entity e) := by
  unfold entity? object? at hv
  split at hv
  · next hget =>
    cases hv
    exact hget
  · cases hv

theorem exists_entity_of_isNode (hv : h.isNode v = true) :
    ∃ a e, v = .ref a ∧ h.get? a = some (.entity e) := by
  cases v with
  | ref a =>
    cases hget : h.get? a with
    | none => simp [isNode, attr?, hget] at hv
    | some o =>
      cases o with
      | entity e => exact ⟨a, e, rfl, hget⟩
      | list items => simp [isNode, attr?, hget, Method.ofListName?] at hv
      | _ => simp [isNode, attr?, hget] at hv
  | _ => simp [isNode, attr?] at hv

/-- A node can be asked for the abilities of smart nodes, if it is one, and for nothing else. -/
theorem Inert.capability_of_isNode (hi : h.Inert) (hv : h.isNode v = true) (hn : name ≠ "parent")
    (hx : h.capability v name = some x) : ∃ a, v = .ref a ∧ smartMember? a name = some x := by
  obtain ⟨hattr, hc⟩ := Option.filter_eq_some_iff.mp hx
  obtain ⟨a, e, rfl, hget⟩ := exists_entity_of_isNode hv
  rcases hi.member_of_callable hn hattr hc with ⟨b, _, hb, -, -, hmember⟩ |
    ⟨b, items, hb, hlist, -⟩ | ⟨hmaker, -⟩
  · cases hb
    exact ⟨a, rfl, hmember⟩
  · cases hb
    rw [hget] at hlist
    cases hlist
  · cases hmaker

end Heap

end TagTree
