import TagTree.Invoke
import TagTree.Proofs.Inert

/-!
# Phases of an operation

An operation refuses what it is asked if an argument does not have the documented shape, or if a
node is left although none was ever entered. Operations work in two phases. At first they only look
at the world (`Reads`) and may refuse. From the first change on they are mute (`Mute`): they may
still fail, but do not refuse any more. An operation that is put together in this way is clean
(`Clean`): when it refuses, every object is as it was before.

This module says how the phases are put together, and to which of them the elementary operations
belong, whatever objects the heap holds, as long as no attribute brings code of its own.
-/

namespace TagTree

/-- Whether a fault is a refusal. -/
def Fault.isRefusal : Fault → Bool
  | .argument _ _ | .neverEntered _ => true
  | _ => false

/-! ## Results that are no refusals -/

/-- A result that is not a refusal. -/
def Quiet {α : Type} (e : Except Fault α) : Prop :=
  ∀ fault, e = .error fault → fault.isRefusal = false

section Results

variable {α β : Type}

theorem quiet_ok (a : α) : Quiet (.ok a) :=
  fun _ h ↦ by cases h

theorem quiet_error {fault : Fault} (hf : fault.isRefusal = false) :
    Quiet (.error fault : Except Fault α) :=
  fun _ h ↦ by cases h; exact hf

theorem Quiet.bind {e : Except Fault α} {f : α → Except Fault β} (he : Quiet e)
    (hf : ∀ a, Quiet (f a)) : Quiet (e >>= f) := by
  cases e with
  | error fault => exact quiet_error (he fault rfl)
  | ok a => exact hf a

theorem quiet_mapM {f : α → Except Fault β} (hf : ∀ a, Quiet (f a)) (xs : List α) :
    Quiet (xs.mapM f) := by
  induction xs with
  | nil => exact quiet_ok []
  | cons x rest ih =>
    rw [List.mapM_cons]
    exact (hf x).bind fun _ ↦ ih.bind fun _ ↦ quiet_ok _

end Results

namespace Heap

variable (h : Heap)

theorem quiet_attrText {literal : Value → Except Fault String} (hl : ∀ v, Quiet (literal v))
    (e : Entity) (name : String) : Quiet (attrText literal e name) := by
  unfold attrText
  split
  · exact hl _
  · exact quiet_error rfl

theorem quiet_attrsText {literal : Value → Except Fault String} (hl : ∀ v, Quiet (literal v))
    (separator : String) (attrs : Table Value) : Quiet (attrsText separator literal attrs) :=
  (quiet_mapM (fun _ ↦ (hl _).bind fun _ ↦ quiet_ok _) attrs).bind fun _ ↦ quiet_ok _

theorem quiet_childCount (e : Entity) : Quiet (h.childCount e) := by
  unfold childCount
  split
  · exact quiet_error rfl
  · exact quiet_ok _
  · split
    · exact quiet_ok _
    · exact quiet_error rfl

theorem quiet_entityText {literal : Value → Except Fault String} (hl : ∀ v, Quiet (literal v))
    (e : Entity) : Quiet (h.entityText literal e) := by
  unfold entityText
  split
  · exact (h.quiet_childCount e).bind fun _ ↦ (quiet_attrText hl e _).bind fun _ ↦
      (quiet_attrText hl e _).bind fun _ ↦ quiet_ok _
  · exact (quiet_attrText hl e _).bind fun _ ↦ (quiet_attrText hl e _).bind fun _ ↦ quiet_ok _
  · exact (quiet_attrsText hl _ _).bind fun _ ↦ quiet_ok _
  · exact (hl _).bind fun _ ↦ quiet_ok _
  · exact (quiet_attrsText hl _ _).bind fun _ ↦ quiet_ok _
  · exact quiet_ok _
  · exact quiet_ok _
  · exact quiet_ok _
  · exact quiet_ok _
  · exact hl _

theorem quiet_intText (n : Int) : Quiet (intText n) := by
  unfold intText
  split
  · exact quiet_error rfl
  · exact quiet_ok _

/-- A value that cannot be written out is never refused for it. -/
theorem quiet_literalFrom (fuel : Nat) (above : List Addr) (v : Value) :
    Quiet (h.literalFrom fuel above v) := by
  induction fuel generalizing above v with
  | zero => exact quiet_error rfl
  | succ fuel ih =>
    cases v with
    | ref a =>
      simp only [literalFrom]
      split
      · exact quiet_ok _
      · split
        · exact quiet_ok _
        · split
          · exact (quiet_mapM (ih _) _).bind fun _ ↦ quiet_ok _
          · exact (quiet_mapM (ih _) _).bind fun _ ↦ quiet_ok _
          · exact (quiet_mapM (ih _) _).bind fun _ ↦ quiet_ok _
          · refine (quiet_mapM (fun _ ↦ ?_) _).bind fun _ ↦ quiet_ok _
            exact (ih _ _).bind fun _ ↦ (ih _ _).bind fun _ ↦ quiet_ok _
          · exact h.quiet_entityText (ih _) _
    | int n => exact quiet_intText n
    | method a m =>
      simp only [literalFrom]
      split
      · exact quiet_ok _
      · exact (ih _ _).bind fun _ ↦ quiet_ok _
    | _ => exact quiet_ok _

theorem quiet_literal (v : Value) : Quiet (h.literal v) := by
  rw [literal]
  exact h.quiet_literalFrom _ _ _

theorem quiet_edgeItem (atEnd : Bool) (v : Value) : Quiet (h.edgeItem atEnd v) := by
  intro fault hf
  unfold edgeItem at hf
  grind [Fault.isRefusal]

theorem quiet_edgeChild (atEnd : Bool) (e : Entity) : Quiet (h.edgeChild atEnd e) := by
  unfold edgeChild
  split
  · exact quiet_error rfl
  · split
    · exact h.quiet_edgeItem atEnd _
    · exact quiet_ok _

theorem quiet_attr (v : Value) (name : String) : Quiet (h.attr v name) := by
  have hfirst := fun e ↦ h.quiet_edgeChild false e
  have hlast := fun e ↦ h.quiet_edgeChild true e
  intro fault hf
  unfold attr at hf
  grind [Fault.isRefusal, Quiet]

theorem quiet_assign (e : Entity) (name : String) (x : Value) : Quiet (h.assign e name x) := by
  intro fault hf
  unfold assign at hf
  grind [Fault.isRefusal]

end Heap

theorem Signature.quiet_assign (parameters : List (String × Option Value)) (args : List Value)
    (named : Table Value) : Quiet (Signature.assign parameters args named) := by
  fun_induction Signature.assign parameters args named with
  | case1 => exact quiet_ok _
  | case2 => exact quiet_error rfl
  | case3 => exact quiet_error rfl
  | case4 _ _ _ _ _ _ _ ih => exact ih.bind fun _ ↦ quiet_ok _
  | case5 _ _ _ _ _ _ ih => exact ih.bind fun _ ↦ quiet_ok _
  | case6 _ _ _ _ _ ih => exact ih.bind fun _ ↦ quiet_ok _
  | case7 => exact quiet_error rfl

/-! ## Phases -/

namespace Op

variable {σ α β : Type}

/-- An operation leaves the world as it is, whether it succeeds or fails. -/
def Reads (x : Op σ α) (w : World σ) : Prop :=
  x.after w = w

/-- An operation does not refuse, and leaves an inert heap if it succeeds. -/
def Mute (x : Op σ α) (w : World σ) : Prop :=
  match x w with
  | .ok _ w' => w'.heap.Inert
  | .error fault _ => fault.isRefusal = false

/-- An operation changes no object if it refuses, and leaves an inert heap if it succeeds. -/
def Clean (x : Op σ α) (w : World σ) : Prop :=
  match x w with
  | .ok _ w' => w'.heap.Inert
  | .error fault w' => fault.isRefusal = true → w.heap.Extends w'.heap

section Phases

variable {x y : Op σ α} {f : α → Op σ β} {w w' : World σ} {a : α} {fault : Fault}

theorem Reads.cases (hx : x.Reads w) :
    (∃ a, x w = .ok a w) ∨ ∃ fault, x w = .error fault w := by
  unfold Reads after at hx
  cases hrun : x w with
  | ok a w' => rw [hrun] at hx; exact .inl ⟨a, by rw [← hx]⟩
  | error fault w' => rw [hrun] at hx; exact .inr ⟨fault, by rw [← hx]⟩

theorem Reads.bind (hx : x.Reads w) (hf : ∀ a, x w = .ok a w → (f a).Reads w) :
    (x >>= f).Reads w := by
  rcases hx.cases with ⟨a, hrun⟩ | ⟨fault, hrun⟩
  · rw [Reads, after, bind_of_ok hrun]
    exact hf a hrun
  · rw [Reads, after, bind_of_error hrun]

theorem mute_of_ok (hx : x w = .ok a w') (hi : w'.heap.Inert) : x.Mute w := by
  rw [Mute, hx]
  exact hi

theorem mute_of_error (hx : x w = .error fault w') (hf : fault.isRefusal = false) : x.Mute w := by
  rw [Mute, hx]
  exact hf

theorem Mute.bind (hx : x.Mute w)
    (hf : ∀ a w', x w = .ok a w' → w'.heap.Inert → (f a).Mute w') : (x >>= f).Mute w := by
  unfold Mute at hx
  cases hrun : x w with
  | ok a w' =>
    rw [hrun] at hx
    rw [Mute, bind_of_ok hrun]
    exact hf a w' hrun hx
  | error fault w' =>
    rw [hrun] at hx
    exact mute_of_error (bind_of_error hrun f) hx

theorem mute_bind_of_ok (hx : x w = .ok a w') (hf : (f a).Mute w') : (x >>= f).Mute w := by
  rw [Mute, bind_of_ok hx]
  exact hf

theorem Reads.bind_mute (hx : x.Reads w) (hmute : x.Mute w)
    (hf : ∀ a, x w = .ok a w → (f a).Mute w) : (x >>= f).Mute w := by
  refine hmute.bind fun a w' hrun _ ↦ ?_
  obtain rfl : w' = w := (after_of_ok hrun).symm.trans hx
  exact hf a hrun

theorem Mute.clean (hx : x.Mute w) : x.Clean w := by
  unfold Mute at hx
  unfold Clean
  split at hx
  · exact hx
  · intro hrefusal
    rw [hx] at hrefusal
    cases hrefusal

theorem Reads.clean (hx : x.Reads w) (hi : w.heap.Inert) : x.Clean w := by
  rcases hx.cases with ⟨a, hrun⟩ | ⟨fault, hrun⟩ <;> rw [Clean, hrun]
  · exact hi
  · exact fun _ ↦ ⟨Nat.le_refl _, fun _ _ ↦ rfl⟩

/-- What is clean stays so if the world is looked at before. -/
theorem Reads.bind_clean (hx : x.Reads w) (hf : ∀ a, x w = .ok a w → (f a).Clean w) :
    (x >>= f).Clean w := by
  rcases hx.cases with ⟨a, hrun⟩ | ⟨fault, hrun⟩
  · rw [Clean, bind_of_ok hrun]
    exact hf a hrun
  · rw [Clean, bind_of_error hrun]
    exact fun _ ↦ ⟨Nat.le_refl _, fun _ _ ↦ rfl⟩

theorem Clean.bind_mute (hx : x.Clean w)
    (hf : ∀ a w', x w = .ok a w' → w'.heap.Inert → (f a).Mute w') : (x >>= f).Clean w := by
  unfold Clean at hx
  cases hrun : x w with
  | ok a w' =>
    rw [hrun] at hx
    have hmute := hf a w' hrun hx
    unfold Mute at hmute
    rw [Clean, bind_of_ok hrun]
    split at hmute
    · exact hmute
    · intro hrefusal
      rw [hmute] at hrefusal
      cases hrefusal
  | error fault w' =>
    rw [hrun] at hx
    rw [Clean, bind_of_error hrun]
    exact hx

/-- What is clean stays so if objects are made before. -/
theorem clean_bind_of_extends (hx : x w = .ok a w') (hext : w.heap.Extends w'.heap)
    (hf : (f a).Clean w') : (x >>= f).Clean w := by
  unfold Clean at hf
  rw [Clean, bind_of_ok hx]
  split at hf
  · exact hf
  · exact fun hrefusal ↦ hext.trans (hf hrefusal)

end Phases

/-! ## Looking at the world -/

section Reading

variable (w : World σ)

theorem reads_pure (a : α) : (pure a : Op σ α).Reads w := rfl

theorem reads_throw (fault : Fault) : (throw fault : Op σ α).Reads w := rfl

theorem reads_heap : (heap : Op σ Heap).Reads w := rfl

theorem reads_fromExcept (e : Except Fault α) : (fromExcept e : Op σ α).Reads w := by
  cases e <;> rfl

theorem reads_require (condition : Bool) (label : String) (shape : Shape) :
    (require condition label shape : Op σ Unit).Reads w := by
  cases condition <;> rfl

theorem reads_getAttr (v : Value) (name : String) : (getAttr v name : Op σ Value).Reads w :=
  reads_fromExcept w (w.heap.attr v name)

theorem reads_size (v : Value) : (size v : Op σ Nat).Reads w := by
  refine (reads_heap w).bind fun h _ ↦ ?_
  split
  · exact reads_pure w _
  · exact reads_throw w _

theorem reads_setting (name : String) : (setting name : Op σ Value).Reads w := by
  refine Reads.bind (x := get) rfl fun w' _ ↦ ?_
  split
  · exact reads_pure w _
  · exact reads_throw w _

/-- A guard that is passed tells that its condition holds. -/
theorem require_eq_ok {condition : Bool} {label : String} {shape : Shape}
    (h : (require condition label shape : Op σ Unit) w = .ok () w) : condition = true := by
  cases condition with
  | true => rfl
  | false => cases h

end Reading

/-- What cannot be called does nothing, and does not refuse to be called. -/
theorem invoke_of_not_callable {w : World σ} {x : Value} (hx : w.heap.callable x = false)
    (foreign : Caller σ) (fuel : Nat) (args : List Value) (named : Table Value) :
    ∃ fault, invoke foreign fuel x args named w = .error fault w ∧ fault.isRefusal = false := by
  cases fuel with
  | zero => exact ⟨_, throw_apply _ w, rfl⟩
  | succ fuel =>
    suffices h : invoke foreign (fuel + 1) x args named w = .error .unsupported w from
      ⟨_, h, rfl⟩
    cases x with
    | ref a =>
      refine (bind_of_ok (heap_apply w) _).trans ?_
      cases hentity : w.heap.entity? (.ref a) with
      | none => rfl
      | some e =>
        obtain ⟨kind, attrs, parent⟩ := e
        rw [Heap.callable, Heap.get?_of_entity? hentity] at hx
        cases kind with
        | handler _ => cases hx
        | ability _ => cases hx
        | _ => rfl
    | null | bool | int | float | str | pattern | inert => rfl
    | _ => cases hx

/-! ## Mute operations -/

section Muteness

variable {w : World σ} (hi : w.heap.Inert)
include hi

theorem mute_pure (a : α) : (pure a : Op σ α).Mute w :=
  mute_of_ok rfl hi

omit hi in
theorem mute_throw {fault : Fault} (hf : fault.isRefusal = false) :
    (throw fault : Op σ α).Mute w :=
  mute_of_error rfl hf

theorem mute_debug (logger text : String) : (debug logger text : Op σ Unit).Mute w :=
  mute_of_ok rfl hi

theorem mute_fromExcept {e : Except Fault α} (he : Quiet e) : (fromExcept e : Op σ α).Mute w := by
  cases e with
  | ok a => exact mute_of_ok rfl hi
  | error fault => exact mute_of_error rfl (he fault rfl)

theorem mute_getAttr (v : Value) (name : String) : (getAttr v name : Op σ Value).Mute w := by
  refine mute_bind_of_ok (heap_apply w) ?_
  exact mute_fromExcept hi (w.heap.quiet_attr v name)

theorem mute_literal (v : Value) : (literal v : Op σ String).Mute w := by
  refine mute_bind_of_ok (heap_apply w) ?_
  exact mute_fromExcept hi (w.heap.quiet_literal v)

theorem mute_size (v : Value) : (size v : Op σ Nat).Mute w := by
  refine mute_bind_of_ok (heap_apply w) ?_
  split
  · exact mute_pure hi _
  · exact mute_throw rfl

theorem mute_iterate (v : Value) : (iterate v : Op σ (List Value)).Mute w := by
  unfold iterate
  split
  · exact mute_pure hi _
  · refine mute_bind_of_ok (heap_apply w) ?_
    split
    all_goals first
      | exact mute_pure hi _
      | exact mute_throw rfl

theorem mute_new {o : Object} (ho : o.isCollection = true) : (new o : Op σ Value).Mute w :=
  mute_of_ok (new_apply o w)
    (hi.add (Object.isCallable_of_isCollection ho) (Object.inertIn_of_isCollection ho _))

theorem mute_store {a : Addr} {o o' : Object} (ha : w.heap.get? a = some o)
    (ho' : o'.isCollection = true) : (store a o' : Op σ Unit).Mute w := by
  refine mute_of_ok (store_apply a o' w) (hi.put ha (fun hc ↦ ?_) ?_)
  · rw [Object.isCallable_of_isCollection ho'] at hc
    cases hc
  · exact Object.inertIn_of_isCollection ho' _

theorem mute_setAttr (v : Value) {name : String} {x : Value}
    (hx : name = "parent" ∨ w.heap.callable x = false) : (setAttr v name x : Op σ Unit).Mute w := by
  refine mute_bind_of_ok (heap_apply w) ?_
  split
  · next a e hentity =>
    have hget : w.heap.get? a = some (.entity e) := Heap.get?_of_entity? hentity
    cases hassign : w.heap.assign e name x with
    | error fault => exact mute_of_error rfl (w.heap.quiet_assign e name x fault hassign)
    | ok e' => exact mute_of_ok rfl (hi.assign hget hassign hx)
  · exact mute_throw rfl

/-- An object gets a new collection as an attribute. -/
theorem mute_setAttr_new (v : Value) (name : String) {o : Object} (ho : o.isCollection = true) :
    (do setAttr v name (← new o) : Op σ Unit).Mute w := by
  refine (mute_new hi ho).bind fun r w' hnew hi' ↦ mute_setAttr hi' v (.inr ?_)
  cases hnew
  rw [← Bool.not_eq_true, Heap.callable_ref]
  rintro ⟨p, hget, hp⟩
  rw [Heap.get?_add_fresh] at hget
  cases hget
  rw [Object.isCallable_of_isCollection ho] at hp
  cases hp

end Muteness

end Op

end TagTree
