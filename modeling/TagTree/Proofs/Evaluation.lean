import TagTree.Collection
import TagTree.Guard
import TagTree.Settings.Active

/-!
# Running operations

What the elementary operations answer and leave behind when they are run on a world. Later modules
evaluate an operation by these equations, one step after the other, and never look at how
computations on worlds are put together.

Most operations that succeed change nothing but the heap, and the log on the way. `Gives` says so of
one run, with its answer and the heap it leaves; `Leaves` says the same of a run that may also fail
at the end.
-/

namespace TagTree.Op

variable {σ α β : Type}

/-! ## Putting operations together -/

theorem bind_apply (x : Op σ α) (f : α → Op σ β) (w : World σ) :
    (x >>= f) w =
      match x w with
      | .ok a w' => f a w'
      | .error fault w' => .error fault w' := by
  change EStateM.bind x f w = _
  unfold EStateM.bind
  cases x w <;> rfl

theorem map_apply (f : α → β) (x : Op σ α) (w : World σ) :
    (f <$> x) w =
      match x w with
      | .ok a w' => .ok (f a) w'
      | .error fault w' => .error fault w' := by
  change EStateM.map f x w = _
  unfold EStateM.map
  cases x w <;> rfl

theorem bind_of_ok {x : Op σ α} {w w' : World σ} {a : α} (h : x w = .ok a w') (f : α → Op σ β) :
    (x >>= f) w = f a w' := by
  rw [bind_apply, h]

theorem bind_of_error {x : Op σ α} {w w' : World σ} {fault : Fault}
    (h : x w = .error fault w') (f : α → Op σ β) : (x >>= f) w = .error fault w' := by
  rw [bind_apply, h]

theorem bind_eq_ok {x : Op σ α} {f : α → Op σ β} {w w' : World σ} {b : β} :
    (x >>= f) w = .ok b w' ↔ ∃ a w₁, x w = .ok a w₁ ∧ f a w₁ = .ok b w' := by
  rw [bind_apply]
  cases x w with
  | ok a w₁ =>
    constructor
    · exact fun h ↦ ⟨a, w₁, rfl, h⟩
    · rintro ⟨_, _, hx, hf⟩
      cases hx
      exact hf
  | error fault w₁ => simp

@[simp]
theorem pure_apply (a : α) (w : World σ) : (pure a : Op σ α) w = .ok a w := rfl

@[simp]
theorem throw_apply (fault : Fault) (w : World σ) :
    (throw fault : Op σ α) w = .error fault w := rfl

/-- The world that an operation leaves, whether it succeeds or fails. -/
def after (x : Op σ α) (w : World σ) : World σ :=
  match x w with
  | .ok _ w' => w'
  | .error _ w' => w'

theorem after_of_ok {x : Op σ α} {w w' : World σ} {a : α} (h : x w = .ok a w') :
    x.after w = w' := by
  rw [after, h]

theorem after_of_error {x : Op σ α} {w w' : World σ} {fault : Fault} (h : x w = .error fault w') :
    x.after w = w' := by
  rw [after, h]

/-- The result of an operation, without the world that it leaves. -/
def result (x : Op σ α) (w : World σ) : Except Fault α :=
  match x w with
  | .ok a _ => .ok a
  | .error fault _ => .error fault

theorem result_of_ok {x : Op σ α} {w w' : World σ} {a : α} (h : x w = .ok a w') :
    x.result w = .ok a := by
  rw [result, h]

theorem result_of_error {x : Op σ α} {w w' : World σ} {fault : Fault}
    (h : x w = .error fault w') : x.result w = .error fault := by
  rw [result, h]

theorem result_of_elim {x : Op σ α} {fault? : Option Fault} {a : α} {w w₁ w₂ : World σ}
    (hx : x w = fault?.elim (.ok a w₁) (.error · w₂)) :
    x.result w = fault?.elim (.ok a) .error := by
  cases fault? with
  | some fault => exact result_of_error hx
  | none => exact result_of_ok hx

/-- An operation succeeds with an answer and leaves a heap; apart from the log nothing else
changes. -/
def Gives (x : Op σ α) (w : World σ) (a : α) (h : Heap) : Prop :=
  ∃ log, x w = .ok a { w with heap := h, log := log }

/-- An operation leaves a heap, and apart from the log nothing else changes. -/
def Leaves (x : Op σ α) (w : World σ) (h : Heap) : Prop :=
  ∃ log, x.after w = { w with heap := h, log := log }

theorem gives_of_ok {x : Op σ α} {w : World σ} {a : α} {h : Heap}
    (hx : x w = .ok a { w with heap := h }) : x.Gives w a h :=
  ⟨w.log, hx⟩

theorem Gives.leaves {x : Op σ α} {w : World σ} {a : α} {h : Heap} (hx : x.Gives w a h) :
    x.Leaves w h := by
  obtain ⟨log, hx⟩ := hx
  exact ⟨log, after_of_ok hx⟩

/-! ## Elementary operations -/

@[simp]
theorem heap_apply (w : World σ) : (heap : Op σ Heap) w = .ok w.heap w := rfl

@[simp]
theorem get_apply (w : World σ) : (get : Op σ (World σ)) w = .ok w w := rfl

@[simp]
theorem new_apply (o : Object) (w : World σ) :
    (new o : Op σ Value) w = .ok (.ref w.heap.fresh) { w with heap := w.heap.add o } := rfl

@[simp]
theorem store_apply (a : Addr) (o : Object) (w : World σ) :
    (store a o : Op σ Unit) w = .ok () { w with heap := w.heap.put a o } := rfl

@[simp]
theorem debug_apply (logger text : String) (w : World σ) :
    (debug logger text : Op σ Unit) w =
      .ok () { w with log := w.log.message logger 10 text } := rfl

@[simp]
theorem fromExcept_ok_apply (a : α) (w : World σ) :
    (fromExcept (.ok a) : Op σ α) w = .ok a w := rfl

@[simp]
theorem fromExcept_error_apply (fault : Fault) (w : World σ) :
    (fromExcept (.error fault) : Op σ α) w = .error fault w := rfl

@[simp]
theorem capability_apply (v : Value) (name : String) (w : World σ) :
    (capability v name : Op σ (Option Value)) w = .ok (w.heap.capability v name) w := rfl

theorem getAttr_of_attr? {w : World σ} {v x : Value} {name : String}
    (h : w.heap.attr? v name = some x) (hfirst : name ≠ "first") (hlast : name ≠ "last") :
    (getAttr v name : Op σ Value) w = .ok x w := by
  cases he : w.heap.entity? v <;>
    simp [getAttr, bind_apply, Heap.attr, he, h, hfirst, hlast]

/-! ## Guards -/

theorem require_apply_true {condition : Bool} (h : condition = true) (label : String)
    (shape : Shape) (w : World σ) : (require condition label shape : Op σ Unit) w = .ok () w := by
  simp [require, h]

theorem require_apply_false {condition : Bool} (h : condition = false) (label : String)
    (shape : Shape) (w : World σ) :
    (require condition label shape : Op σ Unit) w =
      .error (.argument (.expected label shape) (.str label)) w := by
  simp [require, h]

theorem requireNode_apply {v : Value} {w : World σ} (h : w.heap.isNode v = true)
    (label : String) : (requireNode v label : Op σ Unit) w = .ok () w :=
  require_apply_true h label _ w

theorem requireFunction_apply {v : Value} {w : World σ} (h : w.heap.callable v = true)
    (label : String) : (requireFunction v label : Op σ Unit) w = .ok () w :=
  require_apply_true h label _ w

theorem requireState_apply {v : Value} {w : World σ} (h : w.heap.isState v = true)
    (label : String) : (requireState v label : Op σ Unit) w = .ok () w :=
  require_apply_true h label _ w

theorem requireList_apply {v : Value} {w : World σ}
    (h : v = .null ∨ (w.heap.list? v).isSome = true) (label : String) :
    (requireList v label true : Op σ Unit) w = .ok () w := by
  apply require_apply_true
  rcases h with rfl | h
  · simp
  · simp [h]

theorem requireSequence_apply {v : Value} {w : World σ}
    (h : (w.heap.sequence? v).isSome = true) (label : String) (orNull : Bool) :
    (requireSequence v label orNull : Op σ Unit) w = .ok () w := by
  apply require_apply_true
  simp [h]

/-! ## Lists -/

section Lists

variable {w : World σ} {l : Addr} {items : List Value}

theorem append_apply (h : w.heap.get? l = some (.list items)) (call : Caller σ) (item : Value) :
    append call (.ref l) item w =
      .ok () { w with heap := w.heap.put l (.list (items ++ [item])) } := by
  simp [append, bind_apply, Heap.list?, Heap.object?, h]

theorem prepend_apply (h : w.heap.get? l = some (.list items)) (call : Caller σ) (item : Value) :
    prepend call (.ref l) item w =
      .ok () { w with heap := w.heap.put l (.list (item :: items)) } := by
  simp [prepend, bind_apply, Heap.list?, Heap.object?, h]

theorem popLast_apply (h : w.heap.get? l = some (.list items)) (call : Caller σ) :
    popLast call (.ref l) w =
      .ok (items.getLast?.getD .null)
        { w with heap := w.heap.put l (.list items.dropLast) } := by
  simp [popLast, bind_apply, map_apply, Heap.object?, h]

theorem popAt_apply (h : w.heap.get? l = some (.list items)) (call : Caller σ) (index : Nat) :
    popAt call (.ref l) index w =
      .ok (items[index]?.getD .null)
        { w with heap := w.heap.put l (.list (items.eraseIdx index)) } := by
  simp [popAt, bind_apply, map_apply, Heap.object?, h]

theorem size_apply (h : w.heap.get? l = some (.list items)) :
    (size (.ref l) : Op σ Nat) w = .ok items.length w := by
  simp [size, bind_apply, Heap.size?, Heap.object?, h]

theorem iterate_apply (h : w.heap.get? l = some (.list items)) :
    (iterate (.ref l) : Op σ (List Value)) w = .ok items w := by
  simp [iterate, bind_apply, Heap.object?, h]

theorem itemAt?_apply (h : w.heap.get? l = some (.list items)) (index : Nat) :
    (itemAt? (.ref l) index : Op σ (Option Value)) w = .ok items[index]? w := by
  simp [itemAt?, bind_apply, Heap.sequence?, Heap.object?, h]

end Lists

end TagTree.Op

namespace TagTree.Heap

variable {h : Heap} {l : Addr} {items : List Value}

theorem list?_of_get? (hl : h.get? l = some (.list items)) : h.list? (.ref l) = some items := by
  simp [list?, object?, hl]

theorem get?_of_list? {v : Value} (hv : h.list? v = some items) :
    ∃ l, v = .ref l ∧ h.get? l = some (.list items) := by
  cases v with
  | ref l =>
    refine ⟨l, rfl, ?_⟩
    unfold list? object? at hv
    split at hv <;> simp_all
  | _ => simp [list?, object?] at hv

theorem dict?_of_get? {entries : List (Value × Value)} (hl : h.get? l = some (.dict entries)) :
    h.dict? (.ref l) = some entries := by
  simp [dict?, object?, hl]

theorem get?_of_dict? {v : Value} {entries : List (Value × Value)}
    (hv : h.dict? v = some entries) : ∃ a, v = .ref a ∧ h.get? a = some (.dict entries) := by
  cases v with
  | ref a =>
    refine ⟨a, rfl, ?_⟩
    unfold dict? object? at hv
    split at hv <;> simp_all
  | _ => simp [dict?, object?] at hv

theorem truthy_list (hl : h.get? l = some (.list items)) :
    h.truthy (.ref l) = !items.isEmpty := by
  simp [truthy, hl]

end TagTree.Heap

/-! ## Settings -/

namespace TagTree.World

variable {σ : Type}

/-- The settings in force are the given ones. -/
def Uses (w : World σ) (s : Settings) : Prop :=
  match w.active with
  | none => s = {}
  | some a => w.heap.get? a = some (.entity ⟨.settings, s.toAttrs, .absent⟩)

variable {w : World σ} {s : Settings}

theorem Uses.settings_eq (hw : w.Uses s) : w.settings = s.toAttrs := by
  unfold Uses at hw
  cases hactive : w.active with
  | none =>
    simp only [hactive] at hw
    simp [settings, hactive, hw]
  | some a =>
    simp only [hactive] at hw
    simp [settings, hactive, Heap.entity?, Heap.object?, hw]

theorem Uses.openSuffix_apply (hw : w.Uses s) :
    (Op.openSuffix : Op σ Value) w = .ok (.str s.openSuffix) w := by
  simp [Op.openSuffix, Op.setting, Op.bind_apply, hw.settings_eq, Settings.toAttrs,
    Settings.toTable, Table.get?_cons]

theorem Uses.closeSuffix_apply (hw : w.Uses s) :
    (Op.closeSuffix : Op σ Value) w = .ok (.str s.closeSuffix) w := by
  simp [Op.closeSuffix, Op.setting, Op.bind_apply, hw.settings_eq, Settings.toAttrs,
    Settings.toTable, Table.get?_cons]

end TagTree.World
