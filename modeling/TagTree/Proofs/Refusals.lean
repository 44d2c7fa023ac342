import TagTree.Catalogue
import TagTree.Payload
import TagTree.Proofs.Phases
import TagTree.Proofs.Sentinels

/-!
# Refusals

When an operation on trees or nesting states refuses what it is asked, every object is as it was
before: children and parents, payloads, and the stacks of entered nodes. This does not hold of other
faults, which may strike when half of the work is done.

The objects may have any shape. They may lack attributes, and something else may stand in the place
of a list or a mapping, which then is asked by name and asks others in turn. All of this is mute, as
long as no attribute brings code of its own.
-/

namespace TagTree

namespace Op

variable {σ α β : Type}

/-! ## Asking by name -/

theorem list?_eq_none {h : Heap} {v : Value}
    (hv : ∀ a items, v = .ref a → h.list? v ≠ some items) : h.list? v = none := by
  cases hlist : h.list? v with
  | none => rfl
  | some items =>
    obtain ⟨a, rfl, -⟩ := Heap.get?_of_list? hlist
    exact absurd hlist (hv a items rfl)

theorem list?_eq_none_of_object? {h : Heap} {v : Value}
    (hv : ∀ a items, v = .ref a → h.object? v ≠ some (.list items)) : h.list? v = none := by
  refine list?_eq_none fun a items hva hlist ↦ ?_
  obtain ⟨b, rfl, hget⟩ := Heap.get?_of_list? hlist
  exact hv b items rfl hget

section Asking

variable {w : World σ} (hi : w.heap.Inert) (foreign : Caller σ) (fuel : Nat)
include hi

omit hi in
theorem mute_invoke_of_not_callable {x : Value} (hx : w.heap.callable x = false)
    (args : List Value) (named : Table Value) : (invoke foreign fuel x args named).Mute w := by
  obtain ⟨fault, hcall, hfault⟩ := invoke_of_not_callable hx foreign fuel args named
  exact mute_of_error hcall hfault

omit hi in
/-- An ability that is called with the arguments it takes. -/
theorem mute_invoke_method {a : Addr} {m : Method} {args : List Value}
    (hargs : m.signature.bind args [] = .ok args)
    (hrun : ∀ fuel, (m.run (invoke foreign fuel) fuel (.ref a) args).Mute w) :
    (invoke foreign fuel (.method a m) args []).Mute w := by
  cases fuel with
  | zero => exact mute_throw rfl
  | succ fuel =>
    rw [Mute, invoke_method foreign fuel a hargs w]
    exact hrun fuel

omit hi in
theorem clean_invoke_method {a : Addr} {m : Method} {args : List Value}
    (hargs : m.signature.bind args [] = .ok args)
    (hrun : ∀ fuel, (m.run (invoke foreign fuel) fuel (.ref a) args).Clean w) :
    (invoke foreign fuel (.method a m) args []).Clean w := by
  cases fuel with
  | zero => exact (mute_throw rfl).clean
  | succ fuel =>
    rw [Clean, invoke_method foreign fuel a hargs w]
    exact hrun fuel

/-- An attribute that can be called is known by its name, unless it is the first or last child. -/
theorem getAttr_callable_cases {v x : Value} {name : String} (hparent : name ≠ "parent")
    (hfirst : name ≠ "first") (hlast : name ≠ "last")
    (hrun : (getAttr v name : Op σ Value) w = .ok x w) (hx : w.heap.callable x = true) :
    (∃ a, v = .ref a ∧ Heap.smartMember? a name = some x) ∨
    (∃ a items, v = .ref a ∧ w.heap.get? a = some (.list items) ∧
      (Method.ofListName? name).map (.method a) = some x) ∨
    v = .maker .smart ∧ Heap.makerMember? name = some x := by
  have hattr : w.heap.attr? v name = some x := by
    change (fromExcept (w.heap.attr v name) : Op σ Value) w = _ at hrun
    unfold Heap.attr at hrun
    simp only [hfirst, hlast, and_false, if_false] at hrun
    cases hv : w.heap.attr? v name with
    | none => cases he : w.heap.entity? v <;> rw [he, hv] at hrun <;> cases hrun
    | some y => cases he : w.heap.entity? v <;> rw [he, hv] at hrun <;> cases hrun <;> rfl
  rcases hi.member_of_callable hparent hattr hx with ⟨a, -, hv, -, -, hmember⟩ | hlist | hmaker
  · exact .inl ⟨a, hv, hmember⟩
  · exact .inr (.inl hlist)
  · exact .inr (.inr hmaker)

/-- Something is asked for what no kind of object offers. -/
theorem mute_callAttr {v : Value} {name : String} (hname : name ∉ Node.reservedNames)
    (hlist : Method.ofListName? name = none ∨ w.heap.list? v = none) (args : List Value) :
    (callAttr (invoke foreign fuel) v name args).Mute w := by
  have hparent : name ≠ "parent" := by rintro rfl; exact hname (by decide)
  have hfirst : name ≠ "first" := by rintro rfl; exact hname (by decide)
  have hlast : name ≠ "last" := by rintro rfl; exact hname (by decide)
  have hmark : name ≠ "is_node" := by rintro rfl; exact hname (by decide)
  have hloader : name ≠ "from_dict" := by rintro rfl; exact hname (by decide)
  have hmethod : Method.ofName? name = none := by
    cases hm : Method.ofName? name with
    | none => rfl
    | some m => exact absurd (Method.ofName?_mem hm) hname
  refine (reads_getAttr w v name).bind_mute (mute_getAttr hi v name) fun x hrun ↦ ?_
  refine mute_invoke_of_not_callable foreign fuel (Bool.eq_false_iff.mpr fun hx ↦ ?_) args []
  rcases getAttr_callable_cases hi hparent hfirst hlast hrun hx with
    ⟨a, -, hmember⟩ | ⟨a, items, rfl, hget, hmember⟩ | ⟨-, hmember⟩
  · simp [Heap.smartMember?, hmark, hloader, hmethod] at hmember
  · rcases hlist with hnone | hnone
    · rw [hnone] at hmember
      cases hmember
    · rw [Heap.list?_of_get? hget] at hnone
      cases hnone
  · simp only [Heap.makerMember?, hmark, hloader, hparent, hmethod, if_false] at hmember
    split at hmember <;> cases hmember
    cases hx

theorem mute_popLast {call : Caller σ} {v : Value}
    (hpop : w.heap.list? v = none → (callAttr call v "pop" []).Mute w) :
    (popLast call v).Mute w := by
  refine mute_bind_of_ok (heap_apply w) ?_
  split
  · next a items hget =>
    exact (mute_store hi hget (by rfl)).bind fun _ w' _ hi' ↦ mute_pure hi' _
  · next a items hget =>
    exact (mute_store hi hget (by rfl)).bind fun _ w' _ hi' ↦ mute_pure hi' _
  · exact mute_throw rfl
  · exact hpop (list?_eq_none_of_object? ‹_›)

theorem mute_popAt {call : Caller σ} {v : Value} {index : Nat}
    (hpop : w.heap.list? v = none → (callAttr call v "pop" [.int index]).Mute w) :
    (popAt call v index).Mute w := by
  refine mute_bind_of_ok (heap_apply w) ?_
  split
  · next a items hget =>
    exact (mute_store hi hget (by rfl)).bind fun _ w' _ hi' ↦ mute_pure hi' _
  · next a entries hget =>
    dsimp only
    split
    · exact mute_throw rfl
    · exact (mute_store hi hget (by rfl)).bind fun _ w' _ hi' ↦ mute_pure hi' _
  · exact mute_throw rfl
  · exact hpop (list?_eq_none_of_object? ‹_›)

omit hi in
/-- Something that is no list is asked to give up an item. It may be a smart node, which then asks
its own children in the same way. -/
theorem mute_callPop (hi : w.heap.Inert) {v : Value} (hlist : w.heap.list? v = none)
    (args : List Value) : (callAttr (invoke foreign fuel) v "pop" args).Mute w := by
  induction fuel generalizing w v args with
  | zero =>
    exact (reads_getAttr w v "pop").bind_mute (mute_getAttr hi v "pop") fun _ _ ↦ mute_throw rfl
  | succ fuel ih =>
    -- An ability that is called looks at the children and pops from them.
    have hability : ∀ self rest,
        (Method.run (invoke foreign fuel) fuel self .pop rest).Mute w := by
      intro self rest
      cases rest with
      | cons _ _ => exact mute_throw rfl
      | nil =>
        refine (reads_getAttr w self "nodes").bind_mute (mute_getAttr hi self "nodes") fun x _ ↦ ?_
        refine mute_bind_of_ok (heap_apply w) ?_
        split
        · exact mute_popLast hi fun hnone ↦ ih hi hnone []
        · exact mute_pure hi _
    refine (reads_getAttr w v "pop").bind_mute (mute_getAttr hi v "pop") fun x hrun ↦ ?_
    by_cases hx : w.heap.callable x = true
    · rcases getAttr_callable_cases hi (by decide) (by decide) (by decide) hrun hx with
        ⟨a, -, hmember⟩ | ⟨a, items, rfl, hget, -⟩ | ⟨-, hmember⟩
      · cases hmember
        exact (reads_fromExcept w _).bind_mute
          (mute_fromExcept hi (Signature.quiet_assign _ _ _)) fun rest _ ↦ hability _ rest
      · rw [Heap.list?_of_get? hget] at hlist
        cases hlist
      · cases hmember
        refine (reads_fromExcept w _).bind_mute
          (mute_fromExcept hi (Signature.quiet_assign _ _ _)) fun rest _ ↦ ?_
        cases rest with
        | nil => exact mute_throw rfl
        | cons self rest => exact hability self rest
    · exact mute_invoke_of_not_callable foreign (fuel + 1) (Bool.eq_false_iff.mpr hx) args []

end Asking

/-! ## Mute operations on lists, mappings and parents -/

section Changing

variable {w : World σ} (hi : w.heap.Inert) (foreign : Caller σ) (fuel : Nat)
include hi

theorem mute_place {place : Value → Op σ Unit} {edit : List Value → List Value} {name : String}
    {args : List Value} (hplace : Places (invoke foreign fuel) place edit name args)
    (hname : name ∉ Node.reservedNames) (v : Value) : (place v).Mute w := by
  cases hlist : w.heap.list? v with
  | some items =>
    obtain ⟨a, rfl, hget⟩ := Heap.get?_of_list? hlist
    have hstore : (store a (.list (edit items)) : Op σ Unit).Mute w := mute_store hi hget rfl
    rwa [Mute, hplace.edits w a items hget]
  | none =>
    have hcall := mute_callAttr hi foreign fuel hname (.inr hlist) args
    rw [Mute, hplace.asks w v hlist]
    exact hcall.bind fun _ _ _ hi' ↦ mute_pure hi' _

theorem mute_append (v item : Value) : (append (invoke foreign fuel) v item).Mute w :=
  mute_place hi foreign fuel (append_places _ item) (by decide) v

theorem mute_lookup (v : Value) (key : String) : (lookup (invoke foreign fuel) v key).Mute w := by
  refine mute_bind_of_ok (heap_apply w) ?_
  split
  · exact mute_pure hi _
  · exact mute_callAttr hi foreign fuel (by decide) (.inl rfl) _

theorem mute_lookupOrAdd (v : Value) (key : String) :
    (lookupOrAdd (invoke foreign fuel) v key).Mute w := by
  refine mute_bind_of_ok (heap_apply w) ?_
  split
  · next a entries hdict =>
    split
    · exact mute_pure hi _
    · refine (mute_new hi rfl).bind fun stack w' hnew hi' ↦ ?_
      have hget : w'.heap.get? a = some (.dict entries) := by
        obtain ⟨b, hb, hget⟩ := Heap.get?_of_dict? hdict
        cases hb
        cases hnew
        exact (Heap.extends_add _ _).found hget
      exact (mute_store hi' hget rfl).bind fun _ _ _ hi'' ↦ mute_pure hi'' _
  · exact (mute_new hi rfl).bind fun stack w' _ hi' ↦
      mute_callAttr hi' foreign fuel (by decide) (.inl rfl) _

/-- A node is told about its parent. -/
theorem mute_linkParent {child : Value} (hnode : w.heap.isNode child = true) (parent : Value) :
    (linkParent (invoke foreign fuel) child parent).Mute w := by
  refine mute_bind_of_ok (capability_apply child "define" w) ?_
  split
  · next define hdefine =>
    obtain ⟨a, rfl, hmember⟩ := hi.capability_of_isNode hnode (by decide) hdefine
    cases hmember
    refine Mute.bind ?_ fun _ _ _ hi' ↦ mute_pure hi' _
    refine mute_invoke_method foreign fuel rfl fun fuel ↦ ?_
    exact (mute_setAttr hi (.ref a) (.inl rfl)).bind fun _ _ _ hi' ↦ mute_pure hi' _
  · exact mute_setAttr hi child (.inl rfl)

theorem mute_typeText (node : Value) : (Tree.typeText node : Op σ String).Mute w :=
  mute_bind_of_ok (heap_apply w) (mute_literal hi _)

end Changing

/-! ## Guards -/

section Guards

variable {w w' : World σ} {x : Op σ α} {f : α → Op σ β} {a : α}

theorem clean_bind_of_ok (hx : x w = .ok a w) (hf : (f a).Clean w) : (x >>= f).Clean w :=
  Reads.bind_clean (after_of_ok hx) fun b hb ↦ by
    rw [hx] at hb
    cases hb
    exact hf

/-- What follows a guard may rely on its condition. -/
theorem clean_guard (condition : Heap → Bool) {label : String} {shape : Shape} {f : Unit → Op σ β}
    (hf : condition w.heap = true → (f ()).Clean w) :
    ((do require (condition (← heap)) label shape) >>= f).Clean w := by
  refine Reads.bind_clean ?_ fun _ hrun ↦ hf (require_eq_ok w hrun)
  exact (reads_heap w).bind fun _ _ ↦ reads_require w _ _ _

variable {v : Value} {label : String} {next : Unit → Op σ β}

theorem clean_requireNode (hnext : w.heap.isNode v = true → (next ()).Clean w) :
    (requireNode v label >>= next).Clean w :=
  clean_guard (·.isNode v) hnext

theorem clean_requireState (hnext : (next ()).Clean w) :
    (requireState v label >>= next).Clean w :=
  clean_guard (·.isState v) fun _ ↦ hnext

theorem clean_requireList {orNull : Bool}
    (hnext : (w.heap.list? v).isSome = true ∨ orNull = true → (next ()).Clean w) :
    (requireList v label orNull >>= next).Clean w := by
  refine clean_guard (fun h ↦ (h.list? v).isSome || (orNull && v == .null)) fun h ↦ hnext ?_
  simp only [Bool.or_eq_true, Bool.and_eq_true] at h
  exact h.imp_right And.left

theorem clean_requireSequence {orNull : Bool} (hnext : (next ()).Clean w) :
    (requireSequence v label orNull >>= next).Clean w :=
  clean_guard (fun h ↦ (h.sequence? v).isSome || (orNull && v == .null)) fun _ ↦ hnext

end Guards

end Op

open Op

variable {σ : Type} {w : World σ} (hi : w.heap.Inert) (foreign : Caller σ) (fuel : Nat)

/-! ## Abilities of smart nodes -/

namespace Smart

include hi

theorem clean_adopt (self node : Value) :
    (Smart.adopt (invoke foreign fuel) self node).Clean w := by
  refine clean_requireNode fun hnode ↦ Mute.clean ?_
  refine (mute_linkParent hi foreign fuel hnode self).bind fun _ w₁ _ hi₁ ↦ ?_
  refine (mute_getAttr hi₁ self "nodes").bind fun nodes w₂ _ hi₂ ↦ ?_
  split
  · exact mute_setAttr_new hi₂ self "nodes" rfl
  · exact mute_pure hi₂ _

theorem mute_count (self : Value) :
    (do return .int (← size (← Smart.children self)) : Op σ Value).Mute w := by
  refine (mute_getAttr hi self "nodes").bind fun nodes w₁ _ hi₁ ↦ ?_
  exact (mute_size hi₁ nodes).bind fun _ w₂ _ hi₂ ↦ mute_pure hi₂ _

/-- What the two abilities to add a child have in common. -/
theorem clean_add {place : Value → Op σ Unit} {edit : List Value → List Value} {name : String}
    {args : List Value} (hplace : Places (invoke foreign fuel) place edit name args)
    (hname : name ∉ Node.reservedNames) (self node : Value) :
    (do
      Smart.adopt (invoke foreign fuel) self node
      place (← Smart.children self)
      return .int (← size (← Smart.children self)) : Op σ Value).Clean w := by
  refine (clean_adopt hi foreign fuel self node).bind_mute fun _ w₁ _ hi₁ ↦ ?_
  refine (mute_getAttr hi₁ self "nodes").bind fun nodes w₂ _ hi₂ ↦ ?_
  exact (mute_place hi₂ foreign fuel hplace hname nodes).bind fun _ w₃ _ hi₃ ↦ mute_count hi₃ self

theorem clean_push (self node : Value) : (Smart.push (invoke foreign fuel) self node).Clean w :=
  clean_add hi foreign fuel (append_places _ node) (by decide) self node

theorem clean_unshift (self node : Value) :
    (Smart.unshift (invoke foreign fuel) self node).Clean w :=
  clean_add hi foreign fuel (prepend_places _ node) (by decide) self node

/-- What the two abilities to take a child out have in common. -/
theorem mute_take {take : Value → Op σ Value}
    (htake : ∀ (w : World σ) (v : Value), w.heap.Inert → (take v).Mute w) (self : Value) :
    (do
      let nodes ← Smart.children self
      if (← heap).truthy nodes then take nodes else return .null : Op σ Value).Mute w := by
  refine (mute_getAttr hi self "nodes").bind fun nodes w₁ _ hi₁ ↦ ?_
  refine mute_bind_of_ok (heap_apply w₁) ?_
  split
  · exact htake w₁ nodes hi₁
  · exact mute_pure hi₁ _

theorem mute_pop (self : Value) : (Smart.pop (invoke foreign fuel) self).Mute w :=
  mute_take hi (fun _ _ hi₁ ↦ mute_popLast hi₁ (mute_callPop foreign fuel hi₁ · _)) self

theorem mute_shift (self : Value) : (Smart.shift (invoke foreign fuel) self).Mute w :=
  mute_take hi (fun _ _ hi₁ ↦ mute_popAt hi₁ (mute_callPop foreign fuel hi₁ · _)) self

theorem mute_remove (self node : Value) :
    (Smart.remove (invoke foreign fuel) self node).Mute w := by
  refine (mute_getAttr hi self "nodes").bind fun nodes w₁ _ hi₁ ↦ ?_
  refine mute_bind_of_ok (heap_apply w₁) ?_
  split
  · exact mute_pure hi₁ _
  · refine (mute_iterate hi₁ nodes).bind fun items w₂ _ hi₂ ↦ ?_
    split
    · exact mute_popAt hi₂ fun hnone ↦ mute_callPop foreign fuel hi₂ hnone _
    · exact mute_pure hi₂ _

theorem mute_has (self node : Value) : (Smart.has self node : Op σ Bool).Mute w := by
  refine (mute_getAttr hi self "nodes").bind fun nodes w₁ _ hi₁ ↦ ?_
  refine mute_bind_of_ok (heap_apply w₁) ?_
  split
  · exact mute_pure hi₁ _
  · exact (mute_iterate hi₁ nodes).bind fun _ w₂ _ hi₂ ↦ mute_pure hi₂ _

end Smart

/-! ## Editing children -/

namespace Tree

include hi

theorem clean_attach {node : Value} (hnode : w.heap.isNode node = true) (parent : Value) :
    (Tree.attach (invoke foreign fuel) parent node).Clean w := by
  refine clean_bind_of_ok (heap_apply w) ?_
  refine clean_requireList fun _ ↦ Mute.clean ?_
  refine (mute_linkParent hi foreign fuel hnode parent).bind fun _ w₁ _ hi₁ ↦ ?_
  refine mute_bind_of_ok (heap_apply w₁) ?_
  split
  · exact mute_setAttr_new hi₁ parent "nodes" rfl
  · exact mute_pure hi₁ _

/-- What a node can be asked for under one of several names is an ability of smart nodes. -/
theorem ability_of_firstCapability {v x : Value} {names : List String}
    (hv : w.heap.isNode v = true) (hnames : "parent" ∉ names)
    (hx : Tree.firstCapability w.heap v names = some x) :
    ∃ a, v = .ref a ∧ ∃ name ∈ names, Heap.smartMember? a name = some x := by
  obtain ⟨name, hmem, hcapability⟩ := List.exists_of_findSome?_eq_some hx
  have hn : name ≠ "parent" := fun h ↦ hnames (h ▸ hmem)
  obtain ⟨a, rfl, hmember⟩ := hi.capability_of_isNode hv hn hcapability
  exact ⟨a, rfl, name, hmem, hmember⟩

/-- The last step of adding a child. -/
theorem mute_report (parent node : Value) (text : String → String → String) :
    (do
      debug Tree.editLogger (text (← Tree.typeText node) (← Tree.typeText parent))
      return .int (← size (← getAttr parent "nodes")) : Op σ Value).Mute w := by
  refine (mute_typeText hi node).bind fun _ w₁ _ hi₁ ↦ ?_
  refine (mute_typeText hi₁ parent).bind fun _ w₂ _ hi₂ ↦ ?_
  refine (mute_debug hi₂ _ _).bind fun _ w₃ _ hi₃ ↦ ?_
  exact Smart.mute_count hi₃ parent

/-- A parent that can be asked to add a child under one of two names is a smart node, and has the
ability under the first of them. -/
theorem clean_ability {parent ability node : Value} {name other : String} {m : Method}
    (hparent : w.heap.isNode parent = true) (hnames : "parent" ∉ [name, other])
    (hability : Tree.firstCapability w.heap parent [name, other] = some ability)
    (hname : ∀ a, Heap.smartMember? a name = some (.method a m))
    (hother : ∀ a, Heap.smartMember? a other = none)
    (hargs : m.signature.bind [node] [] = .ok [node])
    (hrun : ∀ a fuel, (m.run (invoke foreign fuel) fuel (.ref a) [node]).Clean w) :
    (invoke foreign fuel ability [node] []).Clean w := by
  obtain ⟨a, rfl, found, hmem, hmember⟩ :=
    ability_of_firstCapability hi hparent hnames hability
  obtain rfl : ability = .method a m := by
    rw [List.mem_cons, List.mem_singleton] at hmem
    rcases hmem with rfl | rfl
    · exact Option.some.inj (hmember.symm.trans (hname a))
    · cases hmember.symm.trans (hother a)
  exact clean_invoke_method foreign fuel hargs (hrun a)

/-- A parent that cannot be asked has the child added. -/
theorem clean_add {place : Value → Op σ Unit} {edit : List Value → List Value} {name : String}
    {args : List Value} (hplace : Places (invoke foreign fuel) place edit name args)
    (hname : name ∉ Node.reservedNames) {node : Value} (hnode : w.heap.isNode node = true)
    (parent : Value) (text : String → String → String) :
    (do
      Tree.attach (invoke foreign fuel) parent node
      place (← getAttr parent "nodes")
      debug Tree.editLogger (text (← Tree.typeText node) (← Tree.typeText parent))
      return .int (← size (← getAttr parent "nodes")) : Op σ Value).Clean w := by
  refine (clean_attach hi foreign fuel hnode parent).bind_mute fun _ w₁ _ hi₁ ↦ ?_
  refine (mute_getAttr hi₁ parent "nodes").bind fun nodes w₂ _ hi₂ ↦ ?_
  exact (mute_place hi₂ foreign fuel hplace hname nodes).bind fun _ w₃ _ hi₃ ↦
    mute_report hi₃ parent node text

theorem clean_push (parent node : Value) :
    (Tree.push (invoke foreign fuel) parent node).Clean w := by
  refine clean_requireNode fun hparent ↦ clean_requireNode fun hnode ↦ ?_
  refine clean_bind_of_ok (heap_apply w) ?_
  split
  · next ability hability =>
    exact clean_ability hi foreign fuel hparent (by decide) hability (fun _ ↦ rfl) (fun _ ↦ rfl) rfl
      fun a fuel ↦ Smart.clean_push hi foreign fuel (.ref a) node
  · exact clean_add hi foreign fuel (append_places _ node) (by decide) hnode parent
      fun child parent ↦ "Pushed " ++ child ++ " onto " ++ parent

theorem clean_unshift (parent node : Value) :
    (Tree.unshift (invoke foreign fuel) parent node).Clean w := by
  refine clean_requireNode fun hparent ↦ clean_requireNode fun hnode ↦ ?_
  refine clean_bind_of_ok (heap_apply w) ?_
  split
  · next ability hability =>
    exact clean_ability hi foreign fuel hparent (by decide) hability (fun _ ↦ rfl) (fun _ ↦ rfl) rfl
      fun a fuel ↦ Smart.clean_unshift hi foreign fuel (.ref a) node
  · exact clean_add hi foreign fuel (prepend_places _ node) (by decide) hnode parent
      fun child parent ↦ "Unshifted " ++ child ++ " onto " ++ parent

/-- A parent that cannot be asked has a child taken out. -/
theorem clean_take {take : Value → Op σ Value} (htake : ∀ v, (take v).Mute w) (node : Value) :
    (do
      let nodes := (← heap).attrOrNull node "nodes"
      requireList nodes "node.nodes" true
      if (← heap).truthy nodes then take nodes else return .null : Op σ Value).Clean w := by
  refine clean_bind_of_ok (heap_apply w) (clean_requireList fun _ ↦ ?_)
  refine (mute_bind_of_ok (heap_apply w) ?_).clean
  split
  · exact htake _
  · exact mute_pure hi _

theorem clean_pop (node : Value) : (Tree.pop (invoke foreign fuel) node).Clean w := by
  refine clean_requireNode fun hnode ↦ ?_
  refine clean_bind_of_ok (capability_apply node "pop" w) ?_
  split
  · next ability hability =>
    obtain ⟨a, rfl, hmember⟩ := hi.capability_of_isNode hnode (by decide) hability
    cases hmember
    refine (mute_invoke_method foreign fuel rfl fun fuel ↦ ?_).clean
    exact Smart.mute_pop hi foreign fuel _
  · exact clean_take hi (fun _ ↦ mute_popLast hi (mute_callPop foreign fuel hi · _)) node

theorem clean_shift (node : Value) : (Tree.shift (invoke foreign fuel) node).Clean w := by
  refine clean_requireNode fun hnode ↦ ?_
  refine clean_bind_of_ok (capability_apply node "shift" w) ?_
  split
  · next ability hability =>
    obtain ⟨a, rfl, hmember⟩ := hi.capability_of_isNode hnode (by decide) hability
    cases hmember
    refine (mute_invoke_method foreign fuel rfl fun fuel ↦ ?_).clean
    exact Smart.mute_shift hi foreign fuel _
  · exact clean_take hi (fun _ ↦ mute_popAt hi (mute_callPop foreign fuel hi · _)) node

theorem clean_remove (parent node : Value) :
    (Tree.remove (invoke foreign fuel) parent node).Clean w := by
  refine clean_requireNode fun hparent ↦ ?_
  refine clean_requireNode fun _ ↦ ?_
  refine clean_bind_of_ok (heap_apply w) ?_
  refine clean_requireList fun _ ↦ ?_
  refine Mute.clean (mute_bind_of_ok (capability_apply parent "remove" w) ?_)
  split
  · next ability hability =>
    obtain ⟨a, rfl, hmember⟩ := hi.capability_of_isNode hparent (by decide) hability
    cases hmember
    refine mute_invoke_method foreign fuel rfl fun fuel ↦ ?_
    exact Smart.mute_remove hi foreign fuel _ node
  · refine mute_bind_of_ok (heap_apply w) (mute_bind_of_ok (heap_apply w) ?_)
    split
    · exact mute_pure hi _
    · refine (mute_iterate hi _).bind fun items w₁ _ hi₁ ↦ ?_
      split
      · exact mute_pure hi₁ _
      · refine (mute_typeText hi₁ node).bind fun _ w₂ _ hi₂ ↦ ?_
        refine (mute_typeText hi₂ parent).bind fun _ w₃ _ hi₃ ↦ ?_
        refine (mute_debug hi₃ _ _).bind fun _ w₄ _ hi₄ ↦ ?_
        exact mute_popAt hi₄ fun hnone ↦ mute_callPop foreign fuel hi₄ hnone _

theorem clean_has (node child : Value) : (Tree.has (invoke foreign fuel) node child).Clean w := by
  refine clean_requireNode fun hnode ↦ ?_
  refine clean_requireNode fun _ ↦ ?_
  refine clean_bind_of_ok (capability_apply node "has" w) ?_
  split
  · next ability hability =>
    obtain ⟨a, rfl, hmember⟩ := hi.capability_of_isNode hnode (by decide) hability
    cases hmember
    refine Mute.clean (Mute.bind (mute_invoke_method foreign fuel rfl fun fuel ↦ ?_)
      fun _ w₁ _ hi₁ ↦ mute_bind_of_ok (heap_apply w₁) (mute_pure hi₁ _))
    exact (Smart.mute_has hi _ child).bind fun _ _ _ hi₁ ↦ mute_pure hi₁ _
  · refine clean_bind_of_ok (heap_apply w) ?_
    dsimp only
    split
    · exact (mute_pure hi _).clean
    · refine clean_requireSequence ?_
      exact Mute.clean ((mute_iterate hi _).bind fun _ _ _ hi₁ ↦ mute_pure hi₁ _)

end Tree

/-! ## Payloads -/

namespace Payload

include hi

/-- A node without children becomes an empty text node. -/
theorem mute_becomeText (node : Value) :
    (do
      setAttr node "type" (.str "text")
      setAttr node "value" (.str "")
      if ((← heap).attr? node "val").isSome then setAttr node "val" (.str "") : Op σ Unit).Mute
      w := by
  refine (mute_setAttr hi node (.inr rfl)).bind fun _ w₁ _ hi₁ ↦ ?_
  refine (mute_setAttr hi₁ node (.inr rfl)).bind fun _ w₂ _ hi₂ ↦ ?_
  refine mute_bind_of_ok (heap_apply w₂) ?_
  split
  · exact mute_setAttr hi₂ node (.inr rfl)
  · exact mute_pure hi₂ _

theorem clean_neutralise (node nodes : Value) :
    (Payload.neutralise node nodes : Op σ Unit).Clean w := by
  refine clean_requireNode fun _ ↦ ?_
  split
  · refine clean_requireList fun hlist ↦ ?_
    refine (mute_setAttr hi node (.inr ?_)).clean
    obtain ⟨items, hitems⟩ := Option.isSome_iff_exists.mp (hlist.resolve_right Bool.false_ne_true)
    obtain ⟨l, rfl, hget⟩ := Heap.get?_of_list? hitems
    simp [Heap.callable, hget]
  · refine Mute.clean (mute_bind_of_ok (heap_apply w) ?_)
    dsimp only
    split
    · exact (mute_setAttr hi node (.inr rfl)).bind fun _ _ _ hi₁ ↦ mute_becomeText hi₁ node
    · exact mute_becomeText hi node

end Payload

/-! ## Sentinels -/

/-- A text with a suffix behind it is a text, if it is anything. -/
theorem joinSuffix_text_cases (t : String) (suffix : Value) (w : World σ) :
    (∃ s, Smart.joinSuffix (.str t) suffix w = .ok (.str s) w) ∨
      ∃ fault, Smart.joinSuffix (.str t) suffix w = .error fault w := by
  cases suffix with
  | str s => exact .inl ⟨t ++ s, rfl⟩
  | _ => exact .inr ⟨_, rfl⟩

theorem NodeMaker.inert_made {h : Heap} (hi : h.Inert) (m : NodeMaker) (type : String) {x : Value}
    (hx : h.callable x = false) : (m.made h type x).Inert := by
  cases m with
  | smart =>
    have hi₁ : (h.add (.list [])).Inert := hi.add rfl trivial
    refine hi₁.add rfl fun name v _ hv ↦ ?_
    have hx₁ : (h.add (.list [])).callable x = false := Heap.callable_add rfl hx
    have hkeys : (h.add (.list [])).callable (.ref h.fresh) = false := by simp [Heap.callable]
    simp only [NodeMaker.entity, Table.get?_cons, Table.get?_nil] at hv
    grind [Heap.callable]
  | plain =>
    refine hi.add rfl fun name v _ hv ↦ ?_
    simp only [NodeMaker.entity, Table.get?_cons, Table.get?_nil] at hv
    grind [Heap.callable]

include hi in
/-- What follows the making of a sentinel without a filter gets a new node. -/
theorem Sentinel.clean_make_bind {β : Type} (m : NodeMaker) (node suffix : Value) {payload : Value}
    (hpayload : w.heap.callable payload = false) {next : Value → Op σ β}
    (hnext : ∀ a (w' : World σ), w'.heap.Inert → (next (.ref a)).Clean w') :
    (Sentinel.make (invoke foreign fuel) node m.value suffix payload .null >>= next).Clean w := by
  have hsplit :
      Sentinel.payloadAndFilter w.heap payload .null = (sentinelValue payload, .null) := by
    simp [Sentinel.payloadAndFilter, hpayload, sentinelValue]
  have hvalue : w.heap.callable (sentinelValue payload) = false := by
    unfold sentinelValue
    split
    · rfl
    · exact hpayload
  simp only [Sentinel.make, bind_assoc]
  refine clean_requireNode fun _ ↦ clean_guard (·.callable m.value) fun _ ↦ ?_
  refine clean_guard (fun h ↦ isText (h.attrOrNull node "type")) fun htext ↦ ?_
  refine clean_bind_of_ok (heap_apply w) ?_
  simp only [hsplit, if_true, pure_bind, bind_assoc]
  cases htype : w.heap.attrOrNull node "type" with
  | str t =>
    refine clean_bind_of_ok (getAttr_type htype) ?_
    rcases joinSuffix_text_cases t suffix w with ⟨s, hjoin⟩ | ⟨fault, hjoin⟩
    · refine clean_bind_of_ok hjoin ?_
      cases fuel with
      | zero => exact (mute_throw rfl).clean
      | succ fuel =>
        have hmade := invoke_maker foreign fuel m s (sentinelValue_ne_null payload) w
        exact clean_bind_of_extends hmade (m.extends_made _ _ _)
          (hnext _ _ (m.inert_made hi s hvalue))
    · refine Reads.bind_clean (after_of_error hjoin) fun _ hrun ↦ ?_
      rw [hjoin] at hrun
      cases hrun
  | _ => rw [htype] at htext; cases htext

include hi in
theorem Sentinel.clean_addOpen (m : NodeMaker) (node : Value) {payload : Value}
    (hpayload : w.heap.callable payload = false) :
    (Sentinel.addOpen (invoke foreign fuel) node m.value payload .null).Clean w := by
  refine (reads_setting w "open_suffix").bind_clean fun suffix _ ↦ ?_
  refine Sentinel.clean_make_bind hi foreign fuel m node suffix hpayload fun a w₁ hi₁ ↦ ?_
  exact (Tree.clean_unshift hi₁ foreign fuel node _).bind_mute fun _ _ _ hi₂ ↦ mute_pure hi₂ _

include hi in
theorem Sentinel.clean_addClose (m : NodeMaker) (node : Value) {payload : Value}
    (hpayload : w.heap.callable payload = false) :
    (Sentinel.addClose (invoke foreign fuel) node m.value payload .null).Clean w := by
  refine (reads_setting w "close_suffix").bind_clean fun suffix _ ↦ ?_
  refine Sentinel.clean_make_bind hi foreign fuel m node suffix hpayload fun a w₁ hi₁ ↦ ?_
  exact (Tree.clean_push hi₁ foreign fuel node _).bind_mute fun _ _ _ hi₂ ↦ mute_pure hi₂ _

/-! ## Nesting -/

namespace Nesting

theorem reads_anyM {α : Type} {p : α → Op σ Bool} (hp : ∀ a, (p a).Reads w) (xs : List α) :
    (xs.anyM p).Reads w := by
  induction xs with
  | nil => exact reads_pure w _
  | cons x rest ih =>
    refine (hp x).bind fun found _ ↦ ?_
    cases found with
    | true => exact reads_pure w _
    | false => exact ih

variable (w) in
theorem reads_endsWith (type suffix : Value) :
    (Smart.endsWith type suffix : Op σ Bool).Reads w := by
  unfold Smart.endsWith
  split
  · split
    · exact reads_pure w _
    · refine (reads_heap w).bind fun _ _ ↦ ?_
      split
      · refine reads_anyM (fun item ↦ ?_) _
        split
        · exact reads_pure w _
        · exact reads_throw w _
      · exact reads_throw w _
  · exact reads_throw w _

variable (w) in
theorem reads_stripSuffix (type : String) (suffix : Value) :
    (Nesting.stripSuffix type suffix : Op σ String).Reads w := by
  refine (reads_endsWith w (.str type) suffix).bind fun found _ ↦ ?_
  cases found with
  | true => exact (reads_size w suffix).bind fun _ _ ↦ reads_pure w _
  | false => exact reads_pure w _

variable (w) in
theorem reads_keyOf (node suffix : Value) : (Nesting.keyOf node suffix : Op σ String).Reads w := by
  refine (reads_heap w).bind fun h _ ↦ ?_
  dsimp only
  split
  · refine Reads.bind ?_ fun _ _ ↦ ?_
    · exact (reads_heap w).bind fun _ _ ↦ reads_require w _ _ _
    · split
      · exact reads_pure w _
      · exact reads_throw w _
  · split
    · exact reads_stripSuffix w _ suffix
    · exact reads_throw w _

include hi in
/-- A node is put on the stack it counts for. -/
theorem mute_stack (state node : Value) (key : String) :
    (do
      let stack ← lookupOrAdd (invoke foreign fuel) (← getAttr state "inside") key
      append (invoke foreign fuel) stack node
      debug Nesting.nestingLogger
        ("Entered " ++ Text.quote key ++ " (depth " ++ toString (← size stack) ++ ")")
      return stack : Op σ Value).Mute w := by
  refine (mute_getAttr hi state "inside").bind fun inside w₁ _ hi₁ ↦ ?_
  refine (mute_lookupOrAdd hi₁ foreign fuel inside key).bind fun stack w₂ _ hi₂ ↦ ?_
  refine (mute_append hi₂ foreign fuel stack node).bind fun _ w₃ _ hi₃ ↦ ?_
  refine (mute_size hi₃ stack).bind fun _ w₄ _ hi₄ ↦ ?_
  exact (mute_debug hi₄ _ _).bind fun _ _ _ hi₅ ↦ mute_pure hi₅ _

include hi in
theorem clean_enter (state node : Value) :
    (Nesting.enter (invoke foreign fuel) state node).Clean w := by
  refine clean_requireNode fun _ ↦ clean_requireState ?_
  refine (reads_setting w "open_suffix").bind_clean fun suffix _ ↦ ?_
  refine (reads_keyOf w node suffix).bind_clean fun key _ ↦ Mute.clean ?_
  refine mute_bind_of_ok (heap_apply w) ?_
  dsimp only
  split
  · simpa only [bind_assoc] using (mute_setAttr_new hi state "inside" rfl).bind
      fun _ _ _ hi₁ ↦ mute_stack hi₁ foreign fuel state node key
  · exact mute_stack hi foreign fuel state node key

include hi in
theorem clean_leave (state node : Value) :
    (Nesting.leave (invoke foreign fuel) state node).Clean w := by
  refine clean_requireNode fun _ ↦ clean_requireState ?_
  refine (reads_setting w "close_suffix").bind_clean fun suffix _ ↦ ?_
  refine (reads_keyOf w node suffix).bind_clean fun key _ ↦ ?_
  refine clean_bind_of_ok (heap_apply w) ?_
  dsimp only
  split
  · exact (reads_throw w _).clean hi
  · refine ((mute_lookup hi foreign fuel _ key).bind fun stack w₁ _ hi₁ ↦ ?_).clean
    refine mute_bind_of_ok (heap_apply w₁) ?_
    split
    · exact mute_pure hi₁ _
    · refine Mute.bind (mute_popLast hi₁ fun hnone ↦ mute_callPop foreign fuel hi₁ hnone _)
        fun popped w₂ _ hi₂ ↦ ?_
      refine (mute_size hi₂ stack).bind fun _ w₃ _ hi₃ ↦ ?_
      exact (mute_debug hi₃ _ _).bind fun _ _ _ hi₄ ↦ mute_pure hi₄ _

end Nesting

/-! ## Refusing leaves everything as it was -/

/-- The calls that edit children, payloads or stacks, with any arguments. Sentinels are made by one
of the makers of nodes, and without a filter. -/
inductive Function.Edits (h : Heap) : Function → List Value → Prop
  | push (parent node : Value) : Edits h .push [parent, node]
  | unshift (parent node : Value) : Edits h .unshift [parent, node]
  | pop (node : Value) : Edits h .pop [node]
  | shift (node : Value) : Edits h .shift [node]
  | remove (parent node : Value) : Edits h .remove [parent, node]
  | has (node child : Value) : Edits h .has [node, child]
  | addOpen (m : NodeMaker) (node payload : Value) (hpayload : h.callable payload = false) :
    Edits h .addOpen [node, m.value, payload, .null]
  | addClose (m : NodeMaker) (node payload : Value) (hpayload : h.callable payload = false) :
    Edits h .addClose [node, m.value, payload, .null]
  | neutralise (node nodes : Value) : Edits h .neutralise [node, nodes]
  | enter (state node : Value) : Edits h .enter [state, node]
  | leave (state node : Value) : Edits h .leave [state, node]

include hi in
theorem Function.Edits.clean {f : Function} {args : List Value} (hf : f.Edits w.heap args) :
    (f.run (invoke foreign fuel) args).Clean w := by
  cases hf with
  | push parent node => exact Tree.clean_push hi foreign fuel parent node
  | unshift parent node => exact Tree.clean_unshift hi foreign fuel parent node
  | pop node => exact Tree.clean_pop hi foreign fuel node
  | shift node => exact Tree.clean_shift hi foreign fuel node
  | remove parent node => exact Tree.clean_remove hi foreign fuel parent node
  | has node child =>
    exact (Tree.clean_has hi foreign fuel node child).bind_mute fun _ _ _ hi₁ ↦ mute_pure hi₁ _
  | addOpen m node payload hpayload => exact Sentinel.clean_addOpen hi foreign fuel m node hpayload
  | addClose m node payload hpayload =>
    exact Sentinel.clean_addClose hi foreign fuel m node hpayload
  | neutralise node nodes =>
    exact (Payload.clean_neutralise hi node nodes).bind_mute fun _ _ _ hi₁ ↦ mute_pure hi₁ _
  | enter state node => exact Nesting.clean_enter hi foreign fuel state node
  | leave state node => exact Nesting.clean_leave hi foreign fuel state node

include hi in
/-- When a call that edits is refused, every object has the attributes, links, items and entries
that it had before. -/
theorem object_kept_of_refused {f : Function} {args : List Value} (hf : f.Edits w.heap args)
    {fault : Fault} {w' : World σ} (hrun : f.run (invoke foreign fuel) args w = .error fault w')
    (hrefusal : fault.isRefusal = true) {a : Addr} {o : Object} (ha : w.heap.get? a = some o) :
    w'.heap.get? a = some o := by
  have hclean := hf.clean hi foreign fuel
  unfold Clean at hclean
  rw [hrun] at hclean
  exact (hclean hrefusal).found ha

/-- A record that bears the mark of a node and has a text in the place of its children. -/
def markedRecord : Object :=
  .entity ⟨.record, [("is_node", .bool true), ("type", .str "p"), ("nodes", .str "xy")], .absent⟩

/-- A world with nothing but such a record. -/
def recordWorld : World Unit where
  heap := { cells := #[some markedRecord] }
  client := ()

/-- A sentinel is made for the record, and only then the record turns out to have no list of
children. -/
theorem markedRecord_of_refused_sentinel :
    let foreign : Caller Unit := fun _ _ _ ↦ throw .unsupported
    let call := invoke foreign 1
    recordWorld.heap.Inert ∧ recordWorld.heap.get? 0 = some markedRecord ∧
      ∃ fault w', Function.run call .addOpen [.ref 0, .maker .plain, .null, .null] recordWorld =
          .error fault w' ∧
        fault.isRefusal = true ∧ (w'.heap.get? 1).isSome = true ∧
        w'.heap.get? 0 = some markedRecord := by
  intro foreign call
  have hinert : recordWorld.heap.Inert := by
    intro a o ha
    have hlt : a < 1 := Heap.lt_fresh_of_get? ha
    obtain rfl : a = 0 := Nat.lt_one_iff.mp hlt
    cases ha
    intro name v _ hv
    simp only [Table.get?_cons, Table.get?_nil] at hv
    grind [Heap.callable]
  have hget : recordWorld.heap.get? 0 = some markedRecord := rfl
  let fault : Fault := .argument (.expected "parent.nodes" .array) (.str "parent.nodes")
  have hrefusal : fault.isRefusal = true := rfl
  have hedits : Function.Edits recordWorld.heap .addOpen [.ref 0, .maker .plain, .null, .null] :=
    .addOpen .plain _ _ rfl
  refine ⟨hinert, hget, fault, _, rfl, hrefusal, rfl, ?_⟩
  exact object_kept_of_refused hinert foreign 1 hedits rfl hrefusal hget

end TagTree
