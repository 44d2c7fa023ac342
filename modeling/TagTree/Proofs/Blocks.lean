import TagTree.Proofs.Ambiguity
import TagTree.Proofs.Documents
import TagTree.Proofs.Inert

/-!
# Telling blocks

A block is a node whose first and last children are its open and its close sentinel. There are
several ways to ask: a smart parent, the node itself if it is smart, any other smart node, or a look
at the children. Whoever is asked compares the types of the same two children with the same two
texts, so that all answers are the same. Of a single child the node says no more than the child
itself does, when both are asked whether it is a sentinel.
-/

namespace TagTree

open Op

/-! ## Children at the edges -/

/-- The first or the last item. -/
def edge? (atEnd : Bool) (items : List Value) : Option Value :=
  if atEnd then items.getLast? else items.head?

theorem mem_of_edge? {atEnd : Bool} {items : List Value} {v : Value}
    (hv : edge? atEnd items = some v) : v ∈ items := by
  cases atEnd with
  | false => exact List.mem_of_mem_head? hv
  | true => exact List.mem_of_getLast? hv

theorem edge?_eq_none_iff {atEnd : Bool} {items : List Value} :
    edge? atEnd items = none ↔ items = [] := by
  cases atEnd <;> simp [edge?]

namespace Heap

/-- Whether the first or the last of several children has a type. -/
def edgeHasType (h : Heap) (items : List Value) (atEnd : Bool) (type : String) : Bool :=
  (edge? atEnd items).any fun v ↦ h.attrOrNull v "type" = .str type

/-- Whether several children begin and end with the sentinels of a type. -/
def isEnclosed (h : Heap) (items : List Value) (t : String) (s : Settings) : Bool :=
  h.edgeHasType items false (t ++ s.openSuffix) && h.edgeHasType items true (t ++ s.closeSuffix)

/-- A node with its children: none, or those in a list or tuple. The first and the last are other
nodes, with a text as type. -/
structure FamilyAt (h : Heap) (a : Addr) (t : String) (items : List Value) : Prop where
  node : ∃ e, h.get? a = some (.entity e) ∧ e.Genuine
  type : h.attrOrNull (.ref a) "type" = .str t
  children : h.attrOrNull (.ref a) "nodes" = .null ∧ items = [] ∨
    h.sequence? (h.attrOrNull (.ref a) "nodes") = some items
  edge : ∀ atEnd v, edge? atEnd items = some v →
    h.isNode v = true ∧ v ≠ .ref a ∧ ∃ tv, h.attrOrNull v "type" = .str tv

variable {h : Heap} {a : Addr} {t : String} {items : List Value} {nodes : Value}

theorem truthy_of_sequence? (hnodes : h.sequence? nodes = some items) :
    h.truthy nodes = !items.isEmpty := by
  obtain ⟨l, rfl, hl | hl⟩ := sequence?_eq_some_iff.mp hnodes <;> simp [truthy, hl]

theorem edgeItem_of_sequence? (hnodes : h.sequence? nodes = some items) {atEnd : Bool} {v : Value}
    (hv : edge? atEnd items = some v) : h.edgeItem atEnd nodes = .ok v := by
  unfold edge? at hv
  obtain ⟨l, rfl, hl | hl⟩ := sequence?_eq_some_iff.mp hnodes <;> simp [edgeItem, object?, hl, hv]

theorem edgeHasType_of_some {atEnd : Bool} {v : Value} {tv : String}
    (hv : edge? atEnd items = some v) (htv : h.attrOrNull v "type" = .str tv) (type : String) :
    h.edgeHasType items atEnd type = decide (tv = type) := by
  simp [edgeHasType, hv, htv]

theorem edgeHasType_eq_true_iff {atEnd : Bool} {type : String} :
    h.edgeHasType items atEnd type = true ↔
      ∃ v, edge? atEnd items = some v ∧ h.attrOrNull v "type" = .str type := by
  simp [edgeHasType, Option.any_eq_true]

/-- Children between two different sentinels are two at least. -/
theorem two_le_length_of_isEnclosed {s : Settings} (hdiffer : s.openSuffix ≠ s.closeSuffix)
    (henclosed : h.isEnclosed items t s = true) : 2 ≤ items.length := by
  rw [isEnclosed, Bool.and_eq_true] at henclosed
  obtain ⟨hopen, hclose⟩ := henclosed
  cases items with
  | nil => cases hopen
  | cons first rest =>
    cases rest with
    | nil =>
      obtain ⟨v, hv, htype⟩ := edgeHasType_eq_true_iff.mp hopen
      obtain ⟨v', hv', htype'⟩ := edgeHasType_eq_true_iff.mp hclose
      obtain rfl : v = v' := Option.some.inj (hv.symm.trans hv')
      have hsame := Value.str.inj (htype.symm.trans htype')
      exact absurd ((String.append_right_inj t).mp hsame) hdiffer
    | cons second rest => simp

end Heap

/-! ## Looking at the children -/

section Looking

variable {σ : Type} {w : World σ} {a : Addr} {e : Entity} {t : String} {items : List Value}

theorem Smart.hasTypeEqual_apply {v : Value} {tv : String}
    (hv : w.heap.attrOrNull v "type" = .str tv) (type : String) :
    Smart.hasTypeEqual v (.str type) w = .ok (decide (tv = type)) w := by
  simp [Smart.hasTypeEqual, bind_apply, hv, Heap.equal_str]

/-- What a node knows of its first or last child without a look at its children: a smart node knows
all, and a plain node nothing. -/
theorem getAttrOrNull_edge (hf : w.heap.FamilyAt a t items) (atEnd : Bool) :
    ∃ known, (getAttrOrNull (.ref a) (if atEnd then "last" else "first") : Op σ Value) w =
        .ok known w ∧ (known = .null ∨ edge? atEnd items = some known) := by
  obtain ⟨e, he, hg⟩ := hf.node
  have hentity := Heap.entity?_of_get? he
  rcases hg.kind with hk | hk
  · have hattr : w.heap.attr (.ref a) (if atEnd then "last" else "first") =
        w.heap.edgeChild atEnd e := by
      cases atEnd <;> simp [Heap.attr, hentity, hk]
    have hnodes : w.heap.attrOrNull (.ref a) "nodes" =
        (Table.get? e.attrs "nodes").getD .null :=
      Heap.attrOrNull_of_genuine he hg (by decide)
    rw [getAttrOrNull, bind_of_ok (heap_apply w), hattr, Heap.edgeChild]
    cases hget : Table.get? e.attrs "nodes" with
    | none => exact ⟨.null, rfl, .inl rfl⟩
    | some nodes =>
      rw [hget, Option.getD_some] at hnodes
      dsimp only
      rcases hf.children with ⟨hnull, -⟩ | hsequence
      · obtain rfl : nodes = .null := hnodes.symm.trans hnull
        exact ⟨.null, rfl, .inl rfl⟩
      · rw [hnodes] at hsequence
        rw [Heap.truthy_of_sequence? hsequence]
        cases hedge : edge? atEnd items with
        | none =>
          rw [edge?_eq_none_iff.mp hedge]
          exact ⟨.null, rfl, .inl rfl⟩
        | some v =>
          have hne : items ≠ [] := List.ne_nil_of_mem (mem_of_edge? hedge)
          rw [if_pos (by simpa using hne), Heap.edgeItem_of_sequence? hsequence hedge]
          exact ⟨v, rfl, .inr rfl⟩
  · have hname : (if atEnd then "last" else "first") ∈ Kind.plain.ownNames := by
      cases atEnd <;> decide
    have hmark : (if atEnd then "last" else "first") ≠ "is_node" := by cases atEnd <;> decide
    have hmissing := hg.unhidden _ (hk ▸ hname)
    refine ⟨.null, ?_, .inl rfl⟩
    rw [getAttrOrNull, bind_of_ok (heap_apply w)]
    simp [Heap.attr, hentity, hk, Heap.attr?_entity he, Heap.entityAttr?, hmissing, hmark]

/-- The first or last child is found, by whichever way. -/
theorem Sentinel.edgeChild_apply (hf : w.heap.FamilyAt a t items) (atEnd : Bool) :
    Sentinel.edgeChild (.ref a) atEnd w = .ok ((edge? atEnd items).getD .null) w := by
  obtain ⟨known, hknown, hcases⟩ := getAttrOrNull_edge (σ := σ) hf atEnd
  have hrequire {v : Value} (hv : edge? atEnd items = some v) :
      v ≠ .null ∧ (requireNode v (if atEnd then "last" else "first") : Op σ Unit) w = .ok () w := by
    have hnode := (hf.edge atEnd v hv).1
    refine ⟨?_, requireNode_apply hnode _⟩
    rintro rfl
    cases hnode
  rw [Sentinel.edgeChild]
  dsimp only
  rw [bind_of_ok hknown]
  by_cases hnull : known = .null
  · rw [if_neg (not_not_intro hnull), bind_of_ok (heap_apply w)]
    rcases hf.children with ⟨hnodes, rfl⟩ | hsequence
    · rw [hnodes]
      cases atEnd <;> rfl
    · rw [bind_of_ok (requireSequence_apply (by rw [hsequence]; rfl) _ _),
        Heap.truthy_of_sequence? hsequence]
      cases hedge : edge? atEnd items with
      | none =>
        rw [edge?_eq_none_iff.mp hedge]
        rfl
      | some v =>
        have hne : items ≠ [] := List.ne_nil_of_mem (mem_of_edge? hedge)
        rw [if_pos (by simpa using hne), Heap.edgeItem_of_sequence? hsequence hedge,
          bind_of_ok (fromExcept_ok_apply v w), if_pos (hrequire hedge).1,
          bind_of_ok (hrequire hedge).2]
        rfl
  · have hedge := hcases.resolve_left hnull
    rw [if_pos hnull, bind_of_ok (pure_apply known w), if_pos hnull, bind_of_ok (hrequire hedge).2,
      hedge]
    rfl

variable {call call' : Caller σ} {name suffix : String} {m : Method} {configured : Op σ Value}

/-- A node has a sentinel at an edge if the child there has the type of it. A smart node tells so
itself. -/
theorem Sentinel.hasSentinel_apply (hf : w.heap.FamilyAt a t items) (atEnd : Bool)
    (hm : Method.ofName? name = some m) (hname : name ∈ Kind.plain.ownNames)
    (hsuffix : configured w = .ok (.str suffix) w)
    (hcall : ∀ v, call (.method a m) [v] [] w =
      Smart.answer call' (.ref a) v (.str suffix) w) :
    Sentinel.hasSentinel call (.ref a) atEnd name configured w =
      .ok (w.heap.edgeHasType items atEnd (t ++ suffix)) w := by
  obtain ⟨e, he, hg⟩ := hf.node
  rw [Sentinel.hasSentinel, bind_of_ok (requireNode_apply (Heap.isNode_of_genuine he hg) _),
    bind_of_ok (Sentinel.edgeChild_apply hf atEnd)]
  cases hedge : edge? atEnd items with
  | none =>
    rw [Option.getD_none, if_pos rfl, Heap.edgeHasType, hedge]
    rfl
  | some v =>
    obtain ⟨hnode, hself, tv, htv⟩ := hf.edge atEnd v hedge
    obtain ⟨c, -, rfl, -⟩ := Heap.exists_entity_of_isNode hnode
    have hne : c ≠ a := by simpa using hself
    rw [Option.getD_some, if_neg (by simp), bind_of_ok (capability_apply _ _ w),
      capability_of_genuine he hg hm hname, Heap.edgeHasType_of_some hedge htv]
    by_cases hk : e.kind = .smart
    · have hanswer := (hcall (.ref c)).trans (Smart.answer_of_ne call' hf.type htv hne suffix)
      rw [if_pos hk]
      dsimp only
      rw [bind_of_ok hanswer]
      rfl
    · have htext : ∀ x, (text (.str x) : Op σ String) w = .ok x w := fun _ ↦ rfl
      rw [if_neg hk]
      dsimp only
      rw [bind_of_ok (getAttr_type hf.type), bind_of_ok (htext t), bind_of_ok hsuffix,
        bind_of_ok (htext suffix)]
      exact Smart.hasTypeEqual_apply htv _

/-- A child at an edge that is one of the node's sentinels to the node is a sentinel by itself. To
a smart node it is one in no other case. -/
theorem Sentinel.classify_of_edge (hf : w.heap.FamilyAt a t items) {atEnd : Bool} {c : Addr}
    {f : Entity} (hedge : edge? atEnd items = some (.ref c)) (hc : w.heap.get? c = some (.entity f))
    (hg : f.Genuine) (hparent : w.heap.attrOrNull (.ref c) "parent" = .ref a)
    (hm : Method.ofName? name = some m) (hname : name ∈ Kind.plain.ownNames)
    (hcall : ∀ p, call (.method p m) [.ref c] [] w =
      Smart.answer call' (.ref p) (.ref c) (.str suffix) w) (hsuffix : suffix ≠ "") :
    ∃ b, Sentinel.classify call (.ref c) name (.str suffix) w = .ok b w ∧
      (w.heap.edgeHasType items atEnd (t ++ suffix) = true → b = true) ∧
      (w.heap.kindAt? a = some .smart → b = w.heap.edgeHasType items atEnd (t ++ suffix)) := by
  obtain ⟨e, he, hgenuine⟩ := hf.node
  obtain ⟨-, hself, tc, htc⟩ := hf.edge atEnd _ hedge
  have hne : a ≠ c := fun hac ↦ hself (by rw [hac])
  have htyped : w.heap.TypedAt c tc := ⟨⟨f, hc, hg⟩, htc, .inr ⟨a, e, hparent, he, hgenuine⟩⟩
  rw [Heap.edgeHasType_of_some hedge htc]
  by_cases hk : w.heap.kindAt? a = some .smart
  · refine ⟨_, classify_of_smartParent htyped hm hname hcall ⟨hparent, hne, hk⟩ hf.type,
      id, fun _ ↦ rfl⟩
  · have hnone : ∀ p, ¬ w.heap.SmartParent p c := by
      rintro p ⟨hp, -, hsmart⟩
      rw [hparent] at hp
      obtain rfl : a = p := Value.ref.inj hp
      exact hk hsmart
    refine ⟨_, classify_of_no_smartParent htyped hm hname hcall hsuffix hnone, ?_,
      fun hsmart ↦ absurd hsmart hk⟩
    intro hsame
    rw [List.isSuffixOf_iff_suffix, of_decide_eq_true hsame, String.toList_append]
    exact List.suffix_append _ _

end Looking

/-! ## Whoever is asked -/

section Asking

variable {σ : Type} {w : World σ} {s : Settings} {a : Addr} {t : String} {items : List Value}
  (foreign : Caller σ) (fuel : Nat) (hs : w.Uses s) (hf : w.heap.FamilyAt a t items)
include hs hf

theorem Sentinel.hasOpen_apply :
    Sentinel.hasOpen (invoke foreign (fuel + 1)) (.ref a) w =
      .ok (w.heap.edgeHasType items false (t ++ s.openSuffix)) w :=
  Sentinel.hasSentinel_apply hf false rfl (by decide) hs.openSuffix_apply
    (invoke_isOpen foreign fuel hs a)

theorem Sentinel.hasClose_apply :
    Sentinel.hasClose (invoke foreign (fuel + 1)) (.ref a) w =
      .ok (w.heap.edgeHasType items true (t ++ s.closeSuffix)) w :=
  Sentinel.hasSentinel_apply hf true rfl (by decide) hs.closeSuffix_apply
    (invoke_isClose foreign fuel hs a)

theorem Sentinel.hasOpenAndClose_apply :
    Sentinel.hasOpenAndClose (invoke foreign (fuel + 1)) (.ref a) w =
      .ok (w.heap.isEnclosed items t s) w := by
  rw [Sentinel.hasOpenAndClose, bind_of_ok (Sentinel.hasOpen_apply foreign fuel hs hf),
    Heap.isEnclosed]
  cases w.heap.edgeHasType items false (t ++ s.openSuffix) with
  | false => rfl
  | true => exact Sentinel.hasClose_apply foreign fuel hs hf

omit foreign fuel in
/-- Every smart node answers the same about a node. -/
theorem Smart.isBlock_eq_isEnclosed :
    Smart.isBlock (.ref a) w = .ok (w.heap.isEnclosed items t s) w := by
  have hjoin : ∀ x, (Smart.joinSuffix (.str t) (.str x) : Op σ Value) w = .ok (.str (t ++ x)) w :=
    fun _ ↦ rfl
  have hedge (atEnd : Bool) (hne : items ≠ []) :
      ∃ v tv, edge? atEnd items = some v ∧ w.heap.attrOrNull v "type" = .str tv := by
    have hsome : edge? atEnd items ≠ none := edge?_eq_none_iff.not.mpr hne
    obtain ⟨v, hv⟩ := Option.ne_none_iff_exists'.mp hsome
    obtain ⟨-, -, tv, htv⟩ := hf.edge atEnd v hv
    exact ⟨v, tv, hv, htv⟩
  rw [Smart.isBlock, bind_of_ok (heap_apply w)]
  rcases hf.children with ⟨hnull, rfl⟩ | hsequence
  · rw [hnull]
    rfl
  · rw [Heap.truthy_of_sequence? hsequence]
    by_cases hne : items = []
    · subst hne
      rfl
    · obtain ⟨first, tf, hfirst, htf⟩ := hedge false hne
      obtain ⟨last, tl, hlast, htl⟩ := hedge true hne
      rw [if_neg (by simpa using hne), Heap.edgeItem_of_sequence? hsequence hfirst,
        bind_of_ok (fromExcept_ok_apply first w), bind_of_ok (getAttr_type hf.type),
        bind_of_ok hs.openSuffix_apply, bind_of_ok (hjoin _),
        bind_of_ok (Smart.hasTypeEqual_apply htf _), Heap.isEnclosed,
        Heap.edgeHasType_of_some hfirst htf, Heap.edgeHasType_of_some hlast htl]
      by_cases hopen : tf = t ++ s.openSuffix
      · rw [if_pos (decide_eq_true hopen), Heap.edgeItem_of_sequence? hsequence hlast,
          bind_of_ok (fromExcept_ok_apply last w), bind_of_ok (getAttr_type hf.type),
          bind_of_ok hs.closeSuffix_apply, bind_of_ok (hjoin _), decide_eq_true hopen,
          Bool.true_and]
        exact Smart.hasTypeEqual_apply htl _
      · rw [decide_eq_false hopen, Bool.false_and]
        rfl

theorem invoke_isBlock (p : Addr) :
    invoke foreign (fuel + 1) (.method p .isBlock) [.ref a] [] w =
      .ok (.bool (w.heap.isEnclosed items t s)) w := by
  rw [invoke_method foreign fuel p rfl]
  simp only [Method.run]
  rw [bind_of_ok (Smart.isBlock_eq_isEnclosed hs hf)]
  rfl

/-- Whoever is asked, a smart parent, the node itself or nobody, the answer is the same. -/
theorem Sentinel.isBlock_eq_isEnclosed (ht : w.heap.TypedAt a t) :
    Sentinel.isBlock (invoke foreign (fuel + 1)) (.ref a) w =
      .ok (w.heap.isEnclosed items t s) w := by
  obtain ⟨e, he, hg⟩ := hf.node
  have hsequence : (requireSequence (w.heap.attrOrNull (.ref a) "nodes") "node.nodes" true :
      Op σ Unit) w = .ok () w := by
    rcases hf.children with ⟨hnull, -⟩ | hsequence
    · rw [hnull]
      rfl
    · exact requireSequence_apply (by rw [hsequence]; rfl) _ _
  rw [Sentinel.isBlock, bind_of_ok (requireNode_apply (Heap.isNode_of_genuine he hg) _),
    bind_of_ok (heap_apply w), bind_of_ok hsequence, bind_of_ok (heap_apply w)]
  have hjudge : (∃ p, Sentinel.judge? w.heap (.ref a) "is_block" = some (.method p .isBlock)) ∨
      Sentinel.judge? w.heap (.ref a) "is_block" = none := by
    rcases judge?_cases ht (show Method.ofName? "is_block" = some .isBlock from rfl)
      (by decide) with ⟨p, -, hp⟩ | ⟨-, hself | hnone⟩
    · exact .inl ⟨p, hp⟩
    · exact .inl ⟨a, hself⟩
    · exact .inr hnone
  rcases hjudge with ⟨p, hp⟩ | hnone
  · rw [hp]
    dsimp only
    rw [bind_of_ok (invoke_isBlock foreign fuel hs hf p)]
    rfl
  · rw [hnone]
    exact Sentinel.hasOpenAndClose_apply foreign fuel hs hf

end Asking

/-! ## One answer -/

/-- A node is a block if its first and last children have the types of its sentinels, and it makes
no difference who tells. A child that the node takes for its sentinel is one by its own account. -/
theorem block_routes_agree {σ : Type} (foreign : Caller σ) {given : Settings.Given} {s : Settings}
    {w : World σ} {n : Addr} {t : String} {items : List Value}
    (hcheck : Settings.check given = .ok s) (hs : w.Uses s) (hn : w.heap.TypedAt n t)
    (hchildren : w.heap.attrOrNull (.ref n) "nodes" = .null ∧ items = [] ∨
      w.heap.sequence? (w.heap.attrOrNull (.ref n) "nodes") = some items)
    (hitems : ∀ v ∈ items, ∃ c f tc, v = .ref c ∧ w.heap.get? c = some (.entity f) ∧ f.Genuine ∧
      w.heap.attrOrNull v "type" = .str tc)
    (hacyclic : .ref n ∉ items) (fuel : Nat) :
    let call := invoke foreign (fuel + 1)
    let opens := w.heap.edgeHasType items false (t ++ s.openSuffix)
    let closes := w.heap.edgeHasType items true (t ++ s.closeSuffix)
    Sentinel.isBlock call (.ref n) w = .ok (opens && closes) w ∧
    Sentinel.hasOpenAndClose call (.ref n) w = .ok (opens && closes) w ∧
    (∀ x e, w.heap.get? x = some (.entity e) → e.Genuine → e.kind = .smart →
      callAttr call (.ref x) "is_block" [.ref n] w = .ok (.bool (opens && closes)) w) ∧
    ((opens && closes) = true → 2 ≤ items.length) ∧
    Sentinel.hasOpen call (.ref n) w = .ok opens w ∧
    (∀ c, items.head? = some (.ref c) → w.heap.attrOrNull (.ref c) "parent" = .ref n →
      ∃ b, Sentinel.isOpen call (.ref c) w = .ok b w ∧ (opens = true → b = true) ∧
        (w.heap.kindAt? n = some .smart → b = opens)) ∧
    Sentinel.hasClose call (.ref n) w = .ok closes w ∧
    (∀ c, items.getLast? = some (.ref c) → w.heap.attrOrNull (.ref c) "parent" = .ref n →
      ∃ b, Sentinel.isClose call (.ref c) w = .ok b w ∧ (closes = true → b = true) ∧
        (w.heap.kindAt? n = some .smart → b = closes)) := by
  intro call opens closes
  have haccepted := Settings.accepted_of_check hcheck
  have hf : w.heap.FamilyAt n t items := by
    refine ⟨hn.node, hn.type, hchildren, fun atEnd v hv ↦ ?_⟩
    obtain ⟨c, f, tc, rfl, hc, hg, htc⟩ := hitems v (mem_of_edge? hv)
    refine ⟨Heap.isNode_of_genuine hc hg, ?_, tc, htc⟩
    intro hself
    exact hacyclic (hself ▸ mem_of_edge? hv)
  have hchild (atEnd : Bool) {c : Addr} (hc : edge? atEnd items = some (.ref c)) :
      ∃ f, w.heap.get? c = some (.entity f) ∧ f.Genuine := by
    obtain ⟨c', f, -, hcc, hget, hg, -⟩ := hitems _ (mem_of_edge? hc)
    obtain rfl : c = c' := Value.ref.inj hcc
    exact ⟨f, hget, hg⟩
  refine ⟨Sentinel.isBlock_eq_isEnclosed foreign fuel hs hf hn,
    Sentinel.hasOpenAndClose_apply foreign fuel hs hf, ?_,
    Heap.two_le_length_of_isEnclosed haccepted.differ,
    Sentinel.hasOpen_apply foreign fuel hs hf, ?_, Sentinel.hasClose_apply foreign fuel hs hf, ?_⟩
  · intro x e hx hg hk
    have hability : w.heap.capability (.ref x) "is_block" = some (.method x .isBlock) :=
      Heap.capability_of_smart hx hg hk rfl
    have hattr := (Option.filter_eq_some_iff.mp hability).1
    rw [callAttr, bind_of_ok (getAttr_of_attr? hattr (by decide) (by decide))]
    exact invoke_isBlock foreign fuel hs hf x
  · intro c hfirst hparent
    obtain ⟨f, hc, hg⟩ := hchild false hfirst
    rw [Sentinel.isOpen_eq_classify hs]
    exact Sentinel.classify_of_edge hf hfirst hc hg hparent rfl (by decide)
      (invoke_isOpen foreign fuel hs · (.ref c))
      (Settings.ne_empty_of_isSuffix haccepted.openSuffix)
  · intro c hlast hparent
    obtain ⟨f, hc, hg⟩ := hchild true hlast
    rw [Sentinel.isClose_eq_classify hs]
    exact Sentinel.classify_of_edge hf hlast hc hg hparent rfl (by decide)
      (invoke_isClose foreign fuel hs · (.ref c))
      (Settings.ne_empty_of_isSuffix haccepted.closeSuffix)

/-- A smart block below a plain node, with a plain and a smart sentinel in a tuple. -/
def mixedBlock : World Unit where
  heap := ⟨#[some (.entity ⟨.plain, [("type", .str "list"), ("nodes", .null), ("parent", .null)],
      .absent⟩),
    some (.entity ⟨.smart, [("type", .str "b"), ("value", .null), ("nodes", .ref 2)], .weak 0⟩),
    some (.tuple [.ref 3, .ref 4]),
    some (.entity ⟨.plain, [("type", .str "b.open"), ("nodes", .null), ("parent", .ref 1)],
      .absent⟩),
    some (.entity ⟨.smart, [("type", .str "b.close"), ("value", .null), ("nodes", .null)],
      .weak 1⟩)]⟩
  active := none
  client := ()

/-- The close sentinel knows the block as well as the node itself does. -/
theorem block_routes_agree_mixedBlock :
    let call : Caller Unit := invoke (fun _ _ _ ↦ throw .unsupported) 1
    Settings.check {} = .ok {} ∧ mixedBlock.Uses {} ∧ mixedBlock.heap.TypedAt 1 "b" ∧
      mixedBlock.heap.sequence? (.ref 2) = some [.ref 3, .ref 4] ∧
      Sentinel.isBlock call (.ref 1) mixedBlock = .ok true mixedBlock ∧
      callAttr call (.ref 4) "is_block" [.ref 1] mixedBlock = .ok (.bool true) mixedBlock ∧
      Sentinel.hasOpen call (.ref 1) mixedBlock = .ok true mixedBlock ∧
      Sentinel.isOpen call (.ref 3) mixedBlock = .ok true mixedBlock := by
  intro call
  have hcheck : Settings.check {} = .ok {} := rfl
  have hs : mixedBlock.Uses {} := rfl
  have hlist : Entity.Genuine ⟨.plain, [("type", .str "list"), ("nodes", .null),
      ("parent", .null)], .absent⟩ := ⟨.inr rfl, by decide +kernel⟩
  have hblock : Entity.Genuine ⟨.smart, [("type", .str "b"), ("value", .null),
      ("nodes", .ref 2)], .weak 0⟩ := ⟨.inl rfl, by decide +kernel⟩
  have hopen : Entity.Genuine ⟨.plain, [("type", .str "b.open"), ("nodes", .null),
      ("parent", .ref 1)], .absent⟩ := ⟨.inr rfl, by decide +kernel⟩
  have hclose : Entity.Genuine ⟨.smart, [("type", .str "b.close"), ("value", .null),
      ("nodes", .null)], .weak 1⟩ := ⟨.inl rfl, by decide +kernel⟩
  have htyped : mixedBlock.heap.TypedAt 1 "b" :=
    ⟨⟨_, rfl, hblock⟩, rfl, .inr ⟨0, _, rfl, rfl, hlist⟩⟩
  have hitems : ∀ v ∈ [Value.ref 3, .ref 4], ∃ c f tc, v = .ref c ∧
      mixedBlock.heap.get? c = some (.entity f) ∧ f.Genuine ∧
      mixedBlock.heap.attrOrNull v "type" = .str tc := by
    intro v hv
    simp only [List.mem_cons, List.not_mem_nil, or_false] at hv
    rcases hv with rfl | rfl
    · exact ⟨3, _, "b.open", rfl, rfl, hopen, rfl⟩
    · exact ⟨4, _, "b.close", rfl, rfl, hclose, rfl⟩
  obtain ⟨hnode, -, hany, -, hhas, hfirst, -⟩ :=
    block_routes_agree (fun _ _ _ ↦ throw .unsupported) hcheck hs htyped (.inr rfl) hitems
      (by decide) 0
  obtain ⟨b, hb, himp, -⟩ := hfirst 3 rfl rfl
  have hopens : mixedBlock.heap.edgeHasType [.ref 3, .ref 4] false
      ("b" ++ ({} : Settings).openSuffix) = true := by decide +kernel
  exact ⟨hcheck, hs, htyped, rfl, hnode, hany 4 _ rfl hclose rfl, hhas, himp hopens ▸ hb⟩

end TagTree
