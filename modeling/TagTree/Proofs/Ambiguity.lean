import Mathlib.Data.List.Infix
import TagTree.Proofs.AcceptedSettings
import TagTree.Proofs.Classification
import TagTree.Proofs.Replay

/-!
# Nodes that pass for both sentinels

A node below a smart one is compared with the two types that the sentinels of its parent have, and
these differ. Any other node is judged by the end of its own type, and two different suffixes can
both be at the end of one type if one of them ends in the other. So a node passes for an open and a
close sentinel at once exactly if it is judged by its own type and both suffixes are at its end, and
settings leave room for such a node exactly if one suffix ends in the other. That the suffixes
differ, which is all that is checked, does not exclude this.
-/

namespace TagTree

open Op

/-- A node with a text as its type, and with a node or nobody as its parent. -/
structure Heap.TypedAt (h : Heap) (a : Addr) (t : String) : Prop where
  node : ∃ f, h.get? a = some (.entity f) ∧ f.Genuine
  type : h.attrOrNull (.ref a) "type" = .str t
  parent : h.attrOrNull (.ref a) "parent" = .null ∨
    ∃ p e, h.attrOrNull (.ref a) "parent" = .ref p ∧ h.get? p = some (.entity e) ∧ e.Genuine

/-- A smart node is the parent of another node. -/
def Heap.SmartParent (h : Heap) (p a : Addr) : Prop :=
  h.attrOrNull (.ref a) "parent" = .ref p ∧ p ≠ a ∧ h.kindAt? p = some .smart

/-- A node passes for an open and a close sentinel at once. -/
def Sentinel.Ambiguous {σ : Type} (call : Caller σ) (w : World σ) (v : Value) : Prop :=
  (Sentinel.isOpen call v).result w = .ok true ∧ (Sentinel.isClose call v).result w = .ok true

/-! ## Who judges -/

section Judges

variable {h : Heap} {a : Addr} {t name : String} {m : Method}

theorem capability_of_genuine {p : Addr} {e : Entity} (hp : h.get? p = some (.entity e))
    (hg : e.Genuine) (hm : Method.ofName? name = some m) (hname : name ∈ Kind.plain.ownNames) :
    h.capability (.ref p) name = if e.kind = .smart then some (.method p m) else none := by
  rcases hg.kind with hk | hk
  · rw [Heap.capability_of_smart hp hg hk hm, if_pos hk]
  · rw [Heap.capability_of_plain hp hg hk hname, if_neg (by rw [hk]; decide)]

/-- A smart parent judges; without one, the node itself does if it is smart, and nobody else. -/
theorem judge?_cases (ha : h.TypedAt a t) (hm : Method.ofName? name = some m)
    (hname : name ∈ Kind.plain.ownNames) :
    (∃ p, h.SmartParent p a ∧ Sentinel.judge? h (.ref a) name = some (.method p m)) ∨
      (∀ p, ¬ h.SmartParent p a) ∧ (Sentinel.judge? h (.ref a) name = some (.method a m) ∨
        Sentinel.judge? h (.ref a) name = none) := by
  obtain ⟨f, hf, hgenuine⟩ := ha.node
  have hown := capability_of_genuine hf hgenuine hm hname
  have hself : h.capability (.ref a) name = some (.method a m) ∨
      h.capability (.ref a) name = none := by
    rw [hown]
    split
    · exact .inl rfl
    · exact .inr rfl
  unfold Sentinel.judge?
  rcases ha.parent with hnull | ⟨p, e, hparent, hp, hg⟩
  · have hnone : ∀ p, ¬ h.SmartParent p a := by
      rintro p ⟨hparent, -⟩
      rw [hnull] at hparent
      cases hparent
    rw [hnull, show h.capability .null name = none from rfl, Option.none_or]
    exact .inr ⟨hnone, hself⟩
  · have hjudge := capability_of_genuine hp hg hm hname
    have honly : ∀ q, h.SmartParent q a → q = p := by
      rintro q ⟨hq, -⟩
      rw [hparent] at hq
      exact (Value.ref.inj hq).symm
    rw [hparent, hjudge]
    by_cases hk : e.kind = .smart
    · rw [if_pos hk, Option.some_or]
      by_cases hpa : p = a
      · subst hpa
        refine .inr ⟨fun q hq ↦ ?_, .inl rfl⟩
        exact hq.2.1 (honly q hq)
      · exact .inl ⟨p, ⟨hparent, hpa, by rw [Heap.kindAt?_of_get? hp, hk]⟩, rfl⟩
    · rw [if_neg hk, Option.none_or]
      refine .inr ⟨fun q hq ↦ ?_, hself⟩
      have hkind := hq.2.2
      rw [honly q hq, Heap.kindAt?_of_get? hp] at hkind
      exact hk (Option.some.inj hkind)

end Judges

/-! ## How they judge -/

section Verdicts

variable {σ : Type} {w : World σ} {a p : Addr} {t suffix name : String} {m : Method}
  {call call' : Caller σ}

/-- A type that is no text cannot be joined with a suffix. -/
theorem joinSuffix_of_no_text {v : Value} (hv : ∀ t, v ≠ .str t) (suffix : String) (w : World σ) :
    Smart.joinSuffix v (.str suffix) w = .error .unsupported w := by
  cases v with
  | str t => exact absurd rfl (hv t)
  | ref b =>
    simp only [Smart.joinSuffix, Value.toInt?]
    rw [bind_of_ok (heap_apply w)]
    cases w.heap.object? (.ref b) with
    | none => rfl
    | some o => cases o <;> rfl
  | _ => rfl

/-- What a smart node answers about another one if its own type is no text. -/
theorem Smart.answer_of_no_text (call : Caller σ) (hne : a ≠ p)
    (htype : ∀ t, w.heap.attrOrNull (.ref p) "type" ≠ .str t) (suffix : String) :
    ∃ fault, Smart.answer call (.ref p) (.ref a) (.str suffix) w = .error fault w := by
  have href : Value.ref a ≠ .ref p := by simpa using hne
  cases hattr : w.heap.attr? (.ref p) "type" with
  | none =>
    have hget : (getAttr (.ref p) "type" : Op σ Value) w = .error .missingAttribute w := by
      cases he : w.heap.entity? (.ref p) <;> simp [getAttr, bind_apply, Heap.attr, he, hattr]
    exact ⟨_, by rw [Smart.answer, bind_of_error hget]⟩
  | some v =>
    have hget : (getAttr (.ref p) "type" : Op σ Value) w = .ok v w :=
      getAttr_of_attr? hattr (by decide) (by decide)
    have hv : ∀ t, v ≠ .str t := by
      intro t ht
      apply htype t
      rw [Heap.attrOrNull, hattr, ht]
      rfl
    have hsentinel : Smart.isSentinel (.ref p) (.ref a) (.str suffix) w =
        .error .unsupported w := by
      rw [Smart.isSentinel, bind_of_ok hget, if_neg href,
        bind_of_error (joinSuffix_of_no_text hv suffix w)]
    refine ⟨.unsupported, ?_⟩
    rw [Smart.answer, bind_of_ok hget, if_neg (fun h ↦ href h.1), bind_of_error hsentinel]

/-- Where nobody else has a view, a node is judged by the end of its type. -/
theorem classify_of_no_judge (ha : w.heap.TypedAt a t) (hsuffix : suffix ≠ "")
    (hjudge : Sentinel.judge? w.heap (.ref a) name = none) (call : Caller σ) :
    Sentinel.classify call (.ref a) name (.str suffix) w =
      .ok (suffix.toList.isSuffixOf t.toList) w := by
  obtain ⟨f, hf, hgenuine⟩ := ha.node
  unfold Sentinel.classify
  rw [bind_of_ok (requireNode_apply (Heap.isNode_of_genuine hf hgenuine) _),
    bind_of_ok (heap_apply w), hjudge]
  simp only
  have htext : (decide (Value.str t = .null) || isText (.str t)) = true := by simp [isText]
  rw [bind_of_ok (heap_apply w), ha.type, bind_of_ok (require_apply_true htext _ _ w),
    bind_of_ok (heap_apply w)]
  by_cases ht : t = ""
  · -- The empty type ends in no suffix.
    subst ht
    have hlist : suffix.toList ≠ [] := by simpa using hsuffix
    have hends : suffix.toList.isSuffixOf "".toList = false := by
      rw [← Bool.not_eq_true, List.isSuffixOf_iff_suffix]
      simpa using hlist
    rw [hends]
    rfl
  · have htruthy : w.heap.truthy (.str t) = true := by simpa [Heap.truthy] using ht
    rw [if_pos htruthy]
    rfl

/-- A node is classified as its judge answers. -/
theorem classify_of_judge (ha : w.heap.TypedAt a t)
    (hjudge : Sentinel.judge? w.heap (.ref a) name = some (.method p m))
    (hcall : call (.method p m) [.ref a] [] w =
      Smart.answer call' (.ref p) (.ref a) (.str suffix) w) :
    (∀ b, Smart.answer call' (.ref p) (.ref a) (.str suffix) w = .ok (.bool b) w →
      Sentinel.classify call (.ref a) name (.str suffix) w = .ok b w) ∧
    ∀ fault, Smart.answer call' (.ref p) (.ref a) (.str suffix) w = .error fault w →
      Sentinel.classify call (.ref a) name (.str suffix) w = .error fault w := by
  obtain ⟨f, hf, hgenuine⟩ := ha.node
  unfold Sentinel.classify
  rw [bind_of_ok (requireNode_apply (Heap.isNode_of_genuine hf hgenuine) _),
    bind_of_ok (heap_apply w), hjudge]
  simp only
  constructor
  · intro b hanswer
    rw [bind_of_ok (hcall.trans hanswer)]
    rfl
  · intro fault hanswer
    rw [bind_of_error (hcall.trans hanswer)]

section Judged

variable (ha : w.heap.TypedAt a t) (hm : Method.ofName? name = some m)
  (hname : name ∈ Kind.plain.ownNames)
  (hcall : ∀ p, call (.method p m) [.ref a] [] w =
    Smart.answer call' (.ref p) (.ref a) (.str suffix) w)
include ha hm hname hcall

/-- A smart parent compares types. -/
theorem classify_of_smartParent {tp : String} (hparent : w.heap.SmartParent p a)
    (htp : w.heap.attrOrNull (.ref p) "type" = .str tp) :
    Sentinel.classify call (.ref a) name (.str suffix) w = .ok (decide (t = tp ++ suffix)) w := by
  rcases judge?_cases ha hm hname with ⟨q, hq, hjudge⟩ | ⟨hnone, -⟩
  · obtain rfl : q = p := Value.ref.inj (hq.1.symm.trans hparent.1)
    apply (classify_of_judge ha hjudge (hcall q)).1
    exact Smart.answer_of_ne call' htp ha.type (Ne.symm hparent.2.1) suffix
  · exact absurd hparent (hnone p)

/-- Elsewhere the end of the type decides. -/
theorem classify_of_no_smartParent (hsuffix : suffix ≠ "")
    (hnone : ∀ p, ¬ w.heap.SmartParent p a) :
    Sentinel.classify call (.ref a) name (.str suffix) w =
      .ok (suffix.toList.isSuffixOf t.toList) w := by
  rcases judge?_cases ha hm hname with ⟨p, hparent, -⟩ | ⟨-, hjudge | hjudge⟩
  · exact absurd hparent (hnone p)
  · exact (classify_of_judge ha hjudge (hcall a)).1 _ (Smart.answer_self call' ha.type suffix)
  · exact classify_of_no_judge ha hsuffix hjudge call

/-- When a node is taken for a sentinel with a suffix: below a smart parent if it has that parent's
type with the suffix behind it, and elsewhere if its type ends in the suffix. -/
theorem classify_eq_true_iff (hsuffix : suffix ≠ "") :
    (Sentinel.classify call (.ref a) name (.str suffix)).result w = .ok true ↔
      (∃ p tp, w.heap.SmartParent p a ∧ w.heap.attrOrNull (.ref p) "type" = .str tp ∧
        t = tp ++ suffix) ∨
      (∀ p, ¬ w.heap.SmartParent p a) ∧ suffix.toList <:+ t.toList := by
  rcases judge?_cases ha hm hname with ⟨p, hparent, hjudge⟩ | ⟨hnone, -⟩
  · have hright : (∀ q, ¬ w.heap.SmartParent q a) ↔ False :=
      ⟨fun hno ↦ hno p hparent, False.elim⟩
    have honly : ∀ q, w.heap.SmartParent q a → q = p := by
      intro q hq
      have hsame := hq.1.symm.trans hparent.1
      exact Value.ref.inj hsame
    by_cases htext : ∃ tp, w.heap.attrOrNull (.ref p) "type" = .str tp
    · obtain ⟨tp, htp⟩ := htext
      rw [result_of_ok (classify_of_smartParent ha hm hname hcall hparent htp), hright]
      simp only [Except.ok.injEq, decide_eq_true_eq, false_and, or_false]
      constructor
      · intro ht
        exact ⟨p, tp, hparent, htp, ht⟩
      · rintro ⟨q, tq, hq, htq, ht⟩
        rw [honly q hq, htp] at htq
        rw [Value.str.inj htq]
        exact ht
    · -- The parent cannot compare types if its own is no text.
      obtain ⟨fault, hanswer⟩ := Smart.answer_of_no_text call' (Ne.symm hparent.2.1)
        (not_exists.mp htext) suffix
      rw [result_of_error ((classify_of_judge ha hjudge (hcall p)).2 _ hanswer), hright]
      simp only [reduceCtorEq, false_and, or_false, false_iff]
      rintro ⟨q, tq, hq, htq, -⟩
      rw [honly q hq] at htq
      exact htext ⟨tq, htq⟩
  · rw [result_of_ok (classify_of_no_smartParent ha hm hname hcall hsuffix hnone), Except.ok.injEq,
      List.isSuffixOf_iff_suffix]
    constructor
    · intro hends
      exact .inr ⟨hnone, hends⟩
    · rintro (⟨p, -, hparent, -⟩ | ⟨-, hends⟩)
      · exact absurd hparent (hnone p)
      · exact hends

end Judged

end Verdicts

/-! ## Passing for both -/

theorem Settings.ne_empty_of_isSuffix {text : String} (h : Settings.isSuffix text = true) :
    text ≠ "" := by
  rintro rfl
  cases h

section Both

variable {σ : Type} {w : World σ} {s : Settings} {a : Addr} {t : String} (foreign : Caller σ)
  (fuel : Nat) (haccepted : s.Accepted) (hs : w.Uses s)
include haccepted hs

theorem isOpen_eq_true_iff (ha : w.heap.TypedAt a t) :
    (Sentinel.isOpen (invoke foreign (fuel + 1)) (.ref a)).result w = .ok true ↔
      (∃ p tp, w.heap.SmartParent p a ∧ w.heap.attrOrNull (.ref p) "type" = .str tp ∧
        t = tp ++ s.openSuffix) ∨
      (∀ p, ¬ w.heap.SmartParent p a) ∧ s.openSuffix.toList <:+ t.toList := by
  rw [Op.result, Sentinel.isOpen_eq_classify hs, ← Op.result]
  exact classify_eq_true_iff ha rfl (by decide) (invoke_isOpen foreign fuel hs · (.ref a))
    (Settings.ne_empty_of_isSuffix haccepted.openSuffix)

theorem isClose_eq_true_iff (ha : w.heap.TypedAt a t) :
    (Sentinel.isClose (invoke foreign (fuel + 1)) (.ref a)).result w = .ok true ↔
      (∃ p tp, w.heap.SmartParent p a ∧ w.heap.attrOrNull (.ref p) "type" = .str tp ∧
        t = tp ++ s.closeSuffix) ∨
      (∀ p, ¬ w.heap.SmartParent p a) ∧ s.closeSuffix.toList <:+ t.toList := by
  rw [Op.result, Sentinel.isClose_eq_classify hs, ← Op.result]
  exact classify_eq_true_iff ha rfl (by decide) (invoke_isClose foreign fuel hs · (.ref a))
    (Settings.ne_empty_of_isSuffix haccepted.closeSuffix)

/-- No node has its parent's type with the one suffix and with the other one behind it. -/
theorem ambiguous_iff (ha : w.heap.TypedAt a t) :
    Sentinel.Ambiguous (invoke foreign (fuel + 1)) w (.ref a) ↔
      (∀ p, ¬ w.heap.SmartParent p a) ∧ s.openSuffix.toList <:+ t.toList ∧
        s.closeSuffix.toList <:+ t.toList := by
  unfold Sentinel.Ambiguous
  rw [isOpen_eq_true_iff foreign fuel haccepted hs ha,
    isClose_eq_true_iff foreign fuel haccepted hs ha]
  constructor
  · rintro ⟨⟨p, tp, hp, htp, hopen⟩ | ⟨hnone, hopen⟩, hclose⟩
    · rcases hclose with ⟨q, tq, hq, htq, hclose⟩ | ⟨hno, -⟩
      · obtain rfl : p = q := Value.ref.inj (hp.1.symm.trans hq.1)
        obtain rfl : tp = tq := Value.str.inj (htp.symm.trans htq)
        have hsame : s.openSuffix = s.closeSuffix := by
          have hjoined := hopen.symm.trans hclose
          simpa [← String.toList_inj] using hjoined
        exact absurd hsame haccepted.differ
      · exact absurd hp (hno p)
    · rcases hclose with ⟨q, -, hq, -⟩ | ⟨-, hclose⟩
      · exact absurd hq (hnone q)
      · exact ⟨hnone, hopen, hclose⟩
  · rintro ⟨hnone, hopen, hclose⟩
    exact ⟨.inr ⟨hnone, hopen⟩, .inr ⟨hnone, hclose⟩⟩

end Both

/-! ## Sentinels -/

section New

variable {h : Heap} {p : Addr} {e : Entity} {m : NodeMaker} {type : String} {payload : Value}
  {items : List Value}

theorem typedAt_addSentinel (hp : h.NodeAt p e) :
    (h.addSentinel m p type payload items).TypedAt (m.address h) type := by
  have hnew : (h.addSentinel m p type payload items).SentinelAt (m.address h) p _ type :=
    Heap.sentinelAt_addSentinel hp
  obtain ⟨f, hf⟩ := hnew.node
  obtain ⟨e', he'⟩ : ∃ e', (h.addSentinel m p type payload items).NodeAt p e' :=
    Heap.nodeAt_addSentinel hp hp
  exact {
    node := ⟨f, hf.found, hf.genuine⟩
    type := hnew.type
    parent := .inr ⟨p, e', hnew.parent, he'.found, he'.genuine⟩ }

theorem smartParent_addSentinel_iff (hp : h.NodeAt p e) (q : Addr) :
    (h.addSentinel m p type payload items).SmartParent q (m.address h) ↔
      q = p ∧ e.kind = .smart := by
  have hnew : (h.addSentinel m p type payload items).SentinelAt (m.address h) p _ type :=
    Heap.sentinelAt_addSentinel hp
  have hlt : p < h.fresh := Heap.lt_fresh_of_get? hp.found
  have hne : p ≠ m.address h := Nat.ne_of_lt (Nat.lt_of_lt_of_le hlt (m.fresh_le_address h))
  have hkind : (h.addSentinel m p type payload items).kindAt? p = some e.kind := by
    rw [Heap.kindAt?_addSentinel hlt hp, Heap.kindAt?_of_get? hp.found]
  unfold Heap.SmartParent
  rw [hnew.parent, Value.ref.injEq]
  constructor
  · rintro ⟨rfl, -, hsmart⟩
    rw [hkind] at hsmart
    exact ⟨rfl, Option.some.inj hsmart⟩
  · rintro ⟨rfl, hsmart⟩
    exact ⟨rfl, hne, by rw [hkind, hsmart]⟩

/-- When a new sentinel is taken for one with another suffix: below a plain node, if its type
happens to end in that suffix. -/
theorem verdict_addSentinel_iff (hp : h.NodeAt p e) {t x y : String}
    (ht : h.attrOrNull (.ref p) "type" = .str t) (hne : x ≠ y) :
    let h' := h.addSentinel m p (t ++ x) payload items
    ((∃ q tq, h'.SmartParent q (m.address h) ∧ h'.attrOrNull (.ref q) "type" = .str tq ∧
        t ++ x = tq ++ y) ∨
      (∀ q, ¬ h'.SmartParent q (m.address h)) ∧ y.toList <:+ (t ++ x).toList) ↔
    e.kind = .plain ∧ y.toList <:+ (t ++ x).toList := by
  intro h'
  constructor
  · rintro (⟨q, tq, hq, htq, hjoined⟩ | ⟨hnone, hends⟩)
    · obtain ⟨rfl, -⟩ := (smartParent_addSentinel_iff hp q).mp hq
      rw [Heap.attrOrNull_addSentinel hp hp (by decide) (by decide), ht] at htq
      obtain rfl : t = tq := Value.str.inj htq
      have hsame : x = y := by simpa [← String.toList_inj] using hjoined
      exact absurd hsame hne
    · have hk : e.kind ≠ .smart := by
        intro hk
        exact hnone p ((smartParent_addSentinel_iff hp p).mpr ⟨rfl, hk⟩)
      exact ⟨hp.genuine.kind.resolve_left hk, hends⟩
  · rintro ⟨hk, hends⟩
    refine .inr ⟨fun q hq ↦ ?_, hends⟩
    obtain ⟨-, hsmart⟩ := (smartParent_addSentinel_iff hp q).mp hq
    rw [hk] at hsmart
    cases hsmart

end New

section Added

variable {σ : Type} {w : World σ} {s : Settings} {p : Addr} {e : Entity} {t : String}
  {payload : Value} (foreign : Caller σ) (fuel : Nat) (m : NodeMaker) (haccepted : s.Accepted)
  (hs : w.Uses s) (hp : w.heap.NodeAt p e) (ht : w.heap.attrOrNull (.ref p) "type" = .str t)
  (hpayload : w.heap.callable payload = false)
include haccepted hs hp ht hpayload

theorem isClose_addOpen_iff :
    ∃ v w', Sentinel.addOpen (invoke foreign (fuel + 2)) (.ref p) m.value payload .null w =
        .ok v w' ∧
      ((Sentinel.isClose (invoke foreign (fuel + 2)) v).result w' = .ok true ↔
        e.kind = .plain ∧ s.closeSuffix.toList <:+ (t ++ s.openSuffix).toList) := by
  obtain ⟨log, hadd⟩ := Sentinel.addOpen_gives foreign fuel m hs hp ht hpayload
  refine ⟨_, _, hadd, ?_⟩
  have hs' := hs.of_keepsSettings (h := w.heap.opened m p (t ++ s.openSuffix) payload)
    (Heap.keepsSettings_addSentinel hp) log
  rw [isClose_eq_true_iff foreign (fuel + 1) haccepted hs' (typedAt_addSentinel hp)]
  exact verdict_addSentinel_iff hp ht haccepted.differ

theorem isOpen_addClose_iff :
    ∃ v w', Sentinel.addClose (invoke foreign (fuel + 2)) (.ref p) m.value payload .null w =
        .ok v w' ∧
      ((Sentinel.isOpen (invoke foreign (fuel + 2)) v).result w' = .ok true ↔
        e.kind = .plain ∧ s.openSuffix.toList <:+ (t ++ s.closeSuffix).toList) := by
  obtain ⟨log, hadd⟩ := Sentinel.addClose_gives foreign fuel m hs hp ht hpayload
  refine ⟨_, _, hadd, ?_⟩
  have hs' := hs.of_keepsSettings (h := w.heap.closed m p (t ++ s.closeSuffix) payload)
    (Heap.keepsSettings_addSentinel hp) log
  rw [isOpen_eq_true_iff foreign (fuel + 1) haccepted hs' (typedAt_addSentinel hp)]
  exact verdict_addSentinel_iff hp ht haccepted.differ.symm

end Added

/-! ## Settings that leave room for ambiguous nodes -/

/-- A world with the given settings in force and one plain node of the given type. -/
def loneNode {σ : Type} [Inhabited σ] (s : Settings) (t : String) : World σ where
  heap := ⟨#[some (.entity ⟨.settings, s.toAttrs, .absent⟩),
    some (.entity (NodeMaker.plain.entity {} t .null))]⟩
  active := some 0
  client := default

theorem typedAt_loneNode {σ : Type} [Inhabited σ] (s : Settings) (t : String) :
    (loneNode s t : World σ).heap.TypedAt 1 t where
  node := ⟨_, rfl, NodeMaker.plain.genuine_entity {} t .null⟩
  type := rfl
  parent := .inl rfl

/-- Two suffixes are at the end of some text both if and only if one of them ends in the other. -/
theorem exists_both_suffixes_iff (x y : List Char) :
    (∃ t, x <:+ t ∧ y <:+ t) ↔ x <:+ y ∨ y <:+ x := by
  constructor
  · rintro ⟨t, hx, hy⟩
    exact List.suffix_or_suffix_of_suffix hx hy
  · rintro (hxy | hyx)
    · exact ⟨y, hxy, List.suffix_rfl⟩
    · exact ⟨x, List.suffix_rfl, hyx⟩

/-- Which nodes pass for an open and a close sentinel at once under accepted settings: those that no
smart parent judges and whose type ends in both suffixes. A new sentinel passes for one of the other
kind exactly if it stands below a plain node and its type happens to end in the other suffix. So
open and close sentinels can always be told apart if and only if neither suffix ends in the
other. -/
theorem ambiguous_exactly_where_suffixes_overlap {σ : Type} [Inhabited σ] (foreign : Caller σ)
    (fuel : Nat) {given : Settings.Given} {s : Settings} (hcheck : Settings.check given = .ok s) :
    (∀ (w : World σ) (a : Addr) (t : String), w.Uses s → w.heap.TypedAt a t →
      (Sentinel.Ambiguous (invoke foreign (fuel + 2)) w (.ref a) ↔
        (∀ p, ¬ w.heap.SmartParent p a) ∧ s.openSuffix.toList <:+ t.toList ∧
          s.closeSuffix.toList <:+ t.toList)) ∧
    (∀ (w : World σ) (p : Addr) (e : Entity) (t : String) (m : NodeMaker) (payload : Value),
      w.Uses s → w.heap.NodeAt p e → w.heap.attrOrNull (.ref p) "type" = .str t →
      w.heap.callable payload = false →
      (∃ v w', Sentinel.addOpen (invoke foreign (fuel + 2)) (.ref p) m.value payload .null w =
          .ok v w' ∧
        ((Sentinel.isClose (invoke foreign (fuel + 2)) v).result w' = .ok true ↔
          e.kind = .plain ∧ s.closeSuffix.toList <:+ (t ++ s.openSuffix).toList)) ∧
      ∃ v w', Sentinel.addClose (invoke foreign (fuel + 2)) (.ref p) m.value payload .null w =
          .ok v w' ∧
        ((Sentinel.isOpen (invoke foreign (fuel + 2)) v).result w' = .ok true ↔
          e.kind = .plain ∧ s.openSuffix.toList <:+ (t ++ s.closeSuffix).toList)) ∧
    ((∀ (w : World σ) (a : Addr) (t : String), w.Uses s → w.heap.TypedAt a t →
        ¬ Sentinel.Ambiguous (invoke foreign (fuel + 2)) w (.ref a)) ↔
      ¬ s.openSuffix.toList <:+ s.closeSuffix.toList ∧
        ¬ s.closeSuffix.toList <:+ s.openSuffix.toList) := by
  have haccepted := Settings.accepted_of_check hcheck
  refine ⟨?_, ?_, ?_, ?_⟩
  · intro w a t hs ha
    exact ambiguous_iff foreign (fuel + 1) haccepted hs ha
  · intro w p e t m payload hs hp ht hpayload
    exact ⟨isClose_addOpen_iff foreign fuel m haccepted hs hp ht hpayload,
      isOpen_addClose_iff foreign fuel m haccepted hs hp ht hpayload⟩
  · intro hnever
    rw [← not_or, ← exists_both_suffixes_iff]
    rintro ⟨t, hopen, hclose⟩
    -- A plain node without a parent can have any type.
    have hs : (loneNode s (String.ofList t) : World σ).Uses s := rfl
    have ha := typedAt_loneNode (σ := σ) s (String.ofList t)
    apply hnever _ 1 _ hs ha
    rw [ambiguous_iff foreign (fuel + 1) haccepted hs ha, String.toList_ofList]
    refine ⟨?_, hopen, hclose⟩
    rintro p ⟨hparent, -⟩
    cases hparent
  · rintro ⟨hopen, hclose⟩ w a t hs ha hboth
    obtain ⟨-, hends⟩ := (ambiguous_iff foreign (fuel + 1) haccepted hs ha).mp hboth
    rcases (exists_both_suffixes_iff _ _).mp ⟨_, hends⟩ with h | h
    · exact hopen h
    · exact hclose h

/-- Settings whose close suffix ends in the open one. -/
def overlapping : Settings := { openSuffix := ".x", closeSuffix := ".a.x" }

theorem accepted_overlapping : overlapping.Accepted :=
  ⟨by decide, by decide, by decide, by decide⟩

/-- Two different suffixes are accepted, and still the close sentinel of a plain node passes for an
open one too. -/
theorem closeSentinel_passes_for_open :
    let call := invoke (fun _ _ _ ↦ throw .unsupported : Caller Unit) 2
    let w := loneNode overlapping "t"
    Settings.check overlapping.toGiven = .ok overlapping ∧ w.Uses overlapping ∧
      ∃ v w', Sentinel.addClose call (.ref 1) NodeMaker.plain.value .null .null w = .ok v w' ∧
        w'.heap.attrOrNull v "type" = .str "t.a.x" ∧ Sentinel.Ambiguous call w' v := by
  intro call w
  have hs : w.Uses overlapping := rfl
  have hp : w.heap.NodeAt 1 (NodeMaker.plain.entity {} "t" .null) :=
    ⟨rfl, NodeMaker.plain.genuine_entity {} "t" .null, .inl rfl, fun q hq ↦ by cases hq⟩
  obtain ⟨log, hadd⟩ := Sentinel.addClose_gives (fun _ _ _ ↦ throw .unsupported) 0 .plain hs hp
    (show w.heap.attrOrNull (.ref 1) "type" = .str "t" from rfl)
    (show w.heap.callable .null = false from rfl)
  have hs' := hs.of_keepsSettings (h := w.heap.closed .plain 1 ("t" ++ ".a.x") .null)
    (Heap.keepsSettings_addSentinel hp) log
  have hnew : (w.heap.closed .plain 1 ("t" ++ ".a.x") .null).TypedAt _ _ := typedAt_addSentinel hp
  have hplain : ∀ q, ¬ (w.heap.closed .plain 1 ("t" ++ ".a.x") .null).SmartParent q
      (NodeMaker.plain.address w.heap) := by
    intro q hq
    obtain ⟨-, hsmart⟩ := (smartParent_addSentinel_iff hp q).mp hq
    cases hsmart
  refine ⟨accepted_overlapping.check_toGiven, hs, _, _, hadd, hnew.type, ?_⟩
  apply (ambiguous_iff _ 1 accepted_overlapping hs' hnew).mpr
  exact ⟨hplain, ⟨"t.a".toList, by decide⟩, ⟨"t".toList, by decide⟩⟩

/-- A type that ends in both suffixes, and settings under which no type does. -/
theorem ambiguous_under_overlapping_not_default :
    let call := invoke (fun _ _ _ ↦ throw .unsupported : Caller Unit) 2
    let w := loneNode overlapping "t.a.x"
    Settings.check overlapping.toGiven = .ok overlapping ∧ w.Uses overlapping ∧
      w.heap.TypedAt 1 "t.a.x" ∧ Sentinel.Ambiguous call w (.ref 1) ∧
      Settings.check [] = .ok {} ∧
      ∀ (w : World Unit) (a : Addr) (t : String), w.Uses {} → w.heap.TypedAt a t →
        ¬ Sentinel.Ambiguous call w (.ref a) := by
  intro call w
  have hcheck := accepted_overlapping.check_toGiven
  have htyped : w.heap.TypedAt 1 "t.a.x" := typedAt_loneNode _ _
  have hboth : Sentinel.Ambiguous call w (.ref 1) := by
    apply ((ambiguous_exactly_where_suffixes_overlap _ 0 hcheck).1 w 1 "t.a.x" rfl htyped).mpr
    refine ⟨?_, ⟨"t.a".toList, by decide⟩, ⟨"t".toList, by decide⟩⟩
    rintro p ⟨hparent, -⟩
    cases hparent
  have hdefault : Settings.check [] = .ok {} := rfl
  exact ⟨hcheck, rfl, htyped, hboth, hdefault,
    (ambiguous_exactly_where_suffixes_overlap _ 0 hdefault).2.2.mpr ⟨by decide, by decide⟩⟩

end TagTree
