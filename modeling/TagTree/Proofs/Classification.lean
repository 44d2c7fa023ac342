import TagTree.Proofs.Sentinels

/-!
# Telling sentinels

Whether a node is an open or a close sentinel is judged by its parent, and by the node itself if it
has no parent. A smart parent compares types: the node must be its own sentinel. A smart node
without a parent looks at the end of its own type. Both ways are the same for the two suffixes.
-/

namespace TagTree

open Op

section Answers

variable {σ : Type} {w : World σ} {p a : Addr} {e : Entity} {tp ta suffix : String}

theorem Heap.equal_str (h : Heap) (s t : String) :
    h.equal walkDepth (.str s) (.str t) = decide (s = t) := by
  rw [show walkDepth = 99999 + 1 from rfl]
  simp [Heap.equal, Value.toInt?, Bool.beq_eq_decide_eq]

/-- What a smart node answers about another node: whether that one's type is its own with the suffix
behind it. -/
theorem Smart.answer_of_ne (call : Caller σ)
    (htp : w.heap.attrOrNull (.ref p) "type" = .str tp)
    (hta : w.heap.attrOrNull (.ref a) "type" = .str ta) (hne : a ≠ p) (suffix : String) :
    Smart.answer call (.ref p) (.ref a) (.str suffix) w =
      .ok (.bool (decide (ta = tp ++ suffix))) w := by
  have href : Value.ref a ≠ .ref p := by simpa using hne
  have hsentinel : Smart.isSentinel (.ref p) (.ref a) (.str suffix) w =
      .ok (decide (ta = tp ++ suffix)) w := by
    rw [Smart.isSentinel, bind_of_ok (getAttr_type htp), if_neg href]
    simp [Smart.joinSuffix, Smart.hasTypeEqual, bind_apply, map_apply, hta, Heap.equal_str]
  rw [Smart.answer, bind_of_ok (getAttr_type htp), if_neg (fun h ↦ href h.1),
    bind_of_ok hsentinel, pure_apply]

/-- What a smart node answers about itself: whether its type ends in the suffix. -/
theorem Smart.answer_self (call : Caller σ)
    (htp : w.heap.attrOrNull (.ref p) "type" = .str tp) (suffix : String) :
    Smart.answer call (.ref p) (.ref p) (.str suffix) w =
      .ok (.bool (suffix.toList.isSuffixOf tp.toList)) w := by
  have hsentinel : Smart.isSentinel (.ref p) (.ref p) (.str suffix) w =
      .ok (suffix.toList.isSuffixOf tp.toList) w := by
    rw [Smart.isSentinel, bind_of_ok (getAttr_type htp), if_pos rfl]
    rfl
  rw [Smart.answer, bind_of_ok (getAttr_type htp), if_neg (by simp [isText]),
    bind_of_ok hsentinel, pure_apply]

/-- Neither way finds a suffix that is not at the end of the type. -/
theorem Smart.answer_of_not_suffix (call : Caller σ)
    (htp : w.heap.attrOrNull (.ref p) "type" = .str tp)
    (hta : w.heap.attrOrNull (.ref a) "type" = .str ta) (hout : ¬ suffix.toList <:+ ta.toList) :
    Smart.answer call (.ref p) (.ref a) (.str suffix) w = .ok (.bool false) w := by
  by_cases hap : a = p
  · subst hap
    obtain rfl : ta = tp := by simpa [htp] using hta.symm
    have hfalse : suffix.toList.isSuffixOf ta.toList = false := by
      rw [← Bool.not_eq_true, List.isSuffixOf_iff_suffix]
      exact hout
    rw [Smart.answer_self call htp, hfalse]
  · have hne : ta ≠ tp ++ suffix := by
      rintro rfl
      exact hout (by simp)
    rw [Smart.answer_of_ne call htp hta hap, decide_eq_false hne]

end Answers

/-! ## Judges -/

/-- The node that judges another one: its parent, or itself if it has none. -/
def Heap.Judges (h : Heap) (p a : Addr) : Prop :=
  h.attrOrNull (.ref a) "parent" = .ref p ∨ h.attrOrNull (.ref a) "parent" = .null ∧ p = a

section Judging

variable {σ : Type} {w : World σ} {s : Settings} {p a : Addr} {e f : Entity}
  {name : String} {m : Method}

theorem judge?_of_judges {h : Heap} (hj : h.Judges p a) (hp : h.NodeAt p e) (hk : e.kind = .smart)
    (hm : Method.ofName? name = some m) :
    Sentinel.judge? h (.ref a) name = some (.method p m) := by
  have hability := Heap.capability_of_smart hp.found hp.genuine hk hm
  unfold Sentinel.judge?
  rcases hj with hparent | ⟨hnull, rfl⟩
  · rw [hparent, hability]
    rfl
  · have hnone : h.capability .null name = none := rfl
    rw [hnull, hnone, hability]
    rfl

/-- A node is classified as its judge answers. -/
theorem Sentinel.classify_apply {call : Caller σ} {answer : Bool} (hj : w.heap.Judges p a)
    (hp : w.heap.NodeAt p e) (hk : e.kind = .smart) (ha : w.heap.NodeAt a f)
    (hm : Method.ofName? name = some m)
    (hcall : call (.method p m) [.ref a] [] w = .ok (.bool answer) w) (suffix : Value) :
    Sentinel.classify call (.ref a) name suffix w = .ok answer w := by
  have hnode := Heap.isNode_of_genuine ha.found ha.genuine
  rw [Sentinel.classify, bind_of_ok (requireNode_apply hnode _),
    bind_of_ok (heap_apply w), judge?_of_judges hj hp hk hm]
  simp only
  rw [bind_of_ok hcall]
  rfl

variable (foreign : Caller σ) (fuel : Nat) (hs : w.Uses s)
include hs

theorem invoke_isOpen (p : Addr) (node : Value) :
    invoke foreign (fuel + 1) (.method p .isOpen) [node] [] w =
      Smart.answer (invoke foreign fuel) (.ref p) node (.str s.openSuffix) w := by
  rw [invoke_method foreign fuel p rfl]
  simp only [Method.run, Smart.isOpen]
  rw [bind_of_ok hs.openSuffix_apply]

theorem invoke_isClose (p : Addr) (node : Value) :
    invoke foreign (fuel + 1) (.method p .isClose) [node] [] w =
      Smart.answer (invoke foreign fuel) (.ref p) node (.str s.closeSuffix) w := by
  rw [invoke_method foreign fuel p rfl]
  simp only [Method.run, Smart.isClose]
  rw [bind_of_ok hs.closeSuffix_apply]

theorem Sentinel.isOpen_eq_classify (call : Caller σ) (node : Value) :
    Sentinel.isOpen call node w = Sentinel.classify call node "is_open" (.str s.openSuffix) w := by
  rw [Sentinel.isOpen, bind_of_ok hs.openSuffix_apply]

theorem Sentinel.isClose_eq_classify (call : Caller σ) (node : Value) :
    Sentinel.isClose call node w =
      Sentinel.classify call node "is_close" (.str s.closeSuffix) w := by
  rw [Sentinel.isClose, bind_of_ok hs.closeSuffix_apply]

variable (hj : w.heap.Judges p a) (hp : w.heap.NodeAt p e) (hk : e.kind = .smart)
  (ha : w.heap.NodeAt a f) {answer : Bool}
include hj hp hk ha

theorem Sentinel.isOpen_apply
    (hanswer : Smart.answer (invoke foreign fuel) (.ref p) (.ref a) (.str s.openSuffix) w =
      .ok (.bool answer) w) :
    Sentinel.isOpen (invoke foreign (fuel + 1)) (.ref a) w = .ok answer w := by
  rw [Sentinel.isOpen_eq_classify hs]
  apply Sentinel.classify_apply hj hp hk ha rfl
  rw [invoke_isOpen foreign fuel hs, hanswer]

theorem Sentinel.isClose_apply
    (hanswer : Smart.answer (invoke foreign fuel) (.ref p) (.ref a) (.str s.closeSuffix) w =
      .ok (.bool answer) w) :
    Sentinel.isClose (invoke foreign (fuel + 1)) (.ref a) w = .ok answer w := by
  rw [Sentinel.isClose_eq_classify hs]
  apply Sentinel.classify_apply hj hp hk ha rfl
  rw [invoke_isClose foreign fuel hs, hanswer]

end Judging

/-! ## Sentinels -/

section OfSentinels

variable {σ : Type} {w : World σ} {s : Settings} {p a : Addr} {e : Entity} {k : Kind}
  {t suffix : String} (foreign : Caller σ) (fuel : Nat) (hs : w.Uses s)
  (ha : w.heap.SentinelAt a p k (t ++ suffix)) (hp : w.heap.NodeAt p e) (hk : e.kind = .smart)
  (ht : w.heap.attrOrNull (.ref p) "type" = .str t) (hne : a ≠ p)
include hs ha hp hk ht hne

/-- A sentinel is an open one if and only if it has the suffix of open ones. -/
theorem Heap.SentinelAt.isOpen_apply :
    Sentinel.isOpen (invoke foreign (fuel + 1)) (.ref a) w =
      .ok (decide (suffix = s.openSuffix)) w := by
  obtain ⟨f, hf⟩ := ha.node
  refine Sentinel.isOpen_apply foreign fuel hs (.inl ha.parent) hp hk hf ?_
  rw [Smart.answer_of_ne _ ht ha.type hne]
  simp

/-- A sentinel is a close one if and only if it has the suffix of close ones. -/
theorem Heap.SentinelAt.isClose_apply :
    Sentinel.isClose (invoke foreign (fuel + 1)) (.ref a) w =
      .ok (decide (suffix = s.closeSuffix)) w := by
  obtain ⟨f, hf⟩ := ha.node
  refine Sentinel.isClose_apply foreign fuel hs (.inl ha.parent) hp hk hf ?_
  rw [Smart.answer_of_ne _ ht ha.type hne]
  simp

end OfSentinels

end TagTree
