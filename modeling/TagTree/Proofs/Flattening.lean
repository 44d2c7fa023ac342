import TagTree.Proofs.Matching

/-!
# Nested matchers

A matcher in which collections are nested is gone through from left to right, and its leaves alone
decide: the first of them that accepts the type name or is of no supported shape. Only where there
are leaves of no supported shape does their order matter. Without such leaves two matchers with the
same leaves give the same answer, however the leaves are ordered, repeated and nested, and whatever
they are collected in (`isType_scans_leaves`).
-/

namespace TagTree.Matcher

open Op

variable {σ : Type} {h : Heap}

/-! ## Leaves -/

/-- The leaves of a row of values, from left to right: collections are taken apart, at every depth,
and all else is a leaf. -/
inductive Flattens (h : Heap) : List Value → List Value → Prop
  | nil : Flattens h [] []
  | leaf {v : Value} {rest leaves : List Value} (hv : h.collection? v = none)
      (hrest : Flattens h rest leaves) : Flattens h (v :: rest) (v :: leaves)
  | collection {m : Value} {items inner rest leaves : List Value}
      (hm : h.collection? m = some items) (hinner : Flattens h items inner)
      (hrest : Flattens h rest leaves) : Flattens h (m :: rest) (inner ++ leaves)

/-- A leaf of no supported shape: neither a type name nor a pattern. -/
def Unsupported (leaf : Value) : Prop :=
  (∀ name, leaf ≠ .str name) ∧ ∀ p, leaf ≠ .pattern p

/-- Some leaf of one kind comes before every leaf of another. -/
def Precedes (P Q : Value → Prop) (leaves : List Value) : Prop :=
  ∃ before leaf after, leaves = before ++ leaf :: after ∧ P leaf ∧ ∀ other ∈ before, ¬ Q other

theorem Flattens.collection?_eq_none {items leaves : List Value}
    (hitems : Flattens h items leaves) : ∀ leaf ∈ leaves, h.collection? leaf = none := by
  induction hitems with
  | nil => simp
  | leaf hv _ ih => exact List.forall_mem_cons.mpr ⟨hv, ih⟩
  | collection _ _ _ ihInner ihRest => exact List.forall_mem_append.mpr ⟨ihInner, ihRest⟩

theorem not_precedes_nil (P Q : Value → Prop) : ¬ Precedes P Q [] := by
  rintro ⟨before, leaf, after, heq, -, -⟩
  simp at heq

theorem precedes_cons_iff {P Q : Value → Prop} {leaf : Value} {rest : List Value} :
    Precedes P Q (leaf :: rest) ↔ P leaf ∨ ¬ Q leaf ∧ Precedes P Q rest := by
  constructor
  · rintro ⟨before, found, after, heq, hfound, hbefore⟩
    cases before with
    | nil =>
      obtain ⟨rfl, -⟩ := List.cons.inj heq
      exact .inl hfound
    | cons first before =>
      obtain ⟨rfl, hrest⟩ := List.cons.inj heq
      obtain ⟨hfirst, hbefore⟩ := List.forall_mem_cons.mp hbefore
      exact .inr ⟨hfirst, before, found, after, hrest, hfound, hbefore⟩
  · rintro (hleaf | ⟨hleaf, before, found, after, rfl, hfound, hbefore⟩)
    · exact ⟨[], leaf, rest, rfl, hleaf, by simp⟩
    · exact ⟨leaf :: before, found, after, rfl, hfound, List.forall_mem_cons.mpr ⟨hleaf, hbefore⟩⟩

/-! ## The scan -/

/-- The second of two answers counts if the first one is no. -/
def otherwise : Except Fault Bool → Except Fault Bool → Except Fault Bool
  | .ok false, second => second
  | first, _ => first

/-- What a leaf says about a type name. -/
def leafAnswer (type : String) : Value → Except Fault Bool
  | .str name => .ok (type = name)
  | .pattern p => .ok (p.search type)
  | _ => .error notMatcher

/-- What a row of leaves says about a type name: the first leaf that does not say no decides. -/
def scanLeaves (type : String) (leaves : List Value) : Except Fault Bool :=
  leaves.foldr (fun leaf rest ↦ otherwise (leafAnswer type leaf) rest) (.ok false)

theorem otherwise_assoc (a b c : Except Fault Bool) :
    otherwise (otherwise a b) c = otherwise a (otherwise b c) := by
  rcases a with fault | (_ | _) <;> rfl

theorem scanLeaves_cons (type : String) (leaf : Value) (rest : List Value) :
    scanLeaves type (leaf :: rest) = otherwise (leafAnswer type leaf) (scanLeaves type rest) :=
  rfl

theorem scanLeaves_append (type : String) (front back : List Value) :
    scanLeaves type (front ++ back) =
      otherwise (scanLeaves type front) (scanLeaves type back) := by
  induction front with
  | nil => rfl
  | cons leaf rest ih =>
    calc
      scanLeaves type (leaf :: rest ++ back) =
          otherwise (leafAnswer type leaf) (scanLeaves type (rest ++ back)) :=
        scanLeaves_cons type leaf _
      _ = otherwise (leafAnswer type leaf)
          (otherwise (scanLeaves type rest) (scanLeaves type back)) := by rw [ih]
      _ = otherwise (scanLeaves type (leaf :: rest)) (scanLeaves type back) :=
        (otherwise_assoc _ _ _).symm

/-- A leaf says yes, says no, or is of no supported shape. -/
theorem leafAnswer_cases (type : String) {leaf : Value} (hleaf : h.collection? leaf = none) :
    (leafAnswer type leaf = .ok true ∧ Accepts h type leaf ∧ ¬ Unsupported leaf) ∨
    (leafAnswer type leaf = .ok false ∧ ¬ Accepts h type leaf ∧ ¬ Unsupported leaf) ∨
    (leafAnswer type leaf = .error notMatcher ∧ ¬ Accepts h type leaf ∧ Unsupported leaf) := by
  cases leaf with
  | str name => by_cases heq : type = name <;> simp [leafAnswer, accepts_text_iff, Unsupported, heq]
  | pattern p =>
    cases hsearch : p.search type <;>
      simp [leafAnswer, accepts_pattern_iff, Unsupported, hsearch]
  | _ =>
    refine .inr (.inr ⟨rfl, fun haccepts ↦ ?_, by simp [Unsupported]⟩)
    cases haccepts with
    | item hitems => cases hleaf.symm.trans hitems

/-- The scan says yes if a leaf that accepts comes before every unsupported one, fails if it is the
other way round, and says no if there is neither. -/
theorem scanLeaves_iff (type : String) {leaves : List Value}
    (hleaves : ∀ leaf ∈ leaves, h.collection? leaf = none) :
    (scanLeaves type leaves = .ok true ↔ Precedes (Accepts h type) Unsupported leaves) ∧
    (scanLeaves type leaves = .error notMatcher ↔
      Precedes Unsupported (Accepts h type) leaves) ∧
    (scanLeaves type leaves = .ok false ↔
      ∀ leaf ∈ leaves, ¬ Accepts h type leaf ∧ ¬ Unsupported leaf) := by
  induction leaves with
  | nil => simp [scanLeaves, not_precedes_nil]
  | cons leaf rest ih =>
    obtain ⟨hleaf, hrest⟩ := List.forall_mem_cons.mp hleaves
    rw [scanLeaves_cons, precedes_cons_iff, precedes_cons_iff, List.forall_mem_cons]
    rcases leafAnswer_cases type hleaf with
      ⟨hanswer, haccepts, hshape⟩ | ⟨hanswer, haccepts, hshape⟩ | ⟨hanswer, haccepts, hshape⟩
    · simp [hanswer, otherwise, haccepts, hshape]
    · simpa [hanswer, otherwise, haccepts, hshape] using ih hrest
    · simp [hanswer, otherwise, haccepts, hshape]

/-! ## Asking about nested matchers -/

section Asking

variable {w : World σ} {x : Value} {type : String}

theorem isType_leaf (hx : w.heap.isNode x = true)
    (htype : w.heap.attrOrNull x "type" = .str type) (n : Nat) {leaf : Value}
    (hleaf : w.heap.collection? leaf = none) :
    (isType x (n + 1) leaf : Op σ Bool) w = fromExcept (leafAnswer type leaf) w := by
  rw [isType_of_node hx htype]
  cases leaf with
  | ref a => simp only [hleaf]; rfl
  | _ => rfl

theorem isType_collection (hx : w.heap.isNode x = true)
    (htype : w.heap.attrOrNull x "type" = .str type) (n : Nat) {m : Value} {items : List Value}
    (hm : w.heap.collection? m = some items) :
    (isType x (n + 1) m : Op σ Bool) w = anyItem (isType x n) items w := by
  rw [isType_of_node hx htype]
  obtain ⟨a, rfl⟩ := Heap.exists_ref_of_collection? hm
  simp only [hm]

/-- What is asked of a row of items is answered item by item. -/
theorem anyItem_cons_of_answers {p : Value → Op σ Bool} {item : Value} {rest : List Value}
    {a b : Except Fault Bool} (hitem : p item w = fromExcept a w)
    (hrest : anyItem p rest w = fromExcept b w) :
    anyItem p (item :: rest) w = fromExcept (otherwise a b) w := by
  rw [anyItem]
  rcases a with fault | (_ | _)
  · exact bind_of_error hitem _
  · exact (bind_of_ok hitem _).trans hrest
  · exact bind_of_ok hitem _

/-- Whatever is nested, the answer is that of a scan of the leaves. -/
theorem anyItem_isType_eq_scan (hx : w.heap.isNode x = true)
    (htype : w.heap.attrOrNull x "type" = .str type) {items leaves : List Value}
    (hitems : Flattens w.heap items leaves) :
    ∃ bound, ∀ fuel, bound ≤ fuel →
      (anyItem (isType x fuel) items : Op σ Bool) w = fromExcept (scanLeaves type leaves) w := by
  induction hitems with
  | nil => exact ⟨0, fun fuel _ ↦ rfl⟩
  | leaf hv _ ih =>
    obtain ⟨bound, hbound⟩ := ih
    refine ⟨bound + 1, fun fuel hfuel ↦ ?_⟩
    obtain ⟨n, rfl⟩ : ∃ n, fuel = n + 1 := ⟨fuel - 1, by omega⟩
    exact anyItem_cons_of_answers (isType_leaf hx htype n hv) (hbound _ (by omega))
  | collection hm _ _ ihInner ihRest =>
    obtain ⟨boundInner, hinner⟩ := ihInner
    obtain ⟨boundRest, hrest⟩ := ihRest
    refine ⟨max boundInner boundRest + 1, fun fuel hfuel ↦ ?_⟩
    obtain ⟨n, rfl⟩ : ∃ n, fuel = n + 1 := ⟨fuel - 1, by omega⟩
    rw [scanLeaves_append]
    refine anyItem_cons_of_answers ?_ (hrest _ (by omega))
    exact (isType_collection hx htype n hm).trans (hinner n (by omega))

/-- A row with one item is asked as the item itself. -/
theorem anyItem_singleton (p : Value → Op σ Bool) (m : Value) (w : World σ) :
    anyItem p [m] w = p m w := by
  rw [anyItem, bind_apply]
  cases p m w with
  | ok answer w' => cases answer <;> rfl
  | error fault w' => rfl

theorem isType_eq_scan (hx : w.heap.isNode x = true)
    (htype : w.heap.attrOrNull x "type" = .str type) {m : Value} {leaves : List Value}
    (hm : Flattens w.heap [m] leaves) :
    ∃ bound, ∀ fuel, bound ≤ fuel →
      (isType x fuel m : Op σ Bool) w = fromExcept (scanLeaves type leaves) w := by
  obtain ⟨bound, hbound⟩ := anyItem_isType_eq_scan hx htype hm
  exact ⟨bound, fun fuel hfuel ↦ (anyItem_singleton _ m w).symm.trans (hbound fuel hfuel)⟩

theorem fromExcept_eq_ok_iff {answer : Except Fault Bool} {b : Bool} :
    (fromExcept answer : Op σ Bool) w = .ok b w ↔ answer = .ok b := by
  cases answer <;> simp

theorem fromExcept_eq_error_iff {answer : Except Fault Bool} {fault : Fault} :
    (fromExcept answer : Op σ Bool) w = .error fault w ↔ answer = .error fault := by
  cases answer <;> simp

/-- Without unsupported leaves the answer is yes if some leaf accepts the type name, and otherwise
no. -/
theorem scanLeaves_of_supported (type : String) {leaves : List Value}
    (hleaves : ∀ leaf ∈ leaves, h.collection? leaf = none)
    (hsupported : ∀ leaf ∈ leaves, ¬ Unsupported leaf) :
    ∃ answer, scanLeaves type leaves = .ok answer ∧
      (answer = true ↔ ∃ leaf ∈ leaves, Accepts h type leaf) := by
  obtain ⟨htrue, -, hfalse⟩ := scanLeaves_iff type hleaves
  by_cases haccepted : ∃ leaf ∈ leaves, Accepts h type leaf
  · obtain ⟨leaf, hleaf, haccepts⟩ := haccepted
    obtain ⟨before, after, rfl⟩ := List.append_of_mem hleaf
    have hbefore : ∀ other ∈ before, ¬ Unsupported other :=
      fun other hother ↦ hsupported other (List.mem_append_left _ hother)
    refine ⟨true, htrue.mpr ⟨before, leaf, after, rfl, haccepts, hbefore⟩, ?_⟩
    simp only [true_iff]
    exact ⟨leaf, hleaf, haccepts⟩
  · refine ⟨false, hfalse.mpr fun leaf hleaf ↦ ⟨fun haccepts ↦ ?_, hsupported leaf hleaf⟩, ?_⟩
    · exact haccepted ⟨leaf, hleaf, haccepts⟩
    · simpa using haccepted

/-- Asking whether the type of a node matches is a scan of the leaves of the matcher from left to
right. The answer is yes if a leaf that accepts the type comes before every leaf of no supported
shape, the question fails if it is the other way round, and the answer is no if there are neither.
Two matchers that have the same leaves, all of a supported shape, get the same answer. -/
theorem isType_scans_leaves (hx : w.heap.isNode x = true)
    (htype : w.heap.attrOrNull x "type" = .str type) :
    (∀ m leaves, Flattens w.heap [m] leaves → ∃ bound, ∀ fuel, bound ≤ fuel →
      (isType x fuel m w = .ok true w ↔
        Precedes (Accepts w.heap type) Unsupported leaves) ∧
      (isType x fuel m w = .error notMatcher w ↔
        Precedes Unsupported (Accepts w.heap type) leaves) ∧
      (isType x fuel m w = .ok false w ↔
        ∀ leaf ∈ leaves, ¬ Accepts w.heap type leaf ∧ ¬ Unsupported leaf)) ∧
    ∀ m m' leaves leaves', Flattens w.heap [m] leaves → Flattens w.heap [m'] leaves' →
      (∀ leaf ∈ leaves, ¬ Unsupported leaf) → (∀ leaf, leaf ∈ leaves ↔ leaf ∈ leaves') →
      ∃ answer bound, ∀ fuel, bound ≤ fuel →
        isType x fuel m w = .ok answer w ∧ isType x fuel m' w = .ok answer w := by
  constructor
  · intro m leaves hm
    obtain ⟨bound, hscan⟩ := isType_eq_scan hx htype hm
    refine ⟨bound, fun fuel hfuel ↦ ?_⟩
    rw [hscan fuel hfuel, fromExcept_eq_ok_iff, fromExcept_eq_error_iff, fromExcept_eq_ok_iff]
    exact scanLeaves_iff type hm.collection?_eq_none
  · intro m m' leaves leaves' hm hm' hsupported hsame
    obtain ⟨bound, hscan⟩ := isType_eq_scan hx htype hm
    obtain ⟨bound', hscan'⟩ := isType_eq_scan hx htype hm'
    have hsupported' : ∀ leaf ∈ leaves', ¬ Unsupported leaf :=
      fun leaf hleaf ↦ hsupported leaf ((hsame leaf).mpr hleaf)
    obtain ⟨answer, hanswer, hiff⟩ :=
      scanLeaves_of_supported type hm.collection?_eq_none hsupported
    obtain ⟨answer', hanswer', hiff'⟩ :=
      scanLeaves_of_supported type hm'.collection?_eq_none hsupported'
    have heq : answer = answer' := by
      rw [Bool.eq_iff_iff, hiff, hiff']
      simp only [hsame]
    refine ⟨answer, max bound bound', fun fuel hfuel ↦ ⟨?_, ?_⟩⟩
    · rw [hscan fuel (by omega), hanswer]
      rfl
    · rw [hscan' fuel (by omega), hanswer', heq]
      rfl

end Asking

/-- A world with a node at 0 and nested matchers: at 1 one with a number behind the leaf that
accepts the type of the node, at 4 one with the number in front, and at 5 a set of the type names in
both. -/
def nestedMatchers : World Unit where
  heap := ⟨#[some (.entity ⟨.plain, [("type", .str "a"), ("nodes", .null), ("parent", .null)],
      .absent⟩),
    some (.list [.ref 2, .int 5]), some (.tuple [.str "b", .ref 3]), some (.list [.str "a"]),
    some (.tuple [.int 5, .ref 2]), some (.set true [.str "a", .str "b"])]⟩
  client := ()

/-- The leaf that comes first decides, and nesting and order do not matter to type names. -/
theorem isType_nestedMatchers :
    ∃ bound, ∀ fuel, bound ≤ fuel →
      isType (.ref 0) fuel (.ref 1) nestedMatchers = .ok true nestedMatchers ∧
      isType (.ref 0) fuel (.ref 4) nestedMatchers = .error notMatcher nestedMatchers ∧
      isType (.ref 0) fuel (.ref 2) nestedMatchers =
        isType (.ref 0) fuel (.ref 5) nestedMatchers := by
  have hx : nestedMatchers.heap.isNode (.ref 0) = true := rfl
  have htype : nestedMatchers.heap.attrOrNull (.ref 0) "type" = .str "a" := rfl
  have hnames : Flattens nestedMatchers.heap [.ref 2] [.str "b", .str "a"] :=
    .collection rfl (.leaf rfl (.collection rfl (.leaf rfl .nil) .nil)) .nil
  have hset : Flattens nestedMatchers.heap [.ref 5] [.str "a", .str "b"] :=
    .collection rfl (.leaf rfl (.leaf rfl .nil)) .nil
  have hbehind : Flattens nestedMatchers.heap [.ref 1] [.str "b", .str "a", .int 5] :=
    .collection rfl (.collection rfl
      (.leaf rfl (.collection rfl (.leaf rfl .nil) .nil)) (.leaf rfl .nil)) .nil
  have hfront : Flattens nestedMatchers.heap [.ref 4] [.int 5, .str "b", .str "a"] :=
    .collection rfl (.leaf rfl (.collection rfl
      (.leaf rfl (.collection rfl (.leaf rfl .nil) .nil)) .nil)) .nil
  have hname (name : String) : ¬ Unsupported (.str name) := by simp [Unsupported]
  obtain ⟨hscan, hsame⟩ := isType_scans_leaves hx htype
  obtain ⟨bound₁, hyes⟩ := hscan _ _ hbehind
  obtain ⟨bound₂, hfails⟩ := hscan _ _ hfront
  obtain ⟨answer, bound₃, hequal⟩ := hsame _ _ _ _ hnames hset (by simp [hname])
    (by simp [or_comm])
  refine ⟨max bound₁ (max bound₂ bound₃), fun fuel hfuel ↦ ⟨?_, ?_, ?_⟩⟩
  · refine (hyes fuel (by omega)).1.mpr ⟨[.str "b"], .str "a", [.int 5], rfl, .text, ?_⟩
    simp [hname]
  · exact (hfails fuel (by omega)).2.1.mpr
      ⟨[], .int 5, [.str "b", .str "a"], rfl, by simp [Unsupported], by simp⟩
  · obtain ⟨hleft, hright⟩ := hequal fuel (by omega)
    exact hleft.trans hright.symm

end TagTree.Matcher
