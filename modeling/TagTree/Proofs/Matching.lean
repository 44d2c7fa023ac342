import TagTree.Proofs.Documents
import TagTree.Proofs.Replay
import TagTree.Proofs.Sentinels

/-!
# Matching inside nestings

A matcher stands for a set of type names. Two operations ask about it: one asks whether the type of
a node is in the set, the other whether the type of its parent is or some type name for which a node
was entered and not left. Both go through the matcher in the same way, and differ only in the type
names they ask about. So the second is answered with yes if and only if the first is, for a node of
one of these types (`isInside_iff_isType`).
-/

namespace TagTree

open Op

variable {σ : Type}

/-! ## Questions -/

/-- A question is answered, with yes if and only if a condition holds, and nothing is changed. -/
def Op.Decides (x : Op σ Bool) (w : World σ) (P : Prop) : Prop :=
  ∃ answer, x w = .ok answer w ∧ (answer = true ↔ P)

section Questions

variable {w : World σ} {x y : Op σ Bool} {P Q : Prop}

theorem Op.Decides.congr (hx : x.Decides w P) (hiff : P ↔ Q) : x.Decides w Q := by
  obtain ⟨answer, hrun, hanswer⟩ := hx
  exact ⟨answer, hrun, hanswer.trans hiff⟩

theorem Op.Decides.of_eq (hx : x.Decides w P) (heq : y w = x w) : y.Decides w P := by
  obtain ⟨answer, hrun, hanswer⟩ := hx
  exact ⟨answer, heq.trans hrun, hanswer⟩

theorem decides_pure (answer : Bool) (w : World σ) :
    (pure answer : Op σ Bool).Decides w (answer = true) :=
  ⟨answer, rfl, Iff.rfl⟩

theorem decides_false (w : World σ) (hP : ¬ P) : (pure false : Op σ Bool).Decides w P :=
  (decides_pure false w).congr (by simpa using hP)

theorem decides_true (w : World σ) (hP : P) : (pure true : Op σ Bool).Decides w P :=
  (decides_pure true w).congr (by simpa using hP)

/-- A second question is only asked if the first one is answered with no. -/
theorem Op.Decides.or (hx : x.Decides w P) (hy : y.Decides w Q) :
    (do if ← x then return true else y : Op σ Bool).Decides w (P ∨ Q) := by
  obtain ⟨answer, hrun, hanswer⟩ := hx
  cases answer with
  | true => exact ⟨true, bind_of_ok hrun _, by simp [hanswer.mp rfl]⟩
  | false =>
    have hP : ¬ P := by simp [← hanswer]
    refine (hy.congr (by simp [hP])).of_eq ?_
    rw [bind_of_ok hrun]
    rfl

theorem decides_anyM {α : Type} {f : α → Op σ Bool} {R : α → Prop} {items : List α}
    (hf : ∀ item ∈ items, (f item).Decides w (R item)) :
    (items.anyM f).Decides w (∃ item ∈ items, R item) := by
  induction items with
  | nil => exact decides_false w (by simp)
  | cons item rest ih =>
    have hrest := ih fun other hother ↦ hf other (List.mem_cons_of_mem _ hother)
    refine (((hf item List.mem_cons_self).or hrest).congr (by simp)).of_eq ?_
    rw [List.anyM]
    apply congrFun
    congr 1
    funext answer
    cases answer <;> rfl

variable {p : Value → Op σ Bool} {R : Value → Prop} {items : List Value}

theorem decides_anyItem (hp : ∀ item ∈ items, (p item).Decides w (R item)) :
    (Matcher.anyItem p items).Decides w (∃ item ∈ items, R item) := by
  induction items with
  | nil => exact decides_false w (by simp)
  | cons item rest ih =>
    have hrest := ih fun other hother ↦ hp other (List.mem_cons_of_mem _ hother)
    exact ((hp item List.mem_cons_self).or hrest).congr (by simp)

/-- A list or tuple that stays as it is may as well be taken apart before any item is looked at. -/
theorem decides_anyItemFrom {m : Value} {rest : List Value} {fuel index : Nat}
    (hm : w.heap.sequence? m = some items) (hrest : items.drop index = rest)
    (hfuel : rest.length < fuel) (hp : ∀ item ∈ rest, (p item).Decides w (R item)) :
    (Matcher.anyItemFrom p m fuel index).Decides w (∃ item ∈ rest, R item) := by
  induction rest generalizing fuel index with
  | nil =>
    obtain ⟨fuel, rfl⟩ : ∃ n, fuel = n + 1 := ⟨fuel - 1, by omega⟩
    have hnone : items[index]? = none := List.getElem?_eq_none (List.drop_eq_nil_iff.mp hrest)
    refine (decides_false w (by simp)).of_eq ?_
    rw [Matcher.anyItemFrom, bind_of_ok (Document.itemAt?_of_sequence hm index), hnone]
  | cons item rest ih =>
    obtain ⟨fuel, rfl⟩ : ∃ n, fuel = n + 1 := ⟨fuel - 1, by omega⟩
    obtain ⟨hitem, htail⟩ := Document.drop_eq_cons hrest
    have hlater := ih htail (Nat.lt_of_succ_lt_succ hfuel)
      fun other hother ↦ hp other (List.mem_cons_of_mem _ hother)
    refine (((hp item List.mem_cons_self).or hlater).congr (by simp)).of_eq ?_
    rw [Matcher.anyItemFrom, bind_of_ok (Document.itemAt?_of_sequence hm index), hitem]

end Questions

/-! ## Matchers -/

namespace Heap

variable {h h' : Heap} {m : Value} {items : List Value}

theorem exists_ref_of_collection? (hm : h.collection? m = some items) : ∃ a, m = .ref a := by
  cases m with
  | ref a => exact ⟨a, rfl⟩
  | _ => cases hm

theorem collection?_of_sequence? (hm : h.sequence? m = some items) :
    h.collection? m = some items := by
  obtain ⟨a, rfl, ha | ha⟩ := sequence?_eq_some_iff.mp hm <;> simp [Heap.collection?, object?, ha]

theorem Extends.collection? (hext : h.Extends h') (hm : h.collection? m = some items) :
    h'.collection? m = some items := by
  obtain ⟨a, rfl⟩ := exists_ref_of_collection? hm
  have hfound : ∃ o, h.get? a = some o := by
    cases ho : h.get? a with
    | some o => exact ⟨o, rfl⟩
    | none => simp [Heap.collection?, object?, ho] at hm
  obtain ⟨o, ho⟩ := hfound
  simpa [Heap.collection?, object?, ho, hext.found ho] using hm

end Heap

namespace Matcher

/-- A type name, a pattern, or a list, tuple or set of well-shaped matchers. -/
inductive Shaped (h : Heap) : Value → Prop
  | text (name : String) : Shaped h (.str name)
  | pattern (p : Pattern) : Shaped h (.pattern p)
  | collection {m : Value} {items : List Value} :
    h.collection? m = some items → (∀ item ∈ items, Shaped h item) → Shaped h m

/-- A type name is in the set that a matcher stands for. -/
inductive Accepts (h : Heap) (type : String) : Value → Prop
  | text : Accepts h type (.str type)
  | pattern {p : Pattern} : p.search type = true → Accepts h type (.pattern p)
  | item {m item : Value} {items : List Value} :
    h.collection? m = some items → item ∈ items → Accepts h type item → Accepts h type m

/-- A well-shaped matcher that can be gone through with a given bound. -/
inductive Fits (h : Heap) : Nat → Value → Prop
  | text (n : Nat) (name : String) : Fits h (n + 1) (.str name)
  | pattern (n : Nat) (p : Pattern) : Fits h (n + 1) (.pattern p)
  | collection {n : Nat} {m : Value} {items : List Value} :
    h.collection? m = some items → items.length < n → (∀ item ∈ items, Fits h n item) →
    Fits h (n + 1) m

variable {h : Heap} {m : Value} {items : List Value}

theorem accepts_text_iff {type name : String} : Accepts h type (.str name) ↔ type = name := by
  constructor
  · intro haccepts
    cases haccepts with
    | text => rfl
    | item hitems => cases hitems
  · rintro rfl
    exact .text

theorem accepts_pattern_iff {type : String} {p : Pattern} :
    Accepts h type (.pattern p) ↔ p.search type = true := by
  constructor
  · intro haccepts
    cases haccepts with
    | pattern hsearch => exact hsearch
    | item hitems => cases hitems
  · exact .pattern

theorem accepts_collection_iff {type : String} (hm : h.collection? m = some items) :
    Accepts h type m ↔ ∃ item ∈ items, Accepts h type item := by
  constructor
  · intro haccepts
    cases haccepts with
    | text | pattern => cases hm
    | item hitems hmem hitem =>
      obtain rfl : items = _ := Option.some.inj (hm.symm.trans hitems)
      exact ⟨_, hmem, hitem⟩
  · rintro ⟨item, hmem, hitem⟩
    exact .item hm hmem hitem

/-- What holds of each item from some bound on holds of all items from some bound on. -/
theorem exists_common_bound {P : Nat → Value → Prop}
    (hP : ∀ item ∈ items, ∃ bound, ∀ n, bound ≤ n → P n item) :
    ∃ bound, ∀ n, bound ≤ n → ∀ item ∈ items, P n item := by
  induction items with
  | nil => exact ⟨0, by simp⟩
  | cons item rest ih =>
    obtain ⟨b, hb⟩ := hP item List.mem_cons_self
    obtain ⟨c, hc⟩ := ih fun other hother ↦ hP other (List.mem_cons_of_mem _ hother)
    refine ⟨max b c, fun n hn ↦ List.forall_mem_cons.mpr ⟨hb n ?_, hc n ?_⟩⟩ <;> omega

/-- Every well-shaped matcher can be gone through. -/
theorem Shaped.fits (hm : Shaped h m) : ∃ bound, ∀ n, bound ≤ n → Fits h n m := by
  induction hm with
  | text name => exact ⟨1, fun n hn ↦ Nat.sub_add_cancel hn ▸ .text (n - 1) name⟩
  | pattern p => exact ⟨1, fun n hn ↦ Nat.sub_add_cancel hn ▸ .pattern (n - 1) p⟩
  | @collection m items hitems _ ih =>
    obtain ⟨bound, hbound⟩ := exists_common_bound ih
    refine ⟨max bound (items.length + 1) + 1, fun n hn ↦ ?_⟩
    obtain ⟨n, rfl⟩ : ∃ i, n = i + 1 := ⟨n - 1, by omega⟩
    exact .collection hitems (by omega) (hbound n (by omega))

/-- A way to ask about matchers that takes them apart as they are built, and asks of each single
name or pattern whether it accepts one of certain type names. -/
structure AsksAbout (ask : Nat → Value → Op σ Bool) (w : World σ) (h : Heap)
    (types : String → Prop) : Prop where
  text : ∀ n name, (ask (n + 1) (.str name)).Decides w (types name)
  pattern : ∀ n (p : Pattern),
    (ask (n + 1) (.pattern p)).Decides w (∃ type, types type ∧ p.search type = true)
  collection : ∀ n m items (R : Value → Prop), h.collection? m = some items → items.length < n →
    (∀ item ∈ items, (ask n item).Decides w (R item)) →
    (ask (n + 1) m).Decides w (∃ item ∈ items, R item)

/-- Such a question is answered with yes if and only if one of the type names is accepted. -/
theorem AsksAbout.decides {ask : Nat → Value → Op σ Bool} {w : World σ} {types : String → Prop}
    (hask : AsksAbout ask w h types) {n : Nat} (hm : Fits h n m) :
    (ask n m).Decides w (∃ type, types type ∧ Accepts h type m) := by
  induction hm with
  | text n name => exact (hask.text n name).congr (by simp [accepts_text_iff])
  | pattern n p => exact (hask.pattern n p).congr (by simp [accepts_pattern_iff])
  | collection hitems hlength _ ih =>
    apply (hask.collection _ _ _ _ hitems hlength ih).congr
    simp only [accepts_collection_iff hitems]
    tauto

/-! ## The type of a node -/

theorem isType_of_node {x : Value} {type : String} {w : World σ} (hx : w.heap.isNode x = true)
    (htype : w.heap.attrOrNull x "type" = .str type) (n : Nat) (m : Value) :
    (isType x (n + 1) m : Op σ Bool) w =
      (match m with
      | .str name => return type = name
      | .pattern p => return p.search type
      | _ =>
        match w.heap.collection? m with
        | some items => anyItem (isType x n) items
        | none => throw notMatcher : Op σ Bool) w := by
  have hrequire : (requireTypeName x "node.type" : Op σ Unit) w = .ok () w :=
    require_apply_true (by simp [htype, isText]) _ _ w
  rw [isType, bind_of_ok (requireNode_apply hx _), bind_of_ok hrequire, bind_of_ok (heap_apply w),
    htype]
  cases m <;> rfl

/-- The type of a node is asked about, also after other objects were made. -/
theorem isType_asksAbout {x : Value} {type : String} {w : World σ} (hext : h.Extends w.heap)
    (hx : w.heap.isNode x = true) (htype : w.heap.attrOrNull x "type" = .str type) :
    AsksAbout (isType x) w h (· = type) where
  text n name := by
    refine ((decides_pure (decide (type = name)) w).congr ?_).of_eq
      (isType_of_node hx htype n (.str name))
    simp [eq_comm]
  pattern n p := by
    refine ((decides_pure (p.search type) w).congr ?_).of_eq
      (isType_of_node hx htype n (.pattern p))
    simp
  collection n m items R hitems _ hR := by
    have hitems' := hext.collection? hitems
    refine (decides_anyItem hR).of_eq ?_
    rw [isType_of_node hx htype]
    obtain ⟨a, rfl⟩ := Heap.exists_ref_of_collection? hitems
    simp only [hitems']

end Matcher

/-! ## What a node is inside of -/

/-- What is kept in a mapping can be looked up at every point of every run. -/
theorem NestingRun.indexed {call : Caller σ} {st : Addr} {w₀ w : World σ}
    {history : List NestingEvent} (hi : w₀.heap.Idle st)
    (hrun : NestingRun call st w₀ history w) : w.heap.Indexed st := by
  induction hrun with
  | start => exact hi.indexed
  | @interlude history w w' hrun hsame ih =>
    obtain ⟨-, hinside, -⟩ := (hrun.recalls hi).stacked.of_same hsame
    intro d entries hd hdict
    rw [hinside] at hd
    exact ih d entries hd ((hsame d (.inr (.inl hd))).symm.trans hdict)
  | enter hrun hs hnode hkey ih =>
    obtain ⟨stack, h, ⟨log, henter⟩, hre⟩ :=
      Nesting.enter_restacks call hs (hrun.recalls hi).stacked hnode hkey
    rw [after_of_ok henter]
    exact hre.indexed ih
  | leave hrun hs hnode hkey ih =>
    rcases (hrun.recalls hi).leave_cases call hs hnode hkey with
      ⟨-, hleave⟩ | ⟨-, h, ⟨log, hleave⟩, hre⟩
    · rw [after_of_error hleave]
      exact ih
    · rw [after_of_ok hleave]
      exact hre.indexed ih

namespace Nesting

variable {w : World σ} {st d : Addr} {node : Value} {entries : List (Value × Value)}

/-- A node is inside of its parent's type and of the types for which something is entered. -/
def Surrounds (h : Heap) (st : Addr) (node : Value) (type : String) : Prop :=
  h.attrOrNull (h.attrOrNull node "parent") "type" = .str type ∨ h.stackOf (.ref st) type ≠ []

theorem isFoundIn_decides (p : Pattern) (name : String) {l : Addr} {items : List Value}
    (hl : w.heap.get? l = some (.list items)) :
    (isFoundIn p (.str name) (.ref l) : Op σ Bool).Decides w
      (items ≠ [] ∧ p.search name = true) := by
  cases items with
  | nil =>
    refine (decides_false w (by simp)).of_eq ?_
    simp [isFoundIn, bind_apply, Heap.truthy_list hl]
  | cons item rest =>
    refine ((decides_pure (p.search name) w).congr (by simp)).of_eq ?_
    simp [isFoundIn, bind_apply, Heap.truthy_list hl]

/-- The entries of a mapping are its stacks, under the names for which they are found. -/
theorem anyStack_decides (call : Caller σ) (hh : w.heap.Holds st d entries)
    (hi : w.heap.Indexed st) (p : Pattern) :
    (anyStack call p (.ref d) : Op σ Bool).Decides w
      (∃ type, w.heap.stackOf (.ref st) type ≠ [] ∧ p.search type = true) := by
  have hdict : w.heap.dict? (.ref d) = some entries := Heap.dict?_of_get? hh.dict
  have hentry : ∀ entry ∈ entries, (isFoundIn p entry.1 entry.2 : Op σ Bool).Decides w
      (∃ type, entry.1 = .str type ∧ w.heap.stackOf (.ref st) type ≠ [] ∧
        p.search type = true) := by
    rintro ⟨key, stack⟩ hmem
    obtain ⟨name, hname, hlookup⟩ := hh.indexed_iff.mp hi _ hmem
    obtain ⟨l, items, hstack, hl⟩ := hh.list _ hmem
    dsimp only at hname hlookup hstack
    subst hname hstack
    refine (isFoundIn_decides p name hl).congr ?_
    have hitems : w.heap.stackOf (.ref st) name = items := by
      simp [hh.stackOf, hlookup, Heap.list?_of_get? hl]
    simp [hitems]
  have hany := decides_anyM hentry
  refine (hany.congr ?_).of_eq ?_
  · constructor
    · rintro ⟨entry, -, type, -, hfound⟩
      exact ⟨type, hfound⟩
    · rintro ⟨type, hne, hsearch⟩
      rcases hh.lookup_cases type with ⟨-, hempty⟩ | ⟨l, hlookup, -, -⟩
      · exact absurd hempty hne
      · exact ⟨_, mem_of_lookup hlookup, type, rfl, hne, hsearch⟩
  · rw [anyStack, bind_of_ok (heap_apply w), hdict]

/-- No mapping and an empty one are the same. -/
theorem anyEntered_decides (call : Caller σ) (hst : w.heap.Stacked st) (hi : w.heap.Indexed st)
    (p : Pattern) :
    (do match ← stacksOf (.ref st) with
      | none => return false
      | some inside => anyStack call p inside : Op σ Bool).Decides w
      (∃ type, w.heap.stackOf (.ref st) type ≠ [] ∧ p.search type = true) := by
  refine Decides.of_eq ?_ (bind_of_ok (stacksOf_apply (.ref st) w) _)
  rcases hst with hidle | ⟨d, entries, hh⟩
  · simp only [hidle.inside, Heap.truthy, Bool.false_eq_true, if_false]
    exact decides_false w (by simp [hidle.stackOf])
  · have htruthy : w.heap.truthy (.ref d) = !entries.isEmpty := by simp [Heap.truthy, hh.dict]
    simp only [hh.inside, htruthy]
    cases entries with
    | nil => exact decides_false w (by simp [hh.stackOf])
    | cons entry rest => exact anyStack_decides call hh hi p

theorem isInside_of_node (call : Caller σ) (hnode : w.heap.isNode node = true)
    (hst : w.heap.Stacked st)
    (hparent : w.heap.attrOrNull node "parent" = .null ∨
      w.heap.isNode (w.heap.attrOrNull node "parent") = true) (n : Nat) (m : Value) :
    isInside call (.ref st) node (n + 1) m w =
      (match m with
      | .str _ =>
        if w.heap.attrOrNull (w.heap.attrOrNull node "parent") "type" = m then return true
        else isInsideType call (.ref st) m
      | .pattern p =>
        if (match w.heap.attrOrNull (w.heap.attrOrNull node "parent") "type" with
          | .str type => p.search type
          | _ => false) then return true
        else do
          match ← stacksOf (.ref st) with
          | none => return false
          | some inside => anyStack call p inside
      | _ =>
        if (w.heap.sequence? m).isSome then
          Matcher.anyItemFrom (isInside call (.ref st) node n) m n 0
        else
          match w.heap.collection? m with
          | some items => Matcher.anyItem (isInside call (.ref st) node n) items
          | none => throw Matcher.notMatcher : Op σ Bool) w := by
  have hguard : (w.heap.attrOrNull node "parent" = .null ||
      w.heap.isNode (w.heap.attrOrNull node "parent")) = true := by
    simpa using hparent
  refine (bind_of_ok (requireNode_apply hnode _) _).trans ?_
  refine (bind_of_ok (requireState_apply (isState_of_stacked hst) _) _).trans ?_
  refine (bind_of_ok (heap_apply w) _).trans ?_
  refine (bind_of_ok (require_apply_true hguard _ _ w) _).trans ?_
  cases m <;> rfl

/-- The types around a node are asked about. -/
theorem isInside_asksAbout (call : Caller σ) (hnode : w.heap.isNode node = true)
    (hst : w.heap.Stacked st) (hi : w.heap.Indexed st)
    (hparent : w.heap.attrOrNull node "parent" = .null ∨
      w.heap.isNode (w.heap.attrOrNull node "parent") = true) :
    Matcher.AsksAbout (isInside call (.ref st) node) w w.heap (Surrounds w.heap st node) where
  text n name := by
    have hstack : (isInsideType call (.ref st) (.str name)).Decides w
        (w.heap.stackOf (.ref st) name ≠ []) :=
      ⟨_, isInsideType_apply call hst name, by simp⟩
    refine Decides.of_eq ?_ (isInside_of_node call hnode hst hparent n (.str name))
    dsimp only
    split
    · next heq => exact decides_true w (.inl heq)
    · next hne => exact hstack.congr (by simp [Surrounds, hne])
  pattern n p := by
    have hentered := anyEntered_decides call hst hi p
    refine Decides.of_eq ?_ (isInside_of_node call hnode hst hparent n (.pattern p))
    unfold Surrounds
    cases w.heap.attrOrNull (w.heap.attrOrNull node "parent") "type" with
    | str type =>
      refine ((decides_pure (p.search type) w).or hentered).congr ?_
      simp [or_and_right, exists_or]
    | _ => exact hentered.congr (by simp)
  collection n m items R hitems hlength hR := by
    refine Decides.of_eq ?_ (isInside_of_node call hnode hst hparent n m)
    obtain ⟨a, rfl⟩ := Heap.exists_ref_of_collection? hitems
    dsimp only
    split
    · next hsequence =>
      obtain ⟨items', hitems'⟩ := Option.isSome_iff_exists.mp hsequence
      obtain rfl : items = items' :=
        Option.some.inj (hitems.symm.trans (Heap.collection?_of_sequence? hitems'))
      exact decides_anyItemFrom hitems' List.drop_zero hlength hR
    · rw [hitems]
      exact decides_anyItem hR

end Nesting

/-! ## The same matching -/

/-- A node of a type, which may be one that has yet to be made. -/
def Specimen (w w' : World σ) (x : Value) (type : String) : Prop :=
  w.heap.Extends w'.heap ∧ w'.heap.isNode x = true ∧ w'.heap.attrOrNull x "type" = .str type

theorem exists_specimen (w : World σ) (type : String) : ∃ w' x, Specimen w w' x type := by
  let maker := NodeMaker.plain
  have hfound := maker.get?_made_address w.heap type .null
  exact ⟨{ w with heap := maker.made w.heap type .null }, .ref (maker.address w.heap),
    maker.extends_made w.heap type .null,
    Heap.isNode_of_genuine hfound (maker.genuine_entity w.heap type .null),
    maker.attrOrNull_made_type w.heap type .null⟩

/-- Whatever was entered and left before: a node is inside something that matches if and only if
there is a type name, that of its parent or one for which a node was entered and not left, such that
the type of a node of this type matches. It does not matter which node that is. -/
theorem isInside_iff_isType {call : Caller σ} {st : Addr} {w₀ w : World σ}
    {history : List NestingEvent} {node m : Value} (hidle : w₀.heap.Idle st)
    (hrun : NestingRun call st w₀ history w) (hnode : w.heap.isNode node = true)
    (hparent : w.heap.attrOrNull node "parent" = .null ∨
      w.heap.isNode (w.heap.attrOrNull node "parent") = true) (hm : Matcher.Shaped w.heap m) :
    ∃ bound, ∀ fuel, bound ≤ fuel → ∃ answer,
      Nesting.isInside call (.ref st) node fuel m w = .ok answer w ∧
      (answer = true ↔ ∃ type, Nesting.Surrounds w.heap st node type ∧
        ∃ w' x, Specimen w w' x type ∧ Matcher.isType x fuel m w' = .ok true w') ∧
      (answer = true ↔ ∃ type, Nesting.Surrounds w.heap st node type ∧
        ∀ w' x, Specimen w w' x type → Matcher.isType x fuel m w' = .ok true w') := by
  obtain ⟨bound, hfits⟩ := hm.fits
  refine ⟨bound, fun fuel hfuel ↦ ?_⟩
  obtain ⟨answer, hinside, hanswer⟩ := (Nesting.isInside_asksAbout call hnode
    (hrun.recalls hidle).stacked (hrun.indexed hidle) hparent).decides (hfits fuel hfuel)
  have htype {w' : World σ} {x : Value} {type : String} (hx : Specimen w w' x type) :
      Matcher.isType x fuel m w' = .ok true w' ↔ Matcher.Accepts w.heap type m := by
    obtain ⟨hext, hisNode, htype⟩ := hx
    obtain ⟨verdict, hrun, hverdict⟩ :=
      (Matcher.isType_asksAbout hext hisNode htype).decides (hfits fuel hfuel)
    rw [hrun]
    simpa using hverdict
  refine ⟨answer, hinside, ?_, ?_⟩
  · rw [hanswer]
    refine exists_congr fun type ↦ and_congr_right fun _ ↦ ⟨fun haccepts ↦ ?_, ?_⟩
    · obtain ⟨w', x, hx⟩ := exists_specimen w type
      exact ⟨w', x, hx, (htype hx).mpr haccepts⟩
    · rintro ⟨w', x, hx, hmatch⟩
      exact (htype hx).mp hmatch
  · rw [hanswer]
    refine exists_congr fun type ↦ and_congr_right fun _ ↦
      ⟨fun haccepts w' x hx ↦ (htype hx).mpr haccepts, fun hall ↦ ?_⟩
    obtain ⟨w', x, hx⟩ := exists_specimen w type
    exact (htype hx).mp (hall w' x hx)

/-- A world with a node at 0, a nesting state at 1, and at 2 a matcher: a name or, in a set of its
own, a pattern. -/
def matcherInSet : World Unit where
  heap := ⟨#[some (.entity ⟨.plain, [("type", .str "b.open"), ("nodes", .null),
      ("parent", .null)], .absent⟩),
    some (.entity ⟨.nesting, [("inside", .null)], .absent⟩),
    some (.tuple [.str "x", .ref 3]), some (.set true [.pattern ⟨"b", .char 98, []⟩])]⟩
  client := ()

/-- After the node was entered, what it is inside of matches by the pattern. -/
theorem isInside_matcherInSet :
    let call : Caller Unit := fun _ _ _ ↦ throw .unsupported
    let w := (Nesting.enter call (.ref 1) (.ref 0)).after matcherInSet
    NestingRun call 1 matcherInSet [.entered "b" (.ref 0)] w ∧ Matcher.Shaped w.heap (.ref 2) ∧
    ∃ bound, ∀ fuel, bound ≤ fuel → ∃ answer,
      Nesting.isInside call (.ref 1) (.ref 0) fuel (.ref 2) w = .ok answer w ∧
      (answer = true ↔ ∃ type, Nesting.Surrounds w.heap 1 (.ref 0) type ∧
        ∃ w' x, Specimen w w' x type ∧ Matcher.isType x fuel (.ref 2) w' = .ok true w') := by
  intro call w
  have hidle : matcherInSet.heap.Idle 1 := ⟨_, rfl, rfl, rfl⟩
  have hrun : NestingRun call 1 matcherInSet [.entered "b" (.ref 0)] w := by
    have hstart : NestingRun call 1 matcherInSet [] matcherInSet := .start
    have hkey : matcherInSet.heap.keyIn (.ref 0) ({} : Settings).openSuffix = some "b" := by
      decide +kernel
    exact hstart.enter rfl rfl hkey
  have hinner : w.heap.collection? (.ref 3) = some [.pattern ⟨"b", .char 98, []⟩] := rfl
  have houter : w.heap.collection? (.ref 2) = some [.str "x", .ref 3] := rfl
  have hshaped : Matcher.Shaped w.heap (.ref 2) := by
    apply Matcher.Shaped.collection houter
    simp [Matcher.Shaped.text, Matcher.Shaped.collection hinner, Matcher.Shaped.pattern]
  have hnode : w.heap.isNode (.ref 0) = true := rfl
  have hparent : w.heap.attrOrNull (.ref 0) "parent" = .null := rfl
  obtain ⟨bound, hinside⟩ := isInside_iff_isType hidle hrun hnode (.inl hparent) hshaped
  refine ⟨hrun, hshaped, bound, fun fuel hfuel ↦ ?_⟩
  obtain ⟨answer, hanswer, hiff, -⟩ := hinside fuel hfuel
  exact ⟨answer, hanswer, hiff⟩

end TagTree
