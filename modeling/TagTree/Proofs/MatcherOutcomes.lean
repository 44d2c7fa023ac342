import TagTree.Proofs.GlobReading
import TagTree.Proofs.SlashEscapes

/-!
# What may come of a matcher expression

Reading an expression gives a matcher, or finds that the text is none by the grammar, or stops at
the first of its patterns that is refused. That pattern has a flaw in its notation, which is reported
as such, or it asks for too much, which is reported in another way. A glob is never refused.
-/

namespace TagTree.Matcher

/-- The first pattern of an expression that is refused, and why. -/
def FirstRefused (text : String) (body : List Char) (reason : Pattern.Failure) : Prop :=
  ∃ front back, Spells (front ++ .pattern body :: back) text.toList ∧
    (∀ earlier, .pattern earlier ∈ front →
      ∃ p, Pattern.compile (String.ofList (unescapeSlashes earlier)) = .ok p) ∧
    Pattern.compile (String.ofList (unescapeSlashes body)) = .error reason

/-- What is said about an expression whose pattern is refused. -/
def refusal (body : List Char) : Pattern.Failure → Failure
  | .malformed flaw position => .malformed body (unescapeSlashes body) flaw position
  | reason => .refused reason

/-- What is reported to whoever asked for the matcher. -/
def Failure.fault (text : String) : Failure → Fault
  | .mismatch m => .expression text m
  | .malformed body source flaw position => .malformedPattern body source flaw position
  | .refused reason => .refusedPattern reason

theorem refusal_of_excessive {source body : List Char} {reason : Pattern.Failure}
    (h : Pattern.Excessive source reason) : refusal body reason = .refused reason := by
  cases h <;> rfl

/-! ## Items -/

theorem Item.leaf_eq_error_iff {item : Item} {failure : Failure} :
    item.leaf = .error failure ↔ ∃ body reason, item = .pattern body ∧
      Pattern.compile (String.ofList (unescapeSlashes body)) = .error reason ∧
      refusal body reason = failure := by
  cases item with
  | name cs => by_cases hglob : cs.any isGlobChar = true <;> simp [Item.leaf, hglob]
  | pattern body =>
    simp only [Item.leaf, Item.pattern.injEq]
    constructor
    · intro h
      split at h
      · cases h
      · next hcompile =>
        cases h
        exact ⟨body, _, rfl, hcompile, rfl⟩
      · next reason hother hcompile =>
        cases h
        refine ⟨body, reason, rfl, hcompile, ?_⟩
        cases reason with
        | malformed flaw position => exact absurd rfl (hother flaw position)
        | hugeRepeat | longNumber | flagClash => rfl
    · rintro ⟨body, reason, rfl, hcompile, rfl⟩
      rw [hcompile]
      cases reason <;> rfl

/-- A walk through a list fails as the first item does that fails. -/
theorem mapM_eq_error_iff {α β ε : Type} {f : α → Except ε β} {xs : List α} {e : ε} :
    xs.mapM f = .error e ↔ ∃ front x back, xs = front ++ x :: back ∧
      (∀ y ∈ front, ∃ z, f y = .ok z) ∧ f x = .error e := by
  induction xs with
  | nil => simp [List.mapM_nil, pure, Except.pure]
  | cons x rest ih =>
    rw [List.mapM_cons]
    cases hx : f x with
    | error e' =>
      constructor
      · intro h
        cases h
        exact ⟨[], x, rest, rfl, by simp, hx⟩
      · rintro ⟨_ | ⟨y, front⟩, z, back, heq, hfront, hz⟩
        · cases heq
          rw [hx] at hz
          cases hz
          rfl
        · cases heq
          obtain ⟨y, hy⟩ := hfront x List.mem_cons_self
          rw [hx] at hy
          cases hy
    | ok y =>
      have hrest : (do let ys ← rest.mapM f; pure (y :: ys)) = .error e ↔
          rest.mapM f = .error e := by
        cases rest.mapM f <;> simp [bind, Except.bind, pure, Except.pure]
      refine hrest.trans (ih.trans ⟨?_, ?_⟩)
      · rintro ⟨front, z, back, rfl, hfront, hz⟩
        exact ⟨x :: front, z, back, rfl, List.forall_mem_cons.mpr ⟨⟨y, hx⟩, hfront⟩, hz⟩
      · rintro ⟨_ | ⟨x', front⟩, z, back, heq, hfront, hz⟩
        · cases heq
          rw [hx] at hz
          cases hz
        · cases heq
          exact ⟨front, z, back, rfl, (List.forall_mem_cons.mp hfront).2, hz⟩

/-- The items of a list all stand for something if and only if no pattern among them is refused. -/
theorem forall_leaf_iff {found : List Item} :
    (∀ item ∈ found, ∃ leaf, item.leaf = .ok leaf) ↔ ∀ body, .pattern body ∈ found →
      ∃ p, Pattern.compile (String.ofList (unescapeSlashes body)) = .ok p := by
  constructor
  · intro h body hbody
    obtain ⟨leaf, hleaf⟩ := h _ hbody
    cases Item.leaf_eq_ok_iff.mp hleaf with
    | pattern hvalid => exact ⟨_, hvalid⟩
  · intro h item hitem
    cases hleaf : item.leaf with
    | ok leaf => exact ⟨leaf, rfl⟩
    | error failure =>
      obtain ⟨body, reason, rfl, hcompile, -⟩ := Item.leaf_eq_error_iff.mp hleaf
      obtain ⟨p, hp⟩ := h body hitem
      rw [hcompile] at hp
      cases hp

/-! ## Expressions -/

theorem items_eq_error_iff {cs : List Char} :
    (∃ m, items cs = .error m) ↔ ∀ found, ¬ Spells found cs := by
  constructor
  · rintro ⟨m, hm⟩ found hspells
    rw [items_eq_ok_iff.mpr hspells] at hm
    cases hm
  · intro h
    cases hitems : items cs with
    | error m => exact ⟨m, rfl⟩
    | ok found => exact absurd (items_eq_ok_iff.mp hitems) (h found)

/-- Reading fails at the grammar or at the first pattern that is refused. -/
theorem parse_eq_error_iff {text : String} {failure : Failure} :
    parse text = .error failure ↔
      (∃ m, items text.toList = .error m ∧ failure = .mismatch m) ∨
      ∃ body reason, FirstRefused text body reason ∧ refusal body reason = failure := by
  unfold parse
  cases hitems : items text.toList with
  | error m =>
    have hnone := items_eq_error_iff.mp ⟨m, hitems⟩
    constructor
    · intro h
      cases h
      exact .inl ⟨m, rfl, rfl⟩
    · rintro (⟨m', hm, rfl⟩ | ⟨body, reason, ⟨front, back, hspells, -⟩, -⟩)
      · cases hm
        rfl
      · exact absurd hspells (hnone _)
  | ok found =>
    have hfound := items_eq_ok_iff.mp hitems
    refine mapM_eq_error_iff.trans ⟨?_, ?_⟩
    · rintro ⟨front, item, back, rfl, hfront, hitem⟩
      obtain ⟨body, reason, rfl, hcompile, hrefusal⟩ := Item.leaf_eq_error_iff.mp hitem
      exact .inr ⟨body, reason, ⟨front, back, hfound, forall_leaf_iff.mp hfront, hcompile⟩,
        hrefusal⟩
    · rintro (⟨m, hm, -⟩ | ⟨body, reason, ⟨front, back, hspells, hfront, hcompile⟩, hrefusal⟩)
      · cases hm
      · exact ⟨front, .pattern body, back, hspells.unique hfound, forall_leaf_iff.mpr hfront,
          Item.leaf_eq_error_iff.mpr ⟨body, reason, rfl, hcompile, hrefusal⟩⟩

theorem ne_nil_of_parse {text : String} {leaves : List Leaf} (h : parse text = .ok leaves) :
    leaves ≠ [] := by
  obtain ⟨found, hspells, hdenotes⟩ := parse_eq_ok_iff.mp h
  rintro rfl
  exact hspells.ne_nil (List.forall₂_nil_right_iff.mp hdenotes)

theorem parse_eq_mismatch_iff {text : String} {m : Mismatch} :
    parse text = .error (.mismatch m) ↔ items text.toList = .error m := by
  rw [parse_eq_error_iff]
  constructor
  · rintro (⟨m', hm, heq⟩ | ⟨body, reason, -, heq⟩)
    · cases heq
      exact hm
    · cases reason <;> cases heq
  · intro hm
    exact .inl ⟨m, hm, rfl⟩

theorem parse_eq_malformed_iff {text : String} {body source : List Char} {flaw : Pattern.Flaw}
    {position : Option Nat} : parse text = .error (.malformed body source flaw position) ↔
      source = unescapeSlashes body ∧ FirstRefused text body (.malformed flaw position) := by
  rw [parse_eq_error_iff]
  constructor
  · rintro (⟨m, -, heq⟩ | ⟨body', reason, hfirst, heq⟩)
    · cases heq
    · cases reason <;> cases heq
      exact ⟨rfl, hfirst⟩
  · rintro ⟨rfl, hfirst⟩
    exact .inr ⟨body, _, hfirst, rfl⟩

/-- What is refused without a flaw is excessive. -/
theorem parse_eq_refused_iff {text : String} {reason : Pattern.Failure} :
    parse text = .error (.refused reason) ↔
      ∃ body, FirstRefused text body reason ∧ Pattern.Excessive (unescapeSlashes body) reason := by
  rw [parse_eq_error_iff]
  constructor
  · rintro (⟨m, -, heq⟩ | ⟨body, reason', hfirst, heq⟩)
    · cases heq
    · obtain ⟨front, back, -, -, hcompile⟩ := id hfirst
      rcases Pattern.excessive_of_compile hcompile with ⟨flaw, position, rfl⟩ | hexcessive
      · cases heq
      · rw [refusal_of_excessive hexcessive] at heq
        cases heq
        rw [String.toList_ofList] at hexcessive
        exact ⟨body, hfirst, hexcessive⟩
  · rintro ⟨body, hfirst, hexcessive⟩
    exact .inr ⟨body, reason, hfirst, refusal_of_excessive hexcessive⟩

section Outcomes

variable {σ : Type}

theorem ofExpression_of_parse {text : String} {failure : Failure} (w : World σ)
    (h : parse text = .error failure) :
    ofExpression (.str text) w = .error (failure.fault text) w := by
  simp only [ofExpression, h]
  cases failure <;> rfl

theorem Failure.fault_injective {text : String} {failure failure' : Failure}
    (h : failure.fault text = failure'.fault text) : failure = failure' := by
  cases failure <;> cases failure' <;> cases h <;> rfl

theorem ofExpression_eq_error_iff {text : String} {w : World σ} {failure : Failure} :
    ofExpression (.str text) w = .error (failure.fault text) w ↔ parse text = .error failure := by
  constructor
  · intro h
    cases hparse : parse text with
    | error failure' =>
      rw [ofExpression_of_parse w hparse] at h
      rw [Failure.fault_injective (EStateM.Result.error.inj h).1]
    | ok leaves =>
      obtain ⟨v, w', hdelivers⟩ := exists_delivers w (ne_nil_of_parse hparse)
      rw [ofExpression_eq_ok_iff.mpr ⟨leaves, hparse, hdelivers⟩] at h
      cases h
  · exact ofExpression_of_parse w

/-- Every text is an expression and gives its matcher, or is none by the grammar, or its first
pattern that is refused has a flaw or asks for too much. In the last case it contains a number of
repetitions that is too large or too long, or two groups whose flags clash. What a glob is written
as would be accepted as a pattern and find the same texts. -/
theorem ofExpression_outcomes (text : String) (w : World σ) :
    ((∃ found leaves v w', ofExpression (.str text) w = .ok v w' ∧ Spells found text.toList ∧
        List.Forall₂ Item.Denotes found leaves ∧ Delivers w leaves v w') ∨
      (∃ m, ofExpression (.str text) w = .error (.expression text m) w) ∨
      (∃ body source flaw position,
        ofExpression (.str text) w = .error (.malformedPattern body source flaw position) w) ∨
      ∃ reason, ofExpression (.str text) w = .error (.refusedPattern reason) w) ∧
    ((∃ m, ofExpression (.str text) w = .error (.expression text m) w) ↔
      ∀ found, ¬ Spells found text.toList) ∧
    (∀ body source flaw position,
      ofExpression (.str text) w = .error (.malformedPattern body source flaw position) w ↔
        source = unescapeSlashes body ∧ FirstRefused text body (.malformed flaw position)) ∧
    (∀ reason, ofExpression (.str text) w = .error (.refusedPattern reason) w ↔
      ∃ body, FirstRefused text body reason ∧ Pattern.Excessive (unescapeSlashes body) reason) ∧
    ∀ glob, ∃ p, Pattern.compile (Glob.toPattern glob).source = .ok p ∧
      ∀ name, p.search name = (Glob.toPattern glob).search name := by
  have hfault (failure : Failure) : ofExpression (.str text) w = .error (failure.fault text) w ↔
      parse text = .error failure := ofExpression_eq_error_iff
  refine ⟨?_, ?_, fun body source flaw position ↦ ?_, fun reason ↦ ?_, fun glob ↦ ?_⟩
  · cases hparse : parse text with
    | ok leaves =>
      obtain ⟨found, hspells, hdenotes⟩ := parse_eq_ok_iff.mp hparse
      obtain ⟨v, w', hdelivers⟩ := exists_delivers w (ne_nil_of_parse hparse)
      exact .inl ⟨found, leaves, v, w', ofExpression_eq_ok_iff.mpr ⟨leaves, hparse, hdelivers⟩,
        hspells, hdenotes, hdelivers⟩
    | error failure =>
      have hresult := (hfault failure).mpr hparse
      cases failure with
      | mismatch m => exact .inr (.inl ⟨m, hresult⟩)
      | malformed => exact .inr (.inr (.inl ⟨_, _, _, _, hresult⟩))
      | refused reason => exact .inr (.inr (.inr ⟨reason, hresult⟩))
  · rw [← items_eq_error_iff]
    exact exists_congr fun m ↦ (hfault (.mismatch m)).trans parse_eq_mismatch_iff
  · exact (hfault (.malformed body source flaw position)).trans parse_eq_malformed_iff
  · exact (hfault (.refused reason)).trans parse_eq_refused_iff
  · obtain ⟨p, hp, -, -, hsearch⟩ := Glob.exists_compile_source glob
    exact ⟨p, hp, hsearch⟩

/-- A pattern is refused for the number of repetitions, which is not reported as a flaw. -/
theorem countless_refused :
    ofExpression (.str "/a\x7b99999999999\x7d/") ({ heap := {}, client := () } : World Unit) =
      .error (.refusedPattern .hugeRepeat) { heap := {}, client := () } := by
  have hparse : parse "/a\x7b99999999999\x7d/" = .error (.refused .hugeRepeat) := by
    decide +kernel
  exact ofExpression_of_parse _ hparse

end Outcomes

end TagTree.Matcher
