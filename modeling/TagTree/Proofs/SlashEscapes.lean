import TagTree.Proofs.MatcherGrammar

/-!
# Slashes in patterns

In an expression a pattern stands between slashes, and a slash in it has a backslash in front. The
words of an expression are read in units, so that a backslash takes the next character along. The
backslashes of slashes are then taken away without regard to units, wherever a backslash and a slash
stand side by side. Both views agree: no body has a slash in it that is not the second character of
a unit, so a backslash in front of a slash is never the end of an earlier unit.

So a pattern that is written between slashes with a backslash in front of each slash is given back,
and the pattern of a body is the body with just those backslashes left out (`slash_escapes_invert`).
-/

namespace TagTree

/-- The source of a pattern is the text that it was made of. -/
theorem Pattern.source_of_compile {source : String} {p : Pattern}
    (h : Pattern.compile source = .ok p) : p.source = source := by
  unfold Pattern.compile at h
  cases hread : Pattern.compileRegex source.toList with
  | error failure => rw [hread] at h; cases h
  | ok read => rw [hread] at h; cases h; rfl

namespace Matcher

/-! ## Units -/

/-- A unit of a pattern: a character by itself, or a backslash and the character behind it. -/
inductive BodyUnit
  | plain (c : Char)
  | escaped (c : Char)
  deriving DecidableEq, Repr

namespace BodyUnit

/-- The characters of a unit. -/
def text : BodyUnit → List Char
  | .plain c => [c]
  | .escaped c => ['\\', c]

/-- A unit that can stand between slashes. -/
def IsEnclosable : BodyUnit → Prop
  | .plain c => c ≠ '/' ∧ c ≠ '\\'
  | .escaped c => c ≠ '\n'

/-- A unit of a pattern in which no slash has a backslash in front. -/
def IsBare : BodyUnit → Prop
  | .plain c => c ≠ '\\'
  | .escaped c => c ≠ '/' ∧ c ≠ '\n'

/-- A slash gets a backslash in front. -/
def guarded (u : BodyUnit) : BodyUnit :=
  if u = .plain '/' then .escaped '/' else u

/-- A slash loses the backslash in front. -/
def bared (u : BodyUnit) : BodyUnit :=
  if u = .escaped '/' then .plain '/' else u

theorem IsBare.isEnclosable_guarded {u : BodyUnit} (hu : u.IsBare) : u.guarded.IsEnclosable := by
  unfold guarded
  split
  · exact (by decide : '/' ≠ '\n')
  · next hne =>
    cases u with
    | plain c => exact ⟨by simpa using hne, hu⟩
    | escaped c => exact hu.2

theorem IsBare.bared_guarded {u : BodyUnit} (hu : u.IsBare) : u.guarded.bared = u := by
  cases u with
  | plain c => by_cases hc : c = '/' <;> simp [guarded, bared, hc]
  | escaped c => simp [guarded, bared, hu.1]

end BodyUnit

/-- The characters of a row of units. -/
def unitsText (units : List BodyUnit) : List Char :=
  units.flatMap BodyUnit.text

theorem isBody_iff {body : List Char} :
    IsBody body ↔ ∃ units, (∀ u ∈ units, BodyUnit.IsEnclosable u) ∧ body = unitsText units := by
  constructor
  · intro h
    induction h with
    | nil => exact ⟨[], by simp, rfl⟩
    | @escaped c rest hc _ ih =>
      obtain ⟨units, hunits, rfl⟩ := ih
      exact ⟨.escaped c :: units, List.forall_mem_cons.mpr ⟨hc, hunits⟩, rfl⟩
    | @plain c rest hslash hback _ ih =>
      obtain ⟨units, hunits, rfl⟩ := ih
      exact ⟨.plain c :: units, List.forall_mem_cons.mpr ⟨⟨hslash, hback⟩, hunits⟩, rfl⟩
  · rintro ⟨units, hunits, rfl⟩
    induction units with
    | nil => exact .nil
    | cons u rest ih =>
      obtain ⟨hu, hrest⟩ := List.forall_mem_cons.mp hunits
      cases u with
      | plain c => exact .plain hu.1 hu.2 (ih hrest)
      | escaped c => exact .escaped hu (ih hrest)

/-! ## Slashes between slashes -/

/-- No row of units that can stand between slashes begins with a slash. -/
theorem head?_unitsText_ne {units : List BodyUnit} (hunits : ∀ u ∈ units, BodyUnit.IsEnclosable u) :
    (unitsText units).head? ≠ some '/' := by
  cases units with
  | nil => simp [unitsText]
  | cons u rest =>
    have hu := hunits u List.mem_cons_self
    cases u with
    | plain c => simpa [unitsText, BodyUnit.text] using hu.1
    | escaped c => simp [unitsText, BodyUnit.text]

/-- A slash in a row of units that can stand between slashes is the second character of a unit. -/
theorem slash_is_escaped {units : List BodyUnit} (hunits : ∀ u ∈ units, BodyUnit.IsEnclosable u)
    {front back : List Char} (h : unitsText units = front ++ '/' :: back) :
    ∃ before after, units = before ++ .escaped '/' :: after ∧
      front = unitsText before ++ ['\\'] ∧ back = unitsText after := by
  induction units generalizing front with
  | nil => cases front <;> cases h
  | cons u rest ih =>
    obtain ⟨hu, hrest⟩ := List.forall_mem_cons.mp hunits
    -- A slash behind the first unit is found in the rest.
    have hlater {front' : List Char} (hfront : front = u.text ++ front')
        (htail : unitsText rest = front' ++ '/' :: back) :
        ∃ before after, u :: rest = before ++ .escaped '/' :: after ∧
          front = unitsText before ++ ['\\'] ∧ back = unitsText after := by
      obtain ⟨before, after, rfl, rfl, rfl⟩ := ih hrest htail
      exact ⟨u :: before, after, rfl, by simp [hfront, unitsText], rfl⟩
    cases u with
    | plain c =>
      have hcons : c :: unitsText rest = front ++ '/' :: back := h
      cases front with
      | nil => exact absurd (List.cons.inj hcons).1 hu.1
      | cons d front' =>
        obtain ⟨rfl, htail⟩ := List.cons.inj hcons
        exact hlater rfl htail
    | escaped c =>
      have hcons : '\\' :: c :: unitsText rest = front ++ '/' :: back := h
      rcases front with _ | ⟨d, _ | ⟨d', front'⟩⟩
      · exact absurd (List.cons.inj hcons).1 (by decide)
      · obtain ⟨rfl, htail⟩ := List.cons.inj hcons
        obtain ⟨rfl, rfl⟩ := List.cons.inj htail
        exact ⟨[], rest, rfl, rfl, rfl⟩
      · obtain ⟨rfl, htail⟩ := List.cons.inj hcons
        obtain ⟨rfl, hlast⟩ := List.cons.inj htail
        exact hlater rfl hlast

theorem unescapeSlashes_cons {c : Char} {rest : List Char}
    (h : c = '\\' → rest.head? ≠ some '/') :
    unescapeSlashes (c :: rest) = c :: unescapeSlashes rest := by
  rw [unescapeSlashes]
  rintro tail rfl rfl
  exact h rfl rfl

/-- Taking away backslashes side by side with slashes takes them away from units. -/
theorem unescapeSlashes_unitsText {units : List BodyUnit}
    (hunits : ∀ u ∈ units, BodyUnit.IsEnclosable u) :
    unescapeSlashes (unitsText units) = unitsText (units.map BodyUnit.bared) := by
  induction units with
  | nil => rfl
  | cons u rest ih =>
    obtain ⟨hu, hrest⟩ := List.forall_mem_cons.mp hunits
    cases u with
    | plain c =>
      calc
        unescapeSlashes (c :: unitsText rest) = c :: unescapeSlashes (unitsText rest) :=
          unescapeSlashes_cons fun hc ↦ absurd hc hu.2
        _ = c :: unitsText (rest.map BodyUnit.bared) := by rw [ih hrest]
    | escaped c =>
      by_cases hc : c = '/'
      · subst hc
        calc
          unescapeSlashes ('\\' :: '/' :: unitsText rest) =
              '/' :: unescapeSlashes (unitsText rest) := by rw [unescapeSlashes]
          _ = '/' :: unitsText (rest.map BodyUnit.bared) := by rw [ih hrest]
      · have hbared : (BodyUnit.escaped c).bared = .escaped c := by simp [BodyUnit.bared, hc]
        -- The character taken along may be a backslash, but what follows it is no slash.
        calc
          unescapeSlashes ('\\' :: c :: unitsText rest) =
              '\\' :: unescapeSlashes (c :: unitsText rest) :=
            unescapeSlashes_cons fun _ ↦ by simpa using hc
          _ = '\\' :: c :: unescapeSlashes (unitsText rest) := by
            rw [unescapeSlashes_cons fun _ ↦ head?_unitsText_ne hrest]
          _ = '\\' :: c :: unitsText (rest.map BodyUnit.bared) := by rw [ih hrest]
          _ = unitsText ((BodyUnit.escaped c :: rest).map BodyUnit.bared) := by
            rw [List.map_cons, hbared]
            rfl

/-! ## Writing a pattern between slashes -/

/-- Every slash gets a backslash in front. -/
def escapeSlashes (cs : List Char) : List Char :=
  cs.flatMap fun c ↦ if c = '/' then ['\\', '/'] else [c]

theorem escapeSlashes_unitsText {units : List BodyUnit} (hunits : ∀ u ∈ units, BodyUnit.IsBare u) :
    escapeSlashes (unitsText units) = unitsText (units.map BodyUnit.guarded) := by
  induction units with
  | nil => rfl
  | cons u rest ih =>
    obtain ⟨hu, hrest⟩ := List.forall_mem_cons.mp hunits
    have hunit : escapeSlashes u.text = u.guarded.text := by
      cases u with
      | plain c =>
        by_cases hc : c = '/' <;> simp [escapeSlashes, BodyUnit.text, BodyUnit.guarded, hc]
      | escaped c => simp [escapeSlashes, BodyUnit.text, BodyUnit.guarded, hu.1]
    calc
      escapeSlashes (unitsText (u :: rest)) =
          escapeSlashes u.text ++ escapeSlashes (unitsText rest) := by
        simp [unitsText, escapeSlashes]
      _ = u.guarded.text ++ unitsText (rest.map BodyUnit.guarded) := by rw [hunit, ih hrest]
      _ = unitsText ((u :: rest).map BodyUnit.guarded) := rfl

/-- What is written between slashes in this way is read back. -/
theorem unescapeSlashes_escapeSlashes {units : List BodyUnit}
    (hunits : ∀ u ∈ units, BodyUnit.IsBare u) :
    IsBody (escapeSlashes (unitsText units)) ∧
      unescapeSlashes (escapeSlashes (unitsText units)) = unitsText units := by
  have hguarded : ∀ u ∈ units.map BodyUnit.guarded, BodyUnit.IsEnclosable u := by
    intro u hu
    obtain ⟨v, hv, rfl⟩ := List.mem_map.mp hu
    exact (hunits v hv).isEnclosable_guarded
  have hback : (units.map BodyUnit.guarded).map BodyUnit.bared = units := by
    calc
      (units.map BodyUnit.guarded).map BodyUnit.bared =
          units.map fun u ↦ u.guarded.bared := List.map_map
      _ = units.map id := List.map_congr_left fun u hu ↦ (hunits u hu).bared_guarded
      _ = units := List.map_id units
  rw [escapeSlashes_unitsText hunits]
  refine ⟨isBody_iff.mpr ⟨_, hguarded, rfl⟩, ?_⟩
  rw [unescapeSlashes_unitsText hguarded, hback]

/-! ## Items between slashes -/

variable {σ : Type}

/-- An item between slashes is a row of units, and its pattern is made of the same units, of which
the slashes have lost their backslashes. -/
theorem exists_units_of_denotes {body : List Char} {leaf : Leaf} (hbody : IsBody body)
    (hleaf : Item.Denotes (.pattern body) leaf) :
    ∃ p units, leaf = .pattern p ∧ (∀ u ∈ units, BodyUnit.IsEnclosable u) ∧
      body = unitsText units ∧ p.source.toList = unitsText (units.map BodyUnit.bared) := by
  obtain ⟨units, hunits, rfl⟩ := isBody_iff.mp hbody
  cases hleaf with
  | @pattern _ p hvalid =>
    refine ⟨p, units, rfl, hunits, rfl, ?_⟩
    rw [Pattern.source_of_compile hvalid, String.toList_ofList, unescapeSlashes_unitsText hunits]

/-- Between the slashes of an item stands a row of units. -/
theorem Spells.isBody {found : List Item} {cs body : List Char} (h : Spells found cs)
    (hbody : .pattern body ∈ found) : IsBody body := by
  have hwritten {item : Item} {block : List Char} (hblock : item.Block block)
      (hitem : item = .pattern body) : IsBody body := by
    subst hitem
    obtain ⟨-, htext, -⟩ := hblock
    cases htext with
    | pattern _ h => exact h
  induction h with
  | single hblock => exact hwritten hblock (List.mem_singleton.mp hbody).symm
  | cons hblock _ ih =>
    rcases List.mem_cons.mp hbody with heq | hrest
    · exact hwritten hblock heq.symm
    · exact ih hrest

theorem Spells.unique {items others : List Item} {cs : List Char} (h : Spells items cs)
    (h' : Spells others cs) : others = items :=
  Except.ok.inj ((items_eq_ok_iff.mpr h').symm.trans (items_eq_ok_iff.mpr h))

theorem ofExpression_escapeSlashes (w : World σ) {b : String} {units : List BodyUnit} {p : Pattern}
    (hne : b ≠ "") (hb : b.toList = unitsText units) (hunits : ∀ u ∈ units, BodyUnit.IsBare u)
    (hp : Pattern.compile b = .ok p) :
    ofExpression (.str ("/" ++ String.ofList (escapeSlashes b.toList) ++ "/")) w =
      .ok (.pattern p) w := by
  obtain ⟨hbody, hback⟩ := unescapeSlashes_escapeSlashes hunits
  rw [← hb] at hbody hback
  have hnonempty : escapeSlashes b.toList ≠ [] := by
    intro hnil
    rw [hnil, unescapeSlashes] at hback
    exact hne (String.toList_eq_nil_iff.mp hback.symm)
  have htext : ("/" ++ String.ofList (escapeSlashes b.toList) ++ "/").toList =
      '/' :: escapeSlashes b.toList ++ ['/'] := by simp
  have hwritten : (Item.pattern (escapeSlashes b.toList)).Written
      ("/" ++ String.ofList (escapeSlashes b.toList) ++ "/").toList := by
    rw [htext]
    exact .pattern hnonempty hbody
  have hdenotes : Item.Denotes (.pattern (escapeSlashes b.toList)) (.pattern p) := by
    apply Item.Denotes.pattern
    rw [hback, String.ofList_toList, hp]
  exact ofExpression_of_written w hwritten hdenotes

/-- A pattern in which no slash has a backslash in front is given back when it is written between
slashes with a backslash in front of each slash. In the other direction, in every item between
slashes that is accepted each slash is the second character of a unit, behind the backslash that
escapes it, and the source of the pattern is the item without just these backslashes. -/
theorem slash_escapes_invert (w : World σ) :
    (∀ (b : String) (units : List BodyUnit), b ≠ "" → b.toList = unitsText units →
      (∀ u ∈ units, BodyUnit.IsBare u) → (∃ p, Pattern.compile b = .ok p) →
      ∃ p, ofExpression (.str ("/" ++ String.ofList (escapeSlashes b.toList) ++ "/")) w =
        .ok (.pattern p) w ∧ p.source = b) ∧
    ∀ s v w', ofExpression (.str s) w = .ok v w' →
      ∃ (found : List Item) (leaves : List Leaf),
        (∀ others, Spells others s.toList ↔ others = found) ∧ Delivers w leaves v w' ∧
        found.length = leaves.length ∧
        ∀ (i : Nat) (body : List Char), found[i]? = some (.pattern body) →
          ∃ p units, leaves[i]? = some (.pattern p) ∧ body = unitsText units ∧
            (∀ u ∈ units, BodyUnit.IsEnclosable u) ∧
            (∀ front back, body = front ++ '/' :: back →
              ∃ before after, units = before ++ .escaped '/' :: after ∧
                front = unitsText before ++ ['\\'] ∧ back = unitsText after) ∧
            p.source.toList = unitsText (units.map BodyUnit.bared) := by
  constructor
  · rintro b units hne hb hunits ⟨p, hp⟩
    exact ⟨p, ofExpression_escapeSlashes w hne hb hunits hp, Pattern.source_of_compile hp⟩
  · intro s v w' h
    obtain ⟨leaves, hparse, hdelivers⟩ := ofExpression_eq_ok_iff.mp h
    obtain ⟨found, hspells, hdenotes⟩ := parse_eq_ok_iff.mp hparse
    have hunique : ∀ others, Spells others s.toList ↔ others = found := by
      intro others
      constructor
      · exact hspells.unique
      · rintro rfl
        exact hspells
    refine ⟨found, leaves, hunique, hdelivers, hdenotes.length_eq, fun i body hitem ↦ ?_⟩
    obtain ⟨hi, hitem⟩ := List.getElem?_eq_some_iff.mp hitem
    have hi' : i < leaves.length := hdenotes.length_eq ▸ hi
    have hleaf : Item.Denotes (.pattern body) leaves[i] := hitem ▸ hdenotes.get hi hi'
    have hbody : IsBody body := hspells.isBody (hitem ▸ List.getElem_mem hi)
    obtain ⟨p, units, hp, hunits, rfl, hsource⟩ := exists_units_of_denotes hbody hleaf
    refine ⟨p, units, ?_, rfl, hunits, fun front back ↦ slash_is_escaped hunits, hsource⟩
    rw [List.getElem?_eq_getElem hi', hp]

/-- The backslash in front of the slash is escaped itself, so the slash gets one of its own. -/
theorem slash_behind_escaped_backslash :
    let w : World Unit := { client := () }
    ∃ p, ofExpression (.str "/\\\\\\//") w = .ok (.pattern p) w ∧ p.source = "\\\\/" := by
  intro w
  have hvalid : Pattern.compile "\\\\/" =
      .ok ⟨"\\\\/", .seq (.char 92) (.char 47), []⟩ := by decide +kernel
  have hbare : ∀ u ∈ [.escaped '\\', .plain '/'], BodyUnit.IsBare u := by
    simp [BodyUnit.IsBare]
  have htext : "/" ++ String.ofList (escapeSlashes "\\\\/".toList) ++ "/" = "/\\\\\\//" := by
    decide +kernel
  have hwrites := (slash_escapes_invert w).1 "\\\\/" _ (by decide) rfl hbare ⟨_, hvalid⟩
  rwa [htext] at hwrites

end Matcher

end TagTree
