import TagTree.Items
import TagTree.Proofs.MatcherGrammar

/-!
# Names and their expressions

Joining names by a comma, with or without gaps around it, writes an expression that denotes exactly
these names. In the other direction, an expression that denotes names only is the joined names with
gaps put in between: joining them by a bare comma gives the expression back without its gaps, and
what is written that way denotes the same names again.

Both directions rest on the grammar of expressions. The names that are joined spell the text, and a
text that names spell has nothing but the names and commas left when its gaps are deleted.
-/

namespace TagTree

/-- A name that stands for itself in an expression: it is no glob. -/
def Matcher.IsPlainName (cs : List Char) : Prop :=
  Matcher.IsName cs ∧ ∀ c ∈ cs, c ∉ ['*', '?', '[']

/-- A comma with gaps around it. -/
def Matcher.IsSeparator (cs : List Char) : Prop :=
  ∃ before after, Matcher.IsGaps before ∧ Matcher.IsGaps after ∧ cs = before ++ ',' :: after

/-- A value made of names only: a single one is the name itself, two or more are in a tuple. -/
inductive Heap.IsNames (h : Heap) : Value → List String → Prop
  | single (name : String) : IsNames h (.str name) [name]
  | several {a : Addr} {names : List String} (htwo : 2 ≤ names.length)
      (htuple : h.get? a = some (.tuple (names.map .str))) : IsNames h (.ref a) names

/-- The separator in force. -/
def World.JoinsBy {σ : Type} (w : World σ) (separator : String) : Prop :=
  Table.get? w.settings "join_separator" = some (.str separator)

instance {σ : Type} (w : World σ) (separator : String) : Decidable (w.JoinsBy separator) :=
  inferInstanceAs (Decidable (_ = _))

namespace Matcher

theorem isPlainName_iff {cs : List Char} :
    IsPlainName cs ↔ cs ≠ [] ∧ cs.all (fun c ↦ isNameChar c && !isGlobChar c) = true := by
  simp only [IsPlainName, IsName, ← isNameChar_iff, List.all_eq_true, Bool.and_eq_true, and_assoc,
    forall_and]
  simp [isGlobChar, and_assoc]

instance (cs : List Char) : Decidable (IsPlainName cs) :=
  decidable_of_iff _ isPlainName_iff.symm

/-! ## Joined names spell an expression -/

theorem IsGaps.append {cs ds : List Char} (hcs : IsGaps cs) (hds : IsGaps ds) :
    IsGaps (cs ++ ds) := by
  intro c hc
  rcases List.mem_append.mp hc with hc | hc
  · exact hcs c hc
  · exact hds c hc

/-- Gaps may be put in front of an expression. -/
theorem Spells.gaps_append {items : List Item} {cs gaps : List Char} (hgaps : IsGaps gaps)
    (hcs : Spells items cs) : Spells items (gaps ++ cs) := by
  obtain ⟨item, more, before, text, rest, rfl, hbefore, htext, hrest, rfl⟩ := spells_iff.mp hcs
  apply spells_iff.mpr
  exact ⟨item, more, gaps ++ before, text, rest, rfl, hgaps.append hbefore, htext, hrest,
    by rw [List.append_assoc]⟩

/-- The items that names are written as. -/
def nameItems (names : List String) : List Item :=
  names.map fun name ↦ .name name.toList

theorem spells_joinTexts {separator : String} (hseparator : IsSeparator separator.toList)
    {names : List String} (hne : names ≠ []) (hnames : ∀ name ∈ names, IsName name.toList) :
    Spells (nameItems names) (Heap.joinTexts separator names).toList := by
  obtain ⟨before, after, hbefore, hafter, hsep⟩ := hseparator
  induction names with
  | nil => exact absurd rfl hne
  | cons name rest ih =>
    have hwritten : (Item.name name.toList).Written name.toList :=
      .name (hnames name List.mem_cons_self)
    cases rest with
    | nil =>
      simpa [Heap.joinTexts, nameItems] using
        Spells.single (Item.Block.mk isGaps_nil hwritten isGaps_nil)
    | cons next more =>
      have hrest := ih (List.cons_ne_nil _ _)
        fun other hother ↦ hnames other (List.mem_cons_of_mem _ hother)
      have hblock := Item.Block.mk isGaps_nil hwritten hbefore
      have hspells := Spells.cons hblock (hrest.gaps_append hafter)
      simpa [Heap.joinTexts, nameItems, hsep] using hspells

theorem denotes_nameItems {names : List String}
    (hplain : ∀ name ∈ names, ∀ c ∈ name.toList, c ∉ ['*', '?', '[']) :
    List.Forall₂ Item.Denotes (nameItems names) (names.map Leaf.text) := by
  unfold nameItems
  rw [List.forall₂_map_left_iff, List.forall₂_map_right_iff, List.forall₂_same]
  intro name hname
  have htext := Item.Denotes.text (hplain name hname)
  rwa [String.ofList_toList] at htext

/-- Reading joined names gives the names back. -/
theorem parse_joinTexts {separator : String} (hseparator : IsSeparator separator.toList)
    {names : List String} (hne : names ≠ []) (hnames : ∀ name ∈ names, IsPlainName name.toList) :
    parse (Heap.joinTexts separator names) = .ok (names.map Leaf.text) := by
  apply parse_eq_ok_iff.mpr
  refine ⟨nameItems names, spells_joinTexts hseparator hne ?_, denotes_nameItems ?_⟩
  · intro name hname
    exact (hnames name hname).1
  · intro name hname
    exact (hnames name hname).2

/-! ## An expression of names without its gaps -/

/-- A text without the characters that are allowed around items. -/
def withoutGaps (cs : List Char) : List Char :=
  cs.filter fun c ↦ c ∉ [' ', '\t', '\x0c', '\r', '\n']

theorem withoutGaps_append (cs ds : List Char) :
    withoutGaps (cs ++ ds) = withoutGaps cs ++ withoutGaps ds :=
  List.filter_append ..

theorem withoutGaps_of_isGaps {cs : List Char} (hcs : IsGaps cs) : withoutGaps cs = [] := by
  apply List.filter_eq_nil_iff.mpr
  intro c hc hnot
  exact of_decide_eq_true hnot (hcs c hc)

theorem withoutGaps_of_isName {cs : List Char} (hcs : IsName cs) : withoutGaps cs = cs := by
  apply List.filter_eq_self.mpr
  intro c hc
  have hchar := isNameChar_iff.mpr (hcs.2 c hc)
  have hgap : c ∉ [' ', '\t', '\x0c', '\r', '\n'] := by
    intro hmem
    rw [not_isNameChar_of_gap hmem] at hchar
    cases hchar
  exact decide_eq_true hgap

theorem withoutGaps_of_block {cs block : List Char} (hblock : (Item.name cs).Block block) :
    IsName cs ∧ withoutGaps block = cs := by
  cases hblock with
  | mk hbefore htext hafter =>
    cases htext with
    | name hname =>
      refine ⟨hname, ?_⟩
      rw [withoutGaps_append, withoutGaps_append, withoutGaps_of_isGaps hbefore,
        withoutGaps_of_isName hname, withoutGaps_of_isGaps hafter]
      simp

/-- Of a text that names spell, the names with commas between them are left when the gaps are
deleted. -/
theorem withoutGaps_of_spells {items : List Item} {cs : List Char} (hcs : Spells items cs)
    {names : List String} (hitems : items = nameItems names) :
    withoutGaps cs = (Heap.joinTexts "," names).toList ∧ ∀ name ∈ names, IsName name.toList := by
  induction hcs generalizing names with
  | single hblock =>
    obtain ⟨name, rfl, rfl⟩ := List.map_eq_singleton_iff.mp hitems.symm
    obtain ⟨hname, htext⟩ := withoutGaps_of_block hblock
    simp [Heap.joinTexts, htext, hname]
  | @cons _ items block tail hblock htail ih =>
    obtain ⟨name, rest, rfl, rfl, hrest⟩ := List.map_eq_cons_iff.mp hitems.symm
    obtain ⟨hname, htext⟩ := withoutGaps_of_block hblock
    obtain ⟨hjoined, hnames⟩ := ih hrest.symm
    have hcomma : withoutGaps (',' :: tail) = ',' :: withoutGaps tail := by
      simp [withoutGaps]
    refine ⟨?_, List.forall_mem_cons.mpr ⟨hname, hnames⟩⟩
    cases rest with
    | nil => exact absurd hrest.symm htail.ne_nil
    | cons next more =>
      calc
        withoutGaps (block ++ ',' :: tail) = name.toList ++ ',' :: withoutGaps tail := by
          rw [withoutGaps_append, htext, hcomma]
        _ = name.toList ++ ',' :: (Heap.joinTexts "," (next :: more)).toList := by rw [hjoined]
        _ = (Heap.joinTexts "," (name :: next :: more)).toList := by simp [Heap.joinTexts]

/-- Items that stand for texts are names that are no globs. -/
theorem eq_nameItems_of_denotes {items : List Item} {names : List String}
    (hitems : List.Forall₂ Item.Denotes items (names.map Leaf.text)) :
    items = nameItems names ∧ ∀ name ∈ names, ∀ c ∈ name.toList, c ∉ ['*', '?', '['] := by
  induction names generalizing items with
  | nil =>
    cases hitems
    exact ⟨rfl, by simp⟩
  | cons name rest ih =>
    cases hitems with
    | cons hfirst hrest =>
      obtain ⟨rfl, hplain⟩ := ih hrest
      cases hfirst with
      | text hchars =>
        refine ⟨by simp [nameItems], ?_⟩
        intro other hother
        rcases List.mem_cons.mp hother with rfl | hother
        · simpa using hchars
        · exact hplain other hother

/-- An expression that denotes names is the joined names with gaps in between, and the names can be
joined and read again. -/
theorem withoutGaps_of_parse {e : String} {names : List String}
    (hparse : parse e = .ok (names.map Leaf.text)) :
    withoutGaps e.toList = (Heap.joinTexts "," names).toList ∧ names ≠ [] ∧
      ∀ name ∈ names, IsPlainName name.toList := by
  obtain ⟨items, hspells, hdenotes⟩ := parse_eq_ok_iff.mp hparse
  obtain ⟨rfl, hplain⟩ := eq_nameItems_of_denotes hdenotes
  obtain ⟨htext, hnames⟩ := withoutGaps_of_spells hspells rfl
  refine ⟨htext, ?_, fun name hname ↦ ⟨hnames name hname, hplain name hname⟩⟩
  rintro rfl
  exact hspells.ne_nil rfl

/-! ## Values -/

section Values

variable {σ : Type} {w w' : World σ} {v : Value} {names : List String}

theorem mapM_text_apply (w : World σ) (names : List String) :
    ((names.map Value.str).mapM Op.text : Op σ (List String)) w = .ok names w := by
  induction names with
  | nil => rfl
  | cons name rest ih =>
    have hname : (Op.text (.str name) : Op σ String) w = .ok name w := rfl
    rw [List.map_cons, List.mapM_cons, Op.bind_of_ok hname, Op.bind_of_ok ih, Op.pure_apply]

/-- The text of names is the names with the separator between them. -/
theorem stringify_apply {separator : String} (hw : w.JoinsBy separator)
    (hitems : Items.itemsOf w.heap v = names.map .str) (call : Caller σ) :
    Items.stringify call v w = .ok (.str (Heap.joinTexts separator names)) w := by
  have hsetting : (Op.setting "join_separator" : Op σ Value) w = .ok (.str separator) w := by
    unfold Op.setting
    rw [Op.bind_of_ok (Op.get_apply w), hw]
    rfl
  unfold Items.stringify
  rw [Op.bind_of_ok hsetting]
  simp only
  rw [Op.bind_of_ok (Op.heap_apply w), hitems, Op.bind_of_ok (mapM_text_apply w names),
    Op.pure_apply]

theorem isNames_of_delivers (hv : Delivers w (names.map Leaf.text) v w') :
    w'.heap.IsNames v names := by
  generalize hleaves : names.map Leaf.text = leaves at hv
  cases hv with
  | single leaf =>
    obtain ⟨name, rfl, rfl⟩ := List.map_eq_singleton_iff.mp hleaves
    exact .single name
  | several htwo =>
    subst hleaves
    rw [List.length_map] at htwo
    apply Heap.IsNames.several htwo
    rw [Heap.get?_add_fresh, List.map_map]
    rfl

theorem eq_map_text_of_map_toValue {leaves : List Leaf}
    (hleaves : leaves.map Leaf.toValue = names.map .str) : leaves = names.map Leaf.text := by
  induction leaves generalizing names with
  | nil =>
    obtain rfl : names = [] := by simpa using hleaves.symm
    rfl
  | cons leaf rest ih =>
    cases names with
    | nil => simp at hleaves
    | cons name more =>
      obtain ⟨hfirst, hrest⟩ := List.cons.inj hleaves
      cases leaf with
      | text s =>
        obtain rfl : s = name := by simpa [Leaf.toValue] using hfirst
        rw [ih hrest, List.map_cons]
      | pattern p => cases hfirst

/-- A result that is made of names only comes from leaves that are these names. -/
theorem eq_map_text_of_delivers {leaves : List Leaf} (hv : Delivers w leaves v w')
    (hnames : w'.heap.IsNames v names) : leaves = names.map Leaf.text := by
  cases hv with
  | single leaf =>
    cases leaf with
    | text s =>
      cases hnames
      rfl
    | pattern p => cases hnames
  | several =>
    cases hnames with
    | several _ htuple =>
      rw [Heap.get?_add_fresh, Option.some.injEq, Object.tuple.injEq] at htuple
      exact eq_map_text_of_map_toValue htuple

/-- What is made of names has these names as its items. -/
theorem itemsOf_of_isNames {h : Heap} (hv : h.IsNames v names)
    (hnames : ∀ name ∈ names, IsPlainName name.toList) :
    Items.itemsOf h v = names.map .str := by
  cases hv with
  | single name =>
    have hne : name ≠ "" := by
      rintro rfl
      exact (hnames "" List.mem_cons_self).1.1 rfl
    simp [Items.itemsOf, hne]
  | several _ htuple => simp [Items.itemsOf, Heap.sequence?, Heap.object?, htuple]

theorem itemsOf_of_sequence? {h : Heap} {items : List Value} (hv : h.sequence? v = some items) :
    Items.itemsOf h v = items := by
  cases v with
  | str s => cases hv
  | _ => simp [Items.itemsOf, hv]

/-- Reading joined names hands the names over. -/
theorem ofExpression_joinTexts {separator : String} (hseparator : IsSeparator separator.toList)
    (hne : names ≠ []) (hnames : ∀ name ∈ names, IsPlainName name.toList) (w : World σ) :
    ∃ v w', ofExpression (.str (Heap.joinTexts separator names)) w = .ok v w' ∧
      w'.heap.IsNames v names := by
  have hleaves : names.map Leaf.text ≠ [] := by simpa using hne
  obtain ⟨v, w', hv⟩ := exists_delivers w hleaves
  refine ⟨v, w', ofExpression_eq_ok_iff.mpr ⟨_, ?_, hv⟩, isNames_of_delivers hv⟩
  exact parse_joinTexts hseparator hne hnames

/-- Joining names and reading an expression of names undo each other. Whatever gaps the separator
has around its comma, the joined names denote the names: a single one itself, and two or more in a
tuple. And of every expression that denotes names only, the text that joins them by a comma is the
expression without its gaps; it denotes the same names. -/
theorem stringify_ofExpression_inverse (call : Caller σ) (w : World σ) :
    (∀ (separator : String) (names : List String) (v : Value), w.JoinsBy separator →
      IsSeparator separator.toList → names ≠ [] → (∀ name ∈ names, IsPlainName name.toList) →
      w.heap.sequence? v = some (names.map .str) →
      ∃ text v' w', Items.stringify call v w = .ok (.str text) w ∧
        ofExpression (.str text) w = .ok v' w' ∧ w'.heap.IsNames v' names) ∧
    ∀ (e : String) (v : Value) (w' : World σ) (names : List String),
      ofExpression (.str e) w = .ok v w' → w'.heap.IsNames v names → w'.JoinsBy "," →
      ∃ text v' w'', Items.stringify call v w' = .ok (.str text) w' ∧
        text.toList = withoutGaps e.toList ∧
        ofExpression (.str text) w' = .ok v' w'' ∧ w''.heap.IsNames v' names := by
  constructor
  · intro separator names v hw hseparator hne hnames hv
    obtain ⟨v', w', hread, hv'⟩ := ofExpression_joinTexts hseparator hne hnames w
    exact ⟨_, v', w', stringify_apply hw (itemsOf_of_sequence? hv) call, hread, hv'⟩
  · intro e v w' names hread hv hw'
    obtain ⟨leaves, hparse, hdelivers⟩ := ofExpression_eq_ok_iff.mp hread
    rw [eq_map_text_of_delivers hdelivers hv] at hparse
    obtain ⟨htext, hne, hnames⟩ := withoutGaps_of_parse hparse
    have hcomma : IsSeparator ",".toList := ⟨[], [], isGaps_nil, isGaps_nil, rfl⟩
    obtain ⟨v', w'', hagain, hv'⟩ := ofExpression_joinTexts hcomma hne hnames w'
    have hitems := itemsOf_of_isNames hv hnames
    exact ⟨_, v', w'', stringify_apply hw' hitems call, htext.symm, hagain, hv'⟩

end Values

/-- A world in which names are joined by a comma with a blank before and a tab behind it, with a
list of two names. -/
def twoNames : World Unit where
  heap := ⟨#[some (.entity ⟨.settings, Settings.toAttrs { joinSeparator := " ,\t" }, .absent⟩),
    some (.list [.str "brace", .str "bloc.ouvrant·é"])]⟩
  active := some 0
  client := ()

theorem stringify_ofExpression_two_names :
    let call : Caller Unit := fun _ _ _ ↦ throw .unsupported
    (twoNames.JoinsBy " ,\t" ∧
      ∃ text v w', Items.stringify call (.ref 1) twoNames = .ok (.str text) twoNames ∧
        ofExpression (.str text) twoNames = .ok v w' ∧
        w'.heap.IsNames v ["brace", "bloc.ouvrant·é"]) ∧
    ∃ v w', ofExpression (.str " a\x0c,\r\n b ") ({ client := () } : World Unit) = .ok v w' ∧
      w'.heap.IsNames v ["a", "b"] ∧ w'.JoinsBy "," ∧
      ∃ text v' w'', Items.stringify call v w' = .ok (.str text) w' ∧
        text.toList = withoutGaps " a\x0c,\r\n b ".toList ∧
        ofExpression (.str text) w' = .ok v' w'' ∧ w''.heap.IsNames v' ["a", "b"] := by
  intro call
  constructor
  · have hw : twoNames.JoinsBy " ,\t" := by decide +kernel
    have hseparator : IsSeparator " ,\t".toList :=
      ⟨[' '], ['\t'], by simp [IsGaps], by simp [IsGaps], by decide +kernel⟩
    have hnames : ∀ name ∈ ["brace", "bloc.ouvrant·é"], IsPlainName name.toList :=
      List.forall_mem_cons.mpr
        ⟨by decide +kernel, List.forall_mem_singleton.mpr (by decide +kernel)⟩
    exact ⟨hw, (stringify_ofExpression_inverse call twoNames).1 " ,\t" ["brace", "bloc.ouvrant·é"]
      (.ref 1) hw hseparator (List.cons_ne_nil _ _) hnames rfl⟩
  · have hparse : parse " a\x0c,\r\n b " = .ok (["a", "b"].map Leaf.text) := by decide +kernel
    obtain ⟨v, w', hdelivers⟩ := exists_delivers ({ client := () } : World Unit)
      (show ["a", "b"].map Leaf.text ≠ [] by simp)
    have hread := ofExpression_eq_ok_iff.mpr ⟨_, hparse, hdelivers⟩
    have hv := isNames_of_delivers hdelivers
    have hw' : w'.JoinsBy "," := by
      cases hdelivers
      decide +kernel
    exact ⟨v, w', hread, hv, hw', (stringify_ofExpression_inverse call _).2 _ _ _ _ hread hv hw'⟩

end Matcher

end TagTree
