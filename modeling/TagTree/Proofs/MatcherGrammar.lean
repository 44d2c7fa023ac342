import Mathlib.Data.List.Forall2
import Mathlib.Data.List.TakeWhile
import TagTree.Matcher.Basic
import TagTree.Proofs.Evaluation

/-!
# The grammar of matcher expressions

Which texts are matcher expressions, and what they mean, said without a reader: an expression is a
row of blocks with commas between them, a block is an item with gaps around it, and an item is a
name or a pattern between slashes. The reader of expressions accepts exactly these texts, provided
that the patterns in them are well formed, and finds exactly these items.

The reader goes through a text word by word. Each kind of word is first described by the texts that
begin with it; then one item and the comma behind it are read, and the whole expression by induction
on a bound for its length.
-/

namespace TagTree.Matcher

/-! ## Grammar -/

/-- A possibly empty row of the characters that are allowed around items. -/
def IsGaps (cs : List Char) : Prop :=
  ∀ c ∈ cs, c ∈ [' ', '\t', '\x0c', '\r', '\n']

theorem isGaps_nil : IsGaps [] := by
  simp [IsGaps]

/-- The characters of a type name: at least one, and none of them a blank, a comma or a slash. -/
def IsName (cs : List Char) : Prop :=
  cs ≠ [] ∧ ∀ c ∈ cs, Text.isBlank c = false ∧ c ≠ ',' ∧ c ≠ '/'

/-- A row of units, each of which is a backslash with a character behind it that is not a line feed,
or a character that is neither a slash nor a backslash. -/
inductive IsBody : List Char → Prop
  | nil : IsBody []
  | escaped {c : Char} {rest : List Char} (hc : c ≠ '\n') (hrest : IsBody rest) :
      IsBody ('\\' :: c :: rest)
  | plain {c : Char} {rest : List Char} (hslash : c ≠ '/') (hback : c ≠ '\\')
      (hrest : IsBody rest) : IsBody (c :: rest)

/-- How an item is written. -/
inductive Item.Written : Item → List Char → Prop
  | name {cs : List Char} (hname : IsName cs) : Item.Written (.name cs) cs
  | pattern {body : List Char} (hne : body ≠ []) (hbody : IsBody body) :
      Item.Written (.pattern body) ('/' :: body ++ ['/'])

/-- An item with what is allowed around it. -/
inductive Item.Block (item : Item) : List Char → Prop
  | mk {before text after : List Char} (hbefore : IsGaps before) (htext : item.Written text)
      (hafter : IsGaps after) : item.Block (before ++ (text ++ after))

/-- An expression: one or more items with commas between them. -/
inductive Spells : List Item → List Char → Prop
  | single {item : Item} {block : List Char} (hblock : item.Block block) : Spells [item] block
  | cons {item : Item} {items : List Item} {block rest : List Char} (hblock : item.Block block)
      (hrest : Spells items rest) : Spells (item :: items) (block ++ ',' :: rest)

/-- What may stand behind an item: gaps, and perhaps a comma and an expression. -/
inductive Continues : List Item → List Char → Prop
  | finish {gaps : List Char} (hgaps : IsGaps gaps) : Continues [] gaps
  | comma {items : List Item} {gaps rest : List Char} (hgaps : IsGaps gaps)
      (hrest : Spells items rest) : Continues items (gaps ++ ',' :: rest)

/-- An expression is an item with gaps in front of it and what may stand behind it. -/
theorem spells_iff {items : List Item} {cs : List Char} :
    Spells items cs ↔ ∃ item more before text rest, items = item :: more ∧ IsGaps before ∧
      item.Written text ∧ Continues more rest ∧ cs = before ++ (text ++ rest) := by
  constructor
  · rintro (⟨⟨hbefore, htext, hafter⟩⟩ | ⟨⟨hbefore, htext, hafter⟩, hrest⟩)
    · exact ⟨_, _, _, _, _, rfl, hbefore, htext, .finish hafter, rfl⟩
    · exact ⟨_, _, _, _, _, rfl, hbefore, htext, .comma hafter hrest, by simp⟩
  · rintro ⟨item, more, before, text, rest, rfl, hbefore, htext, hcontinues, rfl⟩
    cases hcontinues with
    | finish hgaps => exact .single ⟨hbefore, htext, hgaps⟩
    | @comma _ gaps rest hgaps hrest =>
      have hspells := Spells.cons ⟨hbefore, htext, hgaps⟩ hrest
      simpa using hspells

/-! ## Words -/

theorem isGap_iff {c : Char} : isGap c = true ↔ c ∈ [' ', '\t', '\x0c', '\r', '\n'] := by
  simp [isGap, or_assoc]

theorem isNameChar_iff {c : Char} :
    isNameChar c = true ↔ Text.isBlank c = false ∧ c ≠ ',' ∧ c ≠ '/' := by
  simp [isNameChar, and_assoc]

theorem not_isNameChar_of_gap {c : Char} (hc : c ∈ [' ', '\t', '\x0c', '\r', '\n']) :
    isNameChar c = false := by
  simp only [List.mem_cons, List.not_mem_nil, or_false] at hc
  rcases hc with rfl | rfl | rfl | rfl | rfl <;> rfl

theorem patternBody?_eq_some_iff {cs body tail : List Char} :
    patternBody? cs = some (body, tail) ↔ IsBody body ∧ cs = body ++ '/' :: tail := by
  constructor
  · intro h
    fun_induction patternBody? cs generalizing body with
    | case1 => cases h
    | case2 rest =>
      obtain ⟨rfl, rfl⟩ : [] = body ∧ rest = tail := by simpa using h
      exact ⟨.nil, rfl⟩
    | case3 rest => cases h
    | case4 c rest hc ih =>
      obtain ⟨⟨body', tail'⟩, hrest, heq⟩ := Option.map_eq_some_iff.mp h
      obtain ⟨rfl, rfl⟩ : '\\' :: c :: body' = body ∧ tail' = tail := by simpa using heq
      obtain ⟨hbody, rfl⟩ := ih hrest
      exact ⟨.escaped hc hbody, rfl⟩
    | case5 rest => cases h
    | case6 c rest hslash _ hback ih =>
      obtain ⟨⟨body', tail'⟩, hrest, heq⟩ := Option.map_eq_some_iff.mp h
      obtain ⟨rfl, rfl⟩ : c :: body' = body ∧ tail' = tail := by simpa using heq
      obtain ⟨hbody, rfl⟩ := ih hrest
      exact ⟨.plain hslash hback hbody, rfl⟩
  · rintro ⟨hbody, rfl⟩
    induction hbody with
    | nil => simp [patternBody?]
    | escaped hc _ ih => simp [patternBody?, hc, ih]
    | plain hslash hback _ ih => simp [patternBody?, hback, ih]

/-- A text is cut at the first character that does not satisfy a condition. -/
theorem cut_iff {p : Char → Bool} {cs front rest : List Char} :
    cs.takeWhile p = front ∧ cs.dropWhile p = rest ↔
      (∀ c ∈ front, p c = true) ∧ (∀ c ∈ rest.head?, p c = false) ∧ cs = front ++ rest := by
  constructor
  · rintro ⟨rfl, rfl⟩
    refine ⟨fun c hc ↦ List.mem_takeWhile_imp hc, fun c hc ↦ ?_,
      List.takeWhile_append_dropWhile.symm⟩
    have hstop := List.head?_dropWhile_not p cs
    rwa [Option.mem_def.mp hc] at hstop
  · rintro ⟨hfront, hrest, rfl⟩
    rw [List.takeWhile_append_of_pos hfront, List.dropWhile_append_of_pos hfront]
    cases rest with
    | nil => simp
    | cons c tail =>
      have hc : p c = false := hrest c rfl
      simp [hc]

theorem word?_eq_comma_iff {cs text rest : List Char} :
    word? cs = some (.comma, text, rest) ↔ text = [','] ∧ cs = ',' :: rest := by
  constructor
  · intro h
    unfold word? at h
    split at h
    · cases h
    · obtain ⟨rfl, rfl⟩ : [','] = text ∧ _ = rest := by simpa using h
      exact ⟨rfl, rfl⟩
    · split at h <;> simp at h
    · split at h <;> simp at h
  · rintro ⟨rfl, rfl⟩
    rfl

theorem word?_eq_pattern_iff {cs text rest : List Char} :
    word? cs = some (.pattern, text, rest) ↔
      ∃ body, (Item.pattern body).Written text ∧ cs = text ++ rest := by
  constructor
  · intro h
    unfold word? at h
    split at h
    · cases h
    · simp at h
    · split at h
      · cases h
      · next body tail hne hread =>
        obtain ⟨rfl, rfl⟩ : '/' :: body ++ ['/'] = text ∧ tail = rest := by simpa using h
        obtain ⟨hbody, rfl⟩ := patternBody?_eq_some_iff.mp hread
        exact ⟨body, .pattern hne hbody, by simp⟩
      · cases h
    · split at h <;> simp at h
  · rintro ⟨body, hwritten, rfl⟩
    cases hwritten with
    | pattern hne hbody =>
      have hread : patternBody? (body ++ '/' :: rest) = some (body, rest) :=
        patternBody?_eq_some_iff.mpr ⟨hbody, rfl⟩
      simp [word?, hread]

theorem word?_eq_typeName_iff {cs text rest : List Char} :
    word? cs = some (.typeName, text, rest) ↔
      (Item.name text).Written text ∧ (∀ c ∈ rest.head?, isNameChar c = false) ∧
        cs = text ++ rest := by
  constructor
  · intro h
    unfold word? at h
    split at h
    · cases h
    · simp at h
    · split at h <;> simp at h
    · next c tail _ _ =>
      split at h
      · next hc =>
        obtain ⟨htext, hrest⟩ : (c :: tail).takeWhile isNameChar = text ∧
            (c :: tail).dropWhile isNameChar = rest := by simpa using h
        obtain ⟨hname, hends, hcut⟩ := cut_iff.mp ⟨htext, hrest⟩
        have hne : text ≠ [] := by
          rw [← htext, List.takeWhile_cons_of_pos hc]
          exact List.cons_ne_nil _ _
        exact ⟨.name ⟨hne, fun d hd ↦ isNameChar_iff.mp (hname d hd)⟩, hends, hcut⟩
      · cases h
  · rintro ⟨⟨hne, hname⟩, hends, rfl⟩
    have hall : ∀ c ∈ text, isNameChar c = true := fun c hc ↦ isNameChar_iff.mpr (hname c hc)
    obtain ⟨htake, hdrop⟩ := cut_iff.mpr ⟨hall, hends, rfl⟩
    cases text with
    | nil => exact absurd rfl hne
    | cons c tail =>
      have hc := hname c List.mem_cons_self
      have hchar := hall c List.mem_cons_self
      rw [List.cons_append] at htake hdrop ⊢
      simp [word?, hc.2.1, hc.2.2, hchar, htake, hdrop]

/-- A text begins with a word that is an item if and only if the item is written there and, being a
name, is not followed by more of a name. -/
theorem exists_word_iff {cs text rest : List Char} {item : Item} :
    (∃ terminal, (terminal = .pattern ∨ terminal = .typeName) ∧
      word? cs = some (terminal, text, rest) ∧ itemOf terminal text = item) ↔
    item.Written text ∧ (item = .name text → ∀ c ∈ rest.head?, isNameChar c = false) ∧
      cs = text ++ rest := by
  constructor
  · rintro ⟨terminal, rfl | rfl, hword, rfl⟩
    · obtain ⟨body, hwritten, hcs⟩ := word?_eq_pattern_iff.mp hword
      have hitem : itemOf .pattern text = .pattern body := by
        cases hwritten
        simp [itemOf]
      exact ⟨hitem ▸ hwritten, by simp [hitem], hcs⟩
    · obtain ⟨hwritten, hends, hcs⟩ := word?_eq_typeName_iff.mp hword
      exact ⟨hwritten, fun _ ↦ hends, hcs⟩
  · rintro ⟨hwritten, hends, hcs⟩
    cases hwritten with
    | name hname =>
      exact ⟨.typeName, .inr rfl,
        word?_eq_typeName_iff.mpr ⟨.name hname, hends rfl, hcs⟩, rfl⟩
    | pattern hne hbody =>
      exact ⟨.pattern, .inl rfl, word?_eq_pattern_iff.mpr ⟨_, .pattern hne hbody, hcs⟩,
        by simp [itemOf]⟩

theorem Item.Written.ne_nil {item : Item} {text : List Char} (htext : item.Written text) :
    text ≠ [] := by
  cases htext with
  | name hname => exact hname.1
  | pattern => exact List.cons_ne_nil _ _

/-- No way to write an item begins with a gap. -/
theorem Item.Written.not_isGap {item : Item} {text : List Char} (htext : item.Written text)
    (rest : List Char) : ∀ c ∈ (text ++ rest).head?, isGap c = false := by
  intro c hc
  rw [List.head?_append_of_ne_nil _ htext.ne_nil] at hc
  cases htext with
  | name hname =>
    have hchar := isNameChar_iff.mpr (hname.2 c (List.mem_of_mem_head? hc))
    cases hgap : isGap c with
    | false => rfl
    | true => rw [not_isNameChar_of_gap (isGap_iff.mp hgap)] at hchar; cases hchar
  | pattern =>
    obtain rfl : '/' = c := by simpa using hc
    rfl

theorem Continues.not_isNameChar {items : List Item} {rest : List Char}
    (hrest : Continues items rest) : ∀ c ∈ rest.head?, isNameChar c = false := by
  intro c hc
  cases hrest with
  | finish hgaps => exact not_isNameChar_of_gap (hgaps c (List.mem_of_mem_head? hc))
  | @comma _ gaps rest hgaps =>
    cases gaps with
    | nil =>
      obtain rfl : ',' = c := by simpa using hc
      rfl
    | cons d gaps =>
      obtain rfl : d = c := by simpa using hc
      exact not_isNameChar_of_gap (hgaps d List.mem_cons_self)

/-! ## Reading -/

theorem itemsFrom_of_word (fuel : Nat) {cursor : Cursor} {terminal : Terminal}
    {text rest : List Char} (hitem : terminal = .pattern ∨ terminal = .typeName)
    (hword : word? (cursor.rest.dropWhile isGap) = some (terminal, text, rest)) :
    itemsFrom (fuel + 1) cursor =
      (moreItems fuel (cursor.skipGap.skipWord text rest)).map (itemOf terminal text :: ·) := by
  rw [itemsFrom]
  rcases hitem with rfl | rfl <;> simp only [Cursor.skipGap, hword] <;> rfl

theorem exists_word_of_itemsFrom {fuel : Nat} {cursor : Cursor} {items : List Item}
    (h : itemsFrom (fuel + 1) cursor = .ok items) :
    ∃ terminal text rest, (terminal = .pattern ∨ terminal = .typeName) ∧
      word? (cursor.rest.dropWhile isGap) = some (terminal, text, rest) := by
  rw [itemsFrom] at h
  simp only [Cursor.skipGap] at h
  split at h
  · next text rest hword => exact ⟨_, text, rest, .inl rfl, hword⟩
  · next text rest hword => exact ⟨_, text, rest, .inr rfl, hword⟩
  · cases h

/-- Reading an expression, provided that what follows its first item is read as it should be. -/
theorem itemsFrom_succ_eq_ok_iff {fuel : Nat} {cursor : Cursor} {items : List Item}
    (hmore : ∀ next more, next.rest.length < cursor.rest.length →
      (moreItems fuel next = .ok more ↔ Continues more next.rest)) :
    itemsFrom (fuel + 1) cursor = .ok items ↔ Spells items cursor.rest := by
  -- What stands behind the first item is shorter than the expression.
  have hshort : ∀ {item : Item} {text rest : List Char}, item.Written text →
      cursor.rest.dropWhile isGap = text ++ rest →
      (cursor.skipGap.skipWord text rest).rest.length < cursor.rest.length := by
    intro item text rest hwritten hdrop
    have hpos := List.length_pos_iff.mpr hwritten.ne_nil
    have hle := List.length_dropWhile_le isGap cursor.rest
    rw [hdrop, List.length_append] at hle
    simp only [Cursor.skipWord]
    omega
  constructor
  · intro h
    obtain ⟨terminal, text, rest, hterminal, hword⟩ := exists_word_of_itemsFrom h
    obtain ⟨hwritten, -, hdrop⟩ := exists_word_iff.mp ⟨terminal, hterminal, hword, rfl⟩
    rw [itemsFrom_of_word fuel hterminal hword] at h
    obtain ⟨more, hread, rfl⟩ : ∃ more, moreItems fuel (cursor.skipGap.skipWord text rest) =
        .ok more ∧ itemOf terminal text :: more = items := by
      cases hread : moreItems fuel (cursor.skipGap.skipWord text rest) with
      | error m => rw [hread] at h; cases h
      | ok more => rw [hread] at h; cases h; exact ⟨more, rfl, rfl⟩
    obtain ⟨hbefore, -, hcs⟩ := cut_iff.mp ⟨rfl, hdrop⟩
    refine spells_iff.mpr ⟨_, more, _, text, rest, rfl, fun c hc ↦ isGap_iff.mp (hbefore c hc),
      hwritten, (hmore _ _ (hshort hwritten hdrop)).mp hread, hcs⟩
  · intro h
    obtain ⟨item, more, before, text, rest, rfl, hbefore, hwritten, hrest, hcs⟩ :=
      spells_iff.mp h
    have hdrop : cursor.rest.dropWhile isGap = text ++ rest :=
      (cut_iff.mpr ⟨fun c hc ↦ isGap_iff.mpr (hbefore c hc), hwritten.not_isGap rest, hcs⟩).2
    obtain ⟨terminal, hterminal, hword, rfl⟩ :=
      exists_word_iff.mpr ⟨hwritten, fun _ ↦ hrest.not_isNameChar, hdrop⟩
    rw [itemsFrom_of_word fuel hterminal hword,
      (hmore _ _ (hshort hwritten hdrop)).mpr hrest]
    rfl

/-- Reading what follows an item, provided that an expression behind a comma is read as it
should be. -/
theorem moreItems_succ_eq_ok_iff {fuel : Nat} {cursor : Cursor} {items : List Item}
    (hitems : ∀ next more, next.rest.length < cursor.rest.length →
      (itemsFrom fuel next = .ok more ↔ Spells more next.rest)) :
    moreItems (fuel + 1) cursor = .ok items ↔ Continues items cursor.rest := by
  have hshort : ∀ {rest : List Char}, cursor.rest.dropWhile isGap = ',' :: rest →
      (cursor.skipGap.skipWord [','] rest).rest.length < cursor.rest.length := by
    intro rest hdrop
    have hle := List.length_dropWhile_le isGap cursor.rest
    rw [hdrop, List.length_cons] at hle
    exact hle
  constructor
  · intro h
    rw [moreItems] at h
    simp only [Cursor.skipGap] at h
    split at h
    · next text rest hword =>
      obtain ⟨rfl, hdrop⟩ := word?_eq_comma_iff.mp hword
      obtain ⟨hgaps, -, hcs⟩ := cut_iff.mp ⟨rfl, hdrop⟩
      rw [hcs]
      exact .comma (fun c hc ↦ isGap_iff.mp (hgaps c hc)) ((hitems _ _ (hshort hdrop)).mp h)
    · split at h
      · next hdrop =>
        cases h
        exact .finish fun c hc ↦ isGap_iff.mp (List.dropWhile_eq_nil_iff.mp hdrop c hc)
      · cases h
  · intro h
    generalize hrest : cursor.rest = cs at h
    cases h with
    | finish hgaps =>
      have hdrop : cursor.rest.dropWhile isGap = [] := by
        rw [hrest]
        exact List.dropWhile_eq_nil_iff.mpr fun c hc ↦ isGap_iff.mpr (hgaps c hc)
      simp [moreItems, Cursor.skipGap, hdrop, word?]
    | @comma _ gaps rest hgaps hspells =>
      have hdrop : cursor.rest.dropWhile isGap = ',' :: rest :=
        (cut_iff.mpr ⟨fun c hc ↦ isGap_iff.mpr (hgaps c hc), by rintro c ⟨⟩; rfl, hrest⟩).2
      have hread := (hitems _ _ (hshort hdrop)).mpr hspells
      simpa only [moreItems, Cursor.skipGap, hdrop, word?] using hread

/-- A bound above the length of what is left is enough to read it. -/
theorem itemsFrom_moreItems_eq_ok_iff (fuel : Nat) :
    (∀ cursor items, cursor.rest.length < fuel →
      (itemsFrom fuel cursor = .ok items ↔ Spells items cursor.rest)) ∧
    ∀ cursor items, cursor.rest.length < fuel →
      (moreItems fuel cursor = .ok items ↔ Continues items cursor.rest) := by
  induction fuel with
  | zero =>
    exact ⟨fun _ _ hlt ↦ absurd hlt (Nat.not_lt_zero _),
      fun _ _ hlt ↦ absurd hlt (Nat.not_lt_zero _)⟩
  | succ fuel ih =>
    refine ⟨fun cursor items hlt ↦ ?_, fun cursor items hlt ↦ ?_⟩
    · exact itemsFrom_succ_eq_ok_iff fun next more hnext ↦ ih.2 next more (by omega)
    · exact moreItems_succ_eq_ok_iff fun next more hnext ↦ ih.1 next more (by omega)

/-- The items of a text are found if and only if it is spelled by them. -/
theorem items_eq_ok_iff {cs : List Char} {found : List Item} :
    items cs = .ok found ↔ Spells found cs :=
  (itemsFrom_moreItems_eq_ok_iff (cs.length + 2)).1 ⟨⟨1, 1⟩, ⟨1, 1⟩, cs⟩ found (by simp)

/-! ## Meaning -/

/-- What an item stands for. A name stands for itself, unless it is a glob. -/
inductive Item.Denotes : Item → Leaf → Prop
  | text {cs : List Char} (hplain : ∀ c ∈ cs, c ∉ ['*', '?', '[']) :
      Item.Denotes (.name cs) (.text (String.ofList cs))
  | glob {cs : List Char} {c : Char} (hc : c ∈ cs) (hglob : c ∈ ['*', '?', '[']) :
      Item.Denotes (.name cs) (.pattern (Glob.toPattern (String.ofList cs)))
  | pattern {body : List Char} {p : Pattern}
      (hvalid : Pattern.compile (String.ofList (unescapeSlashes body)) = .ok p) :
      Item.Denotes (.pattern body) (.pattern p)

theorem any_isGlobChar_iff {cs : List Char} :
    cs.any isGlobChar = true ↔ ∃ c ∈ cs, c ∈ ['*', '?', '['] := by
  simp [isGlobChar, or_assoc]

theorem Item.leaf_eq_ok_iff {item : Item} {leaf : Leaf} :
    item.leaf = .ok leaf ↔ item.Denotes leaf := by
  cases item with
  | name cs =>
    by_cases hglob : cs.any isGlobChar = true
    · obtain ⟨c, hc, hmem⟩ := any_isGlobChar_iff.mp hglob
      simp only [Item.leaf, hglob, if_true, Except.ok.injEq]
      constructor
      · rintro rfl
        exact .glob hc hmem
      · rintro (hplain | _)
        · exact absurd hmem (hplain c hc)
        · rfl
    · simp only [Item.leaf, if_neg hglob, Except.ok.injEq]
      have hplain : ∀ c ∈ cs, c ∉ ['*', '?', '['] :=
        fun c hc hmem ↦ hglob (any_isGlobChar_iff.mpr ⟨c, hc, hmem⟩)
      constructor
      · rintro rfl
        exact .text hplain
      · rintro (_ | ⟨hc, hmem⟩)
        · rfl
        · exact absurd hmem (hplain _ hc)
  | pattern body =>
    simp only [Item.leaf]
    constructor
    · intro h
      split at h
      · next p hvalid =>
        cases h
        exact .pattern hvalid
      · cases h
      · cases h
    · intro h
      cases h with
      | pattern hvalid => rw [hvalid]

theorem mapM_eq_ok_iff {α β ε : Type} {f : α → Except ε β} {xs : List α} {ys : List β} :
    xs.mapM f = .ok ys ↔ List.Forall₂ (fun x y ↦ f x = .ok y) xs ys := by
  induction xs generalizing ys with
  | nil => simp [List.mapM_nil, pure, Except.pure, eq_comm]
  | cons x rest ih =>
    rw [List.mapM_cons, List.forall₂_cons_left_iff]
    cases hx : f x with
    | error e => simp [bind, Except.bind]
    | ok y =>
      cases hrest : rest.mapM f with
      | error e =>
        simp only [bind, Except.bind, reduceCtorEq, Except.ok.injEq, false_iff]
        rintro ⟨y', more, -, hmore, -⟩
        rw [ih.mpr hmore] at hrest
        cases hrest
      | ok more =>
        simp only [bind, Except.bind, pure, Except.pure, Except.ok.injEq]
        constructor
        · rintro rfl
          exact ⟨y, more, rfl, ih.mp hrest, rfl⟩
        · rintro ⟨y', more', rfl, hmore, rfl⟩
          rw [ih.mpr hmore] at hrest
          cases hrest
          rfl

/-- The leaves of an expression are what the items that spell it stand for. -/
theorem parse_eq_ok_iff {s : String} {leaves : List Leaf} :
    parse s = .ok leaves ↔
      ∃ items, Spells items s.toList ∧ List.Forall₂ Item.Denotes items leaves := by
  have hleaves : ∀ found : List Item, found.mapM Item.leaf = .ok leaves ↔
      List.Forall₂ Item.Denotes found leaves := by
    intro found
    simp only [mapM_eq_ok_iff, Item.leaf_eq_ok_iff]
  constructor
  · intro h
    unfold parse at h
    split at h
    · next found hfound => exact ⟨found, items_eq_ok_iff.mp hfound, (hleaves found).mp h⟩
    · cases h
  · rintro ⟨found, hspells, hdenotes⟩
    rw [parse, items_eq_ok_iff.mpr hspells]
    exact (hleaves found).mpr hdenotes

theorem Spells.ne_nil {items : List Item} {cs : List Char} (h : Spells items cs) : items ≠ [] := by
  cases h <;> exact List.cons_ne_nil _ _

theorem exists_valid_of_denotes {items : List Item} {leaves : List Leaf} {body : List Char}
    (hdenotes : List.Forall₂ Item.Denotes items leaves) (hbody : .pattern body ∈ items) :
    ∃ p, Pattern.compile (String.ofList (unescapeSlashes body)) = .ok p := by
  induction hdenotes with
  | nil => cases hbody
  | cons hfirst _ ih =>
    rcases List.mem_cons.mp hbody with rfl | hrest
    · cases hfirst with
      | pattern hvalid => exact ⟨_, hvalid⟩
    · exact ih hrest

/-- All items stand for something if the patterns among them are well formed. -/
theorem exists_denotes {items : List Item}
    (hvalid : ∀ body, .pattern body ∈ items →
      ∃ p, Pattern.compile (String.ofList (unescapeSlashes body)) = .ok p) :
    ∃ leaves, List.Forall₂ Item.Denotes items leaves := by
  induction items with
  | nil => exact ⟨[], .nil⟩
  | cons item rest ih =>
    obtain ⟨leaves, hleaves⟩ := ih fun body hbody ↦ hvalid body (List.mem_cons_of_mem _ hbody)
    have hitem : ∃ leaf, item.Denotes leaf := by
      cases item with
      | name cs =>
        by_cases hplain : ∀ c ∈ cs, c ∉ ['*', '?', '[']
        · exact ⟨_, .text hplain⟩
        · simp only [not_forall, not_not] at hplain
          obtain ⟨c, hc, hglob⟩ := hplain
          exact ⟨_, .glob hc hglob⟩
      | pattern body =>
        obtain ⟨p, hp⟩ := hvalid body List.mem_cons_self
        exact ⟨_, .pattern hp⟩
    obtain ⟨leaf, hleaf⟩ := hitem
    exact ⟨leaf :: leaves, .cons hleaf hleaves⟩

section Delivery

variable {σ : Type}

/-- What the leaves of an expression are handed over as, in which world: a single one as it is, and
two or more in a new tuple. -/
inductive Delivers (w : World σ) : List Leaf → Value → World σ → Prop
  | single (leaf : Leaf) : Delivers w [leaf] leaf.toValue w
  | several {leaves : List Leaf} (htwo : 2 ≤ leaves.length) :
      Delivers w leaves (.ref w.heap.fresh)
        { w with heap := w.heap.add (.tuple (leaves.map Leaf.toValue)) }

theorem exists_delivers (w : World σ) {leaves : List Leaf} (hne : leaves ≠ []) :
    ∃ v w', Delivers w leaves v w' := by
  match leaves with
  | [] => exact absurd rfl hne
  | [leaf] => exact ⟨_, _, .single leaf⟩
  | _ :: _ :: _ => exact ⟨_, _, .several (by simp)⟩

theorem ofExpression_eq_ok_iff {s : String} {w w' : World σ} {v : Value} :
    ofExpression (.str s) w = .ok v w' ↔
      ∃ leaves, parse s = .ok leaves ∧ Delivers w leaves v w' := by
  simp only [ofExpression]
  cases hparse : parse s with
  | error failure => cases failure <;> simp
  | ok leaves =>
    obtain ⟨items, hspells, hdenotes⟩ := parse_eq_ok_iff.mp hparse
    have hlength := hdenotes.length_eq
    simp only [Except.ok.injEq, exists_eq_left']
    match leaves with
    | [] => exact absurd (List.length_eq_zero_iff.mp hlength) hspells.ne_nil
    | [leaf] =>
      constructor
      · intro h
        cases h
        exact .single leaf
      · intro h
        cases h with
        | single => rfl
        | several htwo => simp at htwo
    | first :: second :: rest =>
      constructor
      · intro h
        cases h
        exact .several (by simp)
      · intro h
        cases h
        rfl

/-- An item by itself is an expression for what it stands for. -/
theorem ofExpression_of_written (w : World σ) {s : String} {item : Item} {leaf : Leaf}
    (hwritten : item.Written s.toList) (hdenotes : item.Denotes leaf) :
    ofExpression (.str s) w = .ok leaf.toValue w := by
  have hspells : Spells [item] s.toList := by
    simpa using Spells.single (.mk isGaps_nil hwritten isGaps_nil)
  have hparse : parse s = .ok [leaf] := parse_eq_ok_iff.mpr ⟨_, hspells, .cons hdenotes .nil⟩
  exact ofExpression_eq_ok_iff.mpr ⟨_, hparse, .single leaf⟩

/-- A text is accepted as a matcher expression if and only if it is spelled by items whose patterns
are well formed. It then denotes what its items stand for, in their order: a name itself, or the
pattern of a glob, or the pattern between slashes. -/
theorem ofExpression_accepts_grammar (s : String) (w : World σ) :
    ((∃ v w', ofExpression (.str s) w = .ok v w') ↔
      ∃ items, Spells items s.toList ∧ ∀ body, .pattern body ∈ items →
        ∃ p, Pattern.compile (String.ofList (unescapeSlashes body)) = .ok p) ∧
    ∀ v w', ofExpression (.str s) w = .ok v w' ↔
      ∃ items leaves, Spells items s.toList ∧ List.Forall₂ Item.Denotes items leaves ∧
        Delivers w leaves v w' := by
  have hresult : ∀ v w', ofExpression (.str s) w = .ok v w' ↔
      ∃ items leaves, Spells items s.toList ∧ List.Forall₂ Item.Denotes items leaves ∧
        Delivers w leaves v w' := by
    intro v w'
    rw [ofExpression_eq_ok_iff]
    constructor
    · rintro ⟨leaves, hparse, hdelivers⟩
      obtain ⟨items, hspells, hdenotes⟩ := parse_eq_ok_iff.mp hparse
      exact ⟨items, leaves, hspells, hdenotes, hdelivers⟩
    · rintro ⟨items, leaves, hspells, hdenotes, hdelivers⟩
      exact ⟨leaves, parse_eq_ok_iff.mpr ⟨items, hspells, hdenotes⟩, hdelivers⟩
  refine ⟨⟨?_, ?_⟩, hresult⟩
  · rintro ⟨v, w', h⟩
    obtain ⟨items, leaves, hspells, hdenotes, -⟩ := (hresult v w').mp h
    refine ⟨items, hspells, fun body hbody ↦ ?_⟩
    exact exists_valid_of_denotes hdenotes hbody
  · rintro ⟨items, hspells, hvalid⟩
    obtain ⟨leaves, hdenotes⟩ := exists_denotes hvalid
    have hne : leaves ≠ [] := by
      rintro rfl
      exact hspells.ne_nil (List.forall₂_nil_right_iff.mp hdenotes)
    obtain ⟨v, w', hdelivers⟩ := exists_delivers w hne
    exact ⟨v, w', (hresult v w').mpr ⟨items, leaves, hspells, hdenotes, hdelivers⟩⟩

end Delivery

end TagTree.Matcher
