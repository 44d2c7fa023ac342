import TagTree.Proofs.GlobSets

/-!
# Reading the patterns of globs

The search pattern of a glob is built without its written form being read, so it cannot be refused.
Nor could the written form: it is read piece by piece, each piece gives the expression that was
built for it, and the expression of the whole finds the same texts (`exists_compile_source`).

What the reader does with a text depends on what stands behind it only where an element begins that
could be meant otherwise, so lemmas are about a text in front of an arbitrary rest.
-/

namespace TagTree.Pattern

open Read

/-! ## Places in the text -/

/-- The state of the reader before some text. -/
def Scan.before (s : Scan) (rest : List Char) : Scan :=
  { s with rest }

section Places

variable {s : Scan} {c : Char} {tail : List Char}

theorem peek_before (hc : c ≠ '\\') (tail : List Char) :
    peek (s.before (c :: tail)) = .ok (some [c], s.before (c :: tail)) := by
  rw [peek_apply, Scan.before, firstElement?_plain hc]

theorem next_before (hc : c ≠ '\\') (htail : tail ≠ ['\\']) :
    next (s.before (c :: tail)) = .ok (some [c], s.before tail) :=
  next_of_some (s := s.before (c :: tail)) (firstElement?_plain hc tail) htail

theorem next_before_escape (htail : tail ≠ ['\\']) :
    next (s.before ('\\' :: c :: tail)) = .ok (some ['\\', c], s.before tail) :=
  next_of_some (s := s.before ('\\' :: c :: tail)) rfl htail

theorem accept_before (hc : c ≠ '\\') (htail : tail ≠ ['\\']) :
    accept c (s.before (c :: tail)) = .ok (true, s.before tail) := by
  unfold accept
  rw [bind_of_read (peek_before hc tail), if_pos rfl, bind_of_read (next_before hc htail)]
  rfl

theorem accept_before_of_ne {text : List Char} (htext : firstElement? text ≠ some [c]) :
    accept c (s.before text) = .ok (false, s.before text) := by
  have htext' : firstElement? (s.before text).rest ≠ some [c] := htext
  unfold accept
  rw [bind_of_read (peek_apply _), if_neg htext']
  rfl

/-- Characters that are an expression by themselves; the flags tell which one. -/
def IsPlain (c : Char) : Prop :=
  c ∉ ['|', ')', '\\', '[', '(', '*', '+', '?', '\x7b']

theorem position_apply (s : Scan) : position s = .ok (s.size - s.rest.length, s) :=
  rfl

theorem readItems_plain (fuel : Nat) (first : Bool) (read : List Regex) (hc : IsPlain c)
    (hverbose : s.flags.verbose = false) (htail : tail ≠ ['\\']) :
    readItems (fuel + 1) first read (s.before (c :: tail)) =
      readItems fuel first (plainElement s.flags c :: read) (s.before tail) := by
  simp only [IsPlain, List.mem_cons, List.not_mem_nil, or_false, not_or] at hc
  obtain ⟨hbar, hclose, hescape, hset, hopen, hstar, hplus, hquestion, hbrace⟩ := hc
  rw [readItems, bind_of_read (peek_before hescape tail)]
  dsimp only
  rw [if_neg (by simp [hbar, hclose]), bind_of_read (next_before hescape htail)]
  simp only
  rw [bind_of_read (get_apply _)]
  have hflags : (s.before tail).flags.verbose = false := hverbose
  simp only [hflags, Bool.false_and, Bool.false_eq_true, if_false]
  rfl

theorem readItems_escape {r : Regex} {tail' : List Char} (fuel : Nat) (first : Bool)
    (read : List Regex) (htail : tail ≠ ['\\'])
    (hread : readEscape c (s.before tail) = .ok (r, s.before tail')) :
    readItems (fuel + 1) first read (s.before ('\\' :: c :: tail)) =
      readItems fuel first (r :: read) (s.before tail') := by
  have hpeek : peek (s.before ('\\' :: c :: tail)) =
      .ok (some ['\\', c], s.before ('\\' :: c :: tail)) := peek_apply _
  rw [readItems, bind_of_read hpeek]
  dsimp only
  rw [if_neg (by simp), bind_of_read (next_before_escape htail), bind_of_read hread]

theorem readItems_group {r : Regex} {tail' : List Char} (fuel : Nat) (first : Bool)
    (read : List Regex) (htail : tail ≠ ['\\'])
    (hread : ∀ start, readGroup fuel first read.isEmpty start (s.before tail) =
      .ok (some r, s.before tail')) :
    readItems (fuel + 1) first read (s.before ('(' :: tail)) =
      readItems fuel first (r :: read) (s.before tail') := by
  rw [readItems, bind_of_read (peek_before (by decide) tail)]
  dsimp only
  rw [if_neg (by decide), bind_of_read (next_before (by decide) htail)]
  simp only
  rw [bind_of_read (position_apply _), bind_of_read (hread _)]

theorem readItems_set {items : List SetItem} {negated : Bool} {text inner : List Char} (fuel : Nat)
    (first : Bool) (read : List Regex) (htext : text ≠ ['\\'])
    (hnegated : accept '^' (s.before text) = .ok (negated, s.before inner))
    (hread : ∀ here, readSet here (inner.length + 1) [] (s.before inner) =
      .ok (items, s.before tail)) :
    readItems (fuel + 1) first read (s.before ('[' :: text)) =
      readItems fuel first (.set negated items :: read) (s.before tail) := by
  rw [readItems, bind_of_read (peek_before (by decide) text)]
  dsimp only
  rw [if_neg (by decide), bind_of_read (next_before (by decide) htext)]
  simp only
  rw [bind_of_read (position_apply _), bind_of_read hnegated, bind_of_read (get_apply _)]
  exact bind_of_read (hread _)

theorem readItems_close (fuel : Nat) (first : Bool) (read : List Regex) :
    readItems fuel first read (s.before (')' :: tail)) = .ok (read, s.before (')' :: tail)) := by
  cases fuel with
  | zero =>
    rw [readItems]
    rfl
  | succ fuel =>
    rw [readItems, bind_of_read (peek_before (by decide) tail)]
    rfl

theorem readItems_end (fuel : Nat) (first : Bool) (read : List Regex) :
    readItems fuel first read (s.before []) = .ok (read, s.before []) := by
  cases fuel with
  | zero =>
    rw [readItems]
    rfl
  | succ fuel =>
    rw [readItems, bind_of_read (peek_apply _)]
    rfl

theorem readItems_star {greed : Greed} {r : Regex} {tail' : List Char} (fuel : Nat) (first : Bool)
    (read : List Regex) (htail : tail ≠ ['\\'])
    (hread : ∀ start, repeatLast start 0 none (r :: read) (s.before tail) =
      .ok (.rep greed 0 none r :: read, s.before tail')) :
    readItems (fuel + 1) first (r :: read) (s.before ('*' :: tail)) =
      readItems fuel first (.rep greed 0 none r :: read) (s.before tail') := by
  rw [readItems, bind_of_read (peek_before (by decide) tail)]
  dsimp only
  rw [if_neg (by decide), bind_of_read (next_before (by decide) htail)]
  simp only
  rw [bind_of_read (position_apply _), bind_of_read (hread _)]

theorem repeatLast_lazy (start : Nat) (read : List Regex) (htail : tail ≠ ['\\']) :
    repeatLast start 0 none (.any true :: read) (s.before ('?' :: tail)) =
      .ok (.rep .lazy 0 none (.any true) :: read, s.before tail) := by
  unfold repeatLast
  simp only
  rw [bind_of_read (accept_before (by decide) htail)]
  rfl

theorem repeatLast_greedy (start : Nat) (read : List Regex)
    (hlazy : firstElement? tail ≠ some ['?']) (hpossessive : firstElement? tail ≠ some ['+']) :
    repeatLast start 0 none (.any true :: read) (s.before tail) =
      .ok (.rep .greedy 0 none (.any true) :: read, s.before tail) := by
  unfold repeatLast
  simp only
  rw [bind_of_read (accept_before_of_ne hlazy)]
  simp only [Bool.false_eq_true, if_false]
  rw [bind_of_read (accept_before_of_ne hpossessive)]
  rfl

end Places

/-! ## Groups -/

section Groups

variable {s : Scan} {text tail : List Char}

theorem closeGroup_before (start : Nat) (htail : tail ≠ ['\\']) :
    closeGroup start (s.before (')' :: tail)) = .ok ((), s.before tail) := by
  unfold closeGroup
  rw [bind_of_read (accept_before (by decide) htail)]
  rfl

theorem readAlternatives_of_items {fuel : Nat} {first : Bool} {items : List Regex}
    (hitems : readItems fuel first [] (s.before text) = .ok (items, s.before tail))
    (hbar : firstElement? tail ≠ some ['|']) :
    readAlternatives (fuel + 1) first (s.before text) =
      .ok (Regex.sequence items.reverse, s.before tail) := by
  rw [readAlternatives, bind_of_read hitems, bind_of_read (accept_before_of_ne hbar)]
  rfl

theorem readOpening_before (start : Nat) (c : Char) {opening : Opening}
    (hc : c = '!' ∧ opening = .look true true ∨ c = '>' ∧ opening = .only)
    (htext : text ≠ ['\\']) :
    readOpening start (s.before ('?' :: c :: text)) = .ok (opening, s.before text) := by
  have hescape : c ≠ '\\' := by
    obtain ⟨rfl, -⟩ | ⟨rfl, -⟩ := hc <;> decide
  unfold readOpening
  rw [bind_of_read (accept_before (by decide) (by simp [hescape]))]
  simp only [Bool.not_true, Bool.false_eq_true, if_false]
  rw [bind_of_read (next_before hescape htext)]
  obtain ⟨rfl, rfl⟩ | ⟨rfl, rfl⟩ := hc <;> rfl

/-- A group that matches nowhere. -/
theorem readGroup_never (fuel start : Nat) (first atStart : Bool) (htail : tail ≠ ['\\']) :
    readGroup (fuel + 1) first atStart start (s.before ('?' :: '!' :: ')' :: tail)) =
      .ok (some (.look true true 0 .empty), s.before tail) := by
  have hbody : readAlternatives fuel false (s.before (')' :: tail)) =
      .ok (.empty, s.before (')' :: tail)) := by
    cases fuel with
    | zero =>
      rw [readAlternatives]
      rfl
    | succ fuel =>
      exact readAlternatives_of_items (readItems_close fuel false []) (by simp [firstElement?])
  rw [readGroup, bind_of_read (readOpening_before start '!' (.inl ⟨rfl, rfl⟩) (by simp))]
  simp only [Bool.not_true, Bool.false_eq_true, if_false]
  rw [bind_of_read (get_apply _)]
  rw [bind_of_read hbody, bind_of_read (closeGroup_before start htail)]
  rfl

theorem readGroup_atomic {fuel start : Nat} {first atStart : Bool} {items : List Regex}
    (htext : text ≠ ['\\']) (htail : tail ≠ ['\\'])
    (hitems : readItems fuel false [] (s.before text) = .ok (items, s.before (')' :: tail))) :
    readGroup (fuel + 2) first atStart start (s.before ('?' :: '>' :: text)) =
      .ok (some (.atomic (Regex.sequence items.reverse)), s.before tail) := by
  have hbody := readAlternatives_of_items hitems (by simp [firstElement?])
  rw [readGroup, bind_of_read (readOpening_before start '>' (.inr ⟨rfl, rfl⟩) htext)]
  dsimp only
  rw [bind_of_read hbody, bind_of_read (closeGroup_before start htail)]
  rfl

theorem readOpening_dotAll (start : Nat) (htext : text ≠ ['\\']) :
    readOpening start (s.before ('?' :: 's' :: ':' :: text)) =
      .ok (.flags { dotAll := true } {}, s.before text) := by
  have hon : readFlagsOn ((':' :: text).length + 1) {} 's' (s.before (':' :: text)) =
      .ok (({ dotAll := true }, ':'), s.before text) := by
    rw [readFlagsOn, if_neg (by decide)]
    dsimp only
    rw [if_neg (by decide), bind_of_read (next_before (by decide) htext)]
    rfl
  have hflags : readFlags 's' (s.before (':' :: text)) =
      .ok (.scoped { dotAll := true } {}, s.before text) := by
    unfold readFlags
    rw [bind_of_read (get_apply _)]
    dsimp only
    rw [if_neg (by decide)]
    exact (bind_of_read hon).trans rfl
  unfold readOpening
  rw [bind_of_read (accept_before (by decide) (by simp))]
  simp only [Bool.not_true, Bool.false_eq_true, if_false]
  rw [bind_of_read (next_before (by decide) (by simp))]
  exact (bind_of_read hflags).trans rfl

/-- The state of the reader where a dot stands for every character. -/
def Scan.dotAll (s : Scan) : Scan :=
  { s with flags := { dotAll := true } }

theorem readGroup_dotAll {fuel start : Nat} {first atStart : Bool} {items : List Regex}
    (htext : text ≠ ['\\']) (htail : tail ≠ ['\\']) (hflags : s.flags = {})
    (hitems : readItems fuel false [] (s.dotAll.before text) =
      .ok (items, s.dotAll.before (')' :: tail))) :
    readGroup (fuel + 2) first atStart start (s.before ('?' :: 's' :: ':' :: text)) =
      .ok (some (.group none (Regex.sequence items.reverse)), s.before tail) := by
  have hbody := readAlternatives_of_items hitems (by simp [firstElement?])
  rw [readGroup, bind_of_read (readOpening_dotAll start htext)]
  dsimp only
  rw [bind_of_read (get_apply _)]
  have hinner : ((s.before text).flags.union { dotAll := true }).without {} =
      { dotAll := true } := by
    have h : (s.before text).flags = {} := hflags
    rw [h]
    decide
  rw [hinner]
  have hwith : withFlags { dotAll := true } (readAlternatives (fuel + 1) false) (s.before text) =
      .ok (Regex.sequence items.reverse, s.before (')' :: tail)) := by
    have hmodify : (modify fun s' : Scan ↦ { s' with flags := { dotAll := true } } : Read Unit)
        (s.before text) = .ok ((), s.dotAll.before text) := rfl
    unfold withFlags
    rw [bind_of_read (get_apply _), bind_of_read hmodify, bind_of_read hbody]
    rfl
  rw [bind_of_read hwith, bind_of_read (closeGroup_before start htail)]
  rfl

end Groups

theorem readPattern_of_alternatives {s s' : Scan} {fuel : Nat} {r : Regex}
    (hstart : s.rest ≠ ['\\']) (hread : readAlternatives fuel true s = .ok (r, s'))
    (hend : s'.rest = []) (hflags : s'.flags = {}) (hconditions : s'.conditions = [])
    (hdefect : r.defect? false s'.widths = none) : readPattern fuel s = .ok (r, s') := by
  unfold readPattern
  rw [bind_of_read (get_apply s), bind_of_read (moveTo_apply hstart s), bind_of_read hread,
    bind_of_read (get_apply s')]
  simp only [hflags, Bool.and_self, Bool.false_eq_true, if_false]
  rw [bind_of_read (peek_apply s'), hend]
  simp only [firstElement?, Option.isSome_none, Bool.false_eq_true, hconditions, List.find?_nil,
    hdefect]
  rfl

/-! ## Sets -/

section Sets

variable {s : Scan} {tail : List Char} {read : List SetItem} {here fuel : Nat}

/-- An element of the text of a set that stands for a character. -/
def Spelled (c : Char) (e : Element) : Prop :=
  e = [c] ∧ c ≠ '\\' ∨ e = ['\\', c] ∧ readSetEscape c = pure (.char c.toNat)

theorem Spelled.next {c : Char} {e : Element} (he : Spelled c e) (htail : tail ≠ ['\\']) :
    next (s.before (e ++ tail)) = .ok (some e, s.before tail) := by
  obtain ⟨rfl, hc⟩ | ⟨rfl, -⟩ := he
  · exact next_before hc htail
  · exact next_before_escape htail

theorem Spelled.readSetElement {c : Char} {e : Element} (he : Spelled c e) :
    readSetElement e = pure (.char c.toNat) := by
  obtain ⟨rfl, hc⟩ | ⟨rfl, hread⟩ := he
  · simp [Pattern.readSetElement]
  · exact hread

theorem readSet_char {c : Char} {e : Element} (he : Spelled c e) (hclose : e = [']'] → read = [])
    (htail : tail ≠ ['\\']) (hhyphen : firstElement? tail ≠ some ['-']) :
    readSet here (fuel + 1) read (s.before (e ++ tail)) =
      readSet here fuel (read ++ [.char c.toNat]) (s.before tail) := by
  rw [readSet, bind_of_read (he.next htail)]
  have hopen : ¬ (decide (e = [']']) && !read.isEmpty) = true := by
    simpa using hclose
  dsimp only
  rw [if_neg hopen, he.readSetElement, pure_bind, bind_of_read (accept_before_of_ne hhyphen)]
  rfl

theorem readSet_range {a b : Char} {e e' : Element} (he : Spelled a e) (he' : Spelled b e')
    (hclose : e = [']'] → read = []) (hclose' : e' ≠ [']']) (hab : a ≤ b) (htail : tail ≠ ['\\'])
    (htail' : e' ++ tail ≠ ['\\']) :
    readSet here (fuel + 1) read (s.before (e ++ '-' :: (e' ++ tail))) =
      readSet here fuel (read ++ [.range a.toNat b.toNat]) (s.before tail) := by
  have hopen : ¬ (decide (e = [']']) && !read.isEmpty) = true := by
    simpa using hclose
  have horder : ¬ b.toNat < a.toNat := by
    have hle : a.toNat ≤ b.toNat := hab
    omega
  rw [readSet, bind_of_read (he.next (by simp))]
  dsimp only
  rw [if_neg hopen, he.readSetElement, pure_bind, bind_of_read (accept_before (by decide) htail')]
  simp only [if_true]
  rw [bind_of_read (he'.next htail)]
  dsimp only
  rw [if_neg hclose', he'.readSetElement, pure_bind]
  simp only [horder, if_false]

theorem readSet_close (hread : read ≠ []) (htail : tail ≠ ['\\']) :
    readSet here (fuel + 1) read (s.before (']' :: tail)) = .ok (read, s.before tail) := by
  rw [readSet, bind_of_read (next_before (by decide) htail)]
  dsimp only
  rw [if_pos (by simpa using hread)]
  rfl

end Sets

end TagTree.Pattern

namespace TagTree.Glob

open Pattern

section Reading

variable {s : Scan} {tail : List Char}

theorem ne_backslash {c : Char} {text : List Char} (hmem : c ∈ text) (hc : c ≠ '\\') :
    text ≠ ['\\'] := by
  rintro rfl
  exact hc (List.mem_singleton.1 hmem)

theorem source_char_cases (c : Char) :
    c ∈ ['\\', '-', '&', '~', '|'] ∧ (ClassToken.char c).source = ['\\', c] ∨
      c ∉ ['\\', '-', '&', '~', '|'] ∧ (ClassToken.char c).source = [c] := by
  by_cases hc : c ∈ ['\\', '-', '&', '~', '|']
  · exact .inl ⟨hc, if_pos hc⟩
  · exact .inr ⟨hc, if_neg hc⟩

theorem spelled_source (c : Char) : Spelled c (ClassToken.char c).source := by
  obtain ⟨hc, hsource⟩ | ⟨hc, hsource⟩ := source_char_cases c
  · refine .inr ⟨hsource, ?_⟩
    simp only [List.mem_cons, List.not_mem_nil, or_false] at hc
    rcases hc with rfl | rfl | rfl | rfl | rfl <;> rfl
  · refine .inl ⟨hsource, ?_⟩
    rintro rfl
    simp at hc

theorem spelled_lead {c : Char} (hc : c = '^' ∨ c = '[') :
    Spelled c ('\\' :: (ClassToken.char c).source) := by
  rcases hc with rfl | rfl <;> exact .inr ⟨rfl, rfl⟩

theorem source_ne_bracket {c : Char} (hc : c ≠ ']') : (ClassToken.char c).source ≠ [']'] := by
  obtain ⟨-, hsource⟩ | ⟨-, hsource⟩ := source_char_cases c <;> simp [hsource, hc]

theorem setItems_char (c : Char) {tokens : List ClassToken} (h : Ranged tokens) :
    setItems (.char c :: tokens) = .char c.toNat :: setItems tokens := by
  cases h <;> rfl

/-- An element that is read as a token in front. -/
def ClassToken.Leads : ClassToken → Element → Prop
  | .char c, e => Spelled c e
  | .hyphen, e => e = ['-']

theorem leads_source (token : ClassToken) : token.Leads token.source := by
  cases token with
  | hyphen => rfl
  | char c => exact spelled_source c

theorem firstElement?_of_leads {token : ClassToken} {e : Element} (he : token.Leads e)
    (text : List Char) : firstElement? (e ++ text) = some e := by
  cases token with
  | hyphen =>
    cases he
    rfl
  | char c =>
    obtain ⟨rfl, hc⟩ | ⟨rfl, -⟩ := he
    · exact firstElement?_plain hc text
    · rfl

/-- No bare hyphen stands in front of tokens that are read as they are meant. -/
theorem Ranged.firstElement?_ne {tokens : List ClassToken} (h : Ranged tokens) :
    firstElement? (tokens.flatMap ClassToken.source ++ ']' :: tail) ≠ some ['-'] := by
  have hchar : ∀ (c : Char) (text : List Char),
      firstElement? ((ClassToken.char c).source ++ text) ≠ some ['-'] := by
    intro c text
    rw [firstElement?_of_leads (leads_source (.char c))]
    obtain ⟨-, hsource⟩ | ⟨hc, hsource⟩ := source_char_cases c
    · simp [hsource]
    · rw [hsource]
      rintro ⟨⟩
      simp at hc
  cases h with
  | nil => simp [firstElement?]
  | char c h =>
    rw [List.flatMap_cons, List.append_assoc]
    exact hchar _ _
  | range hab h =>
    rw [List.flatMap_cons, List.append_assoc]
    exact hchar _ _

theorem bracket_ne_backslash (text : List Char) : text ++ ']' :: tail ≠ ['\\'] :=
  ne_backslash (c := ']') (by simp) (by decide)

/-- The reader takes the tokens of a set up to the closing bracket. -/
theorem readSet_ranged {tokens : List ClassToken} (h : Ranged tokens) {here fuel : Nat}
    {read : List SetItem} (hread : read ≠ []) (hclose : .char ']' ∉ tokens)
    (hfuel : tokens.length < fuel) (htail : tail ≠ ['\\']) :
    readSet here fuel read (s.before (tokens.flatMap ClassToken.source ++ ']' :: tail)) =
      .ok (read ++ setItems tokens, s.before tail) := by
  induction h generalizing fuel read with
  | nil =>
    obtain ⟨fuel, rfl⟩ := Nat.exists_eq_add_one.2 hfuel
    rw [List.flatMap_nil, List.nil_append, readSet_close hread htail]
    simp [setItems]
  | @char c tokens h ih =>
    obtain ⟨fuel, rfl⟩ := Nat.exists_eq_add_one.2 (Nat.zero_lt_of_lt hfuel)
    obtain ⟨hc, hrest⟩ : ']' ≠ c ∧ .char ']' ∉ tokens := by simpa using hclose
    have hbracket := source_ne_bracket hc.symm
    rw [List.flatMap_cons, List.append_assoc, readSet_char (spelled_source c)
      (fun h ↦ absurd h hbracket) (bracket_ne_backslash _) h.firstElement?_ne,
      ih (by simp) hrest (by simpa using hfuel), setItems_char c h, List.append_assoc]
    rfl
  | @range a b tokens hab h ih =>
    obtain ⟨fuel, rfl⟩ := Nat.exists_eq_add_one.2 (Nat.zero_lt_of_lt hfuel)
    obtain ⟨ha, hb, hrest⟩ : ']' ≠ a ∧ ']' ≠ b ∧ .char ']' ∉ tokens := by simpa using hclose
    have hbracket := source_ne_bracket ha.symm
    have htext : (ClassToken.char a :: .hyphen :: .char b :: tokens).flatMap ClassToken.source ++
        ']' :: tail = (ClassToken.char a).source ++ '-' :: ((ClassToken.char b).source ++
          (tokens.flatMap ClassToken.source ++ ']' :: tail)) := by
      simp [ClassToken.source]
    rw [htext, readSet_range (spelled_source a) (spelled_source b) (fun h ↦ absurd h hbracket)
      (source_ne_bracket hb.symm) hab (bracket_ne_backslash _)
      (by rw [← List.append_assoc]; exact bracket_ne_backslash _),
      ih (by simp) hrest (by simp at hfuel; omega), List.append_assoc]
    rfl

/-- The first token may also be a closing bracket or a hyphen, and have a backslash in front. -/
theorem readSet_tokens {negated : Bool} {token : ClassToken} {rest : List ClassToken} {e : Element}
    {here fuel : Nat} (hlegible : (Piece.set negated (token :: rest)).Legible) (he : token.Leads e)
    (hfuel : rest.length + 1 < fuel) (htail : tail ≠ ['\\']) :
    readSet here fuel [] (s.before (e ++ (rest.flatMap ClassToken.source ++ ']' :: tail))) =
      .ok (setItems (token :: rest), s.before tail) := by
  obtain ⟨fuel, rfl⟩ := Nat.exists_eq_add_one.2 (Nat.zero_lt_of_lt hfuel)
  obtain ⟨-, hclose, hranged | ⟨behind, hbehind, hranged⟩⟩ := hlegible
  · cases hranged with
    | @char c _ h =>
      rw [readSet_char he (fun _ ↦ rfl) (bracket_ne_backslash _) h.firstElement?_ne,
        readSet_ranged h (by simp) hclose (by omega) htail, setItems_char c h]
      rfl
    | @range a b tokens hab h =>
      obtain ⟨hb, hrest⟩ : ']' ≠ b ∧ .char ']' ∉ tokens := by simpa using hclose
      have htext : (ClassToken.hyphen :: .char b :: tokens).flatMap ClassToken.source ++
          ']' :: tail = '-' :: ((ClassToken.char b).source ++
            (tokens.flatMap ClassToken.source ++ ']' :: tail)) := by
        simp [ClassToken.source]
      rw [htext, readSet_range he (spelled_source b) (fun _ ↦ rfl) (source_ne_bracket hb.symm) hab
        (bracket_ne_backslash _) (by rw [← List.append_assoc]; exact bracket_ne_backslash _),
        readSet_ranged h (by simp) hrest (by simp at hfuel; omega) htail]
      rfl
  · obtain ⟨rfl, rfl⟩ := List.cons.inj hbehind
    have hhyphen : Spelled '-' e := .inl ⟨he, by decide⟩
    rw [readSet_char hhyphen (fun _ ↦ rfl) (bracket_ne_backslash _) hranged.firstElement?_ne,
      readSet_ranged hranged (by simp) hclose (by omega) htail]
    rfl

theorem length_le_flatMap_source (tokens : List ClassToken) :
    tokens.length ≤ (tokens.flatMap ClassToken.source).length := by
  induction tokens with
  | nil => exact Nat.le_refl 0
  | cons token tokens ih =>
    have hpos : 1 ≤ token.source.length := by
      cases token with
      | hyphen => exact Nat.le_refl 1
      | char c => obtain ⟨-, h⟩ | ⟨-, h⟩ := source_char_cases c <;> simp [h]
    rw [List.flatMap_cons, List.length_append, List.length_cons]
    omega

/-- A caret or a bracket in front of a set that is not negated has a backslash. -/
theorem exists_lead (token : ClassToken) (rest : List ClassToken) (tail : List Char) :
    ∃ e, token.Leads e ∧ e ≠ ['^'] ∧ (Piece.set false (token :: rest)).source ++ tail =
      '[' :: (e ++ (rest.flatMap ClassToken.source ++ ']' :: tail)) := by
  by_cases hlead : (token :: rest).head? ∈ [some (.char '^'), some (.char '[')]
  · have htext : (Piece.set false (token :: rest)).source ++ tail =
        '[' :: ('\\' :: token.source ++ (rest.flatMap ClassToken.source ++ ']' :: tail)) := by
      simp only [Piece.source, if_pos hlead]
      simp
    refine ⟨'\\' :: token.source, ?_, by simp, htext⟩
    have htoken : token = .char '^' ∨ token = .char '[' := by simpa using hlead
    rcases htoken with rfl | rfl
    · exact spelled_lead (.inl rfl)
    · exact spelled_lead (.inr rfl)
  · have htext : (Piece.set false (token :: rest)).source ++ tail =
        '[' :: (token.source ++ (rest.flatMap ClassToken.source ++ ']' :: tail)) := by
      simp only [Piece.source, if_neg hlead]
      simp
    refine ⟨token.source, leads_source token, ?_, htext⟩
    cases token with
    | hyphen => decide
    | char c =>
      obtain ⟨-, hsource⟩ | ⟨-, hsource⟩ := source_char_cases c
      · simp [hsource]
      · rw [hsource]
        rintro ⟨⟩
        simp at hlead

/-- A set is read from its written form. -/
theorem readItems_setPiece {negated : Bool} {tokens : List ClassToken} (fuel : Nat) (first : Bool)
    (read : List Regex) (hlegible : (Piece.set negated tokens).Legible) (htail : tail ≠ ['\\']) :
    readItems (fuel + 1) first read (s.before ((Piece.set negated tokens).source ++ tail)) =
      readItems fuel first ((Piece.set negated tokens).regex :: read) (s.before tail) := by
  cases tokens with
  | nil => exact absurd rfl hlegible.1
  | cons token rest =>
    have hbracket : ∀ e : Element,
        e ++ (rest.flatMap ClassToken.source ++ ']' :: tail) ≠ ['\\'] := by
      intro e
      rw [← List.append_assoc]
      exact bracket_ne_backslash _
    have hfuel : ∀ e : Element, rest.length + 1 <
        (e ++ (rest.flatMap ClassToken.source ++ ']' :: tail)).length + 1 := by
      intro e
      have hlength := length_le_flatMap_source rest
      simp only [List.length_append, List.length_cons]
      omega
    cases negated with
    | true =>
      have htext : (Piece.set true (token :: rest)).source ++ tail = '[' :: '^' ::
          (token.source ++ (rest.flatMap ClassToken.source ++ ']' :: tail)) := by
        simp [Piece.source]
      rw [htext]
      refine readItems_set fuel first read (by simp) (accept_before (by decide) (hbracket _))
        fun here ↦ ?_
      exact readSet_tokens hlegible (leads_source token) (hfuel _) htail
    | false =>
      obtain ⟨e, he, hcaret, htext⟩ := exists_lead token rest tail
      have hplain : firstElement? (e ++ (rest.flatMap ClassToken.source ++ ']' :: tail)) ≠
          some ['^'] := by
        rw [firstElement?_of_leads he]
        simpa using hcaret
      rw [htext]
      refine readItems_set fuel first read (hbracket e) (accept_before_of_ne hplain) fun here ↦ ?_
      exact readSet_tokens hlegible he (hfuel e) htail

theorem isSpecial_iff {c : Char} : isSpecial c = true ↔
    c ∈ ['(', ')', '[', ']', '\x7b', '\x7d', '?', '*', '+', '-', '|', '^', '$', '\\', '.', '&', '~',
      '#', ' ', '\t', '\n', '\r', '\x0b', '\x0c'] := by
  simp [isSpecial]

theorem readEscape_special {c : Char} (hc : isSpecial c = true) :
    readEscape c = pure (.char c.toNat) := by
  rw [isSpecial_iff] at hc
  simp only [List.mem_cons, List.not_mem_nil, or_false] at hc
  rcases hc with rfl | rfl | rfl | rfl | rfl | rfl | rfl | rfl | rfl | rfl | rfl | rfl | rfl | rfl |
    rfl | rfl | rfl | rfl | rfl | rfl | rfl | rfl | rfl | rfl <;> rfl

theorem plain_of_not_isSpecial {c : Char} (hc : isSpecial c = false) (flags : Flags) :
    IsPlain c ∧ plainElement flags c = .char c.toNat := by
  have hspecial : c ∉ _ := mt isSpecial_iff.2 (by simp [hc])
  simp only [List.mem_cons, List.not_mem_nil, or_false, not_or] at hspecial
  constructor
  · simp [IsPlain, hspecial]
  · simp [plainElement, hspecial]

/-- What the reader makes of one piece, whatever comes behind it. -/
theorem readItems_piece {piece : Piece} (hlegible : piece.Legible) (hstar : piece ≠ .star)
    (hflags : s.flags = { dotAll := true }) (htail : tail ≠ ['\\']) (fuel : Nat) (first : Bool)
    (read : List Regex) :
    readItems (fuel + 2) first read (s.before (piece.source ++ tail)) =
      readItems (fuel + 1) first (piece.regex :: read) (s.before tail) := by
  have hverbose : s.flags.verbose = false := by rw [hflags]
  cases piece with
  | star => exact absurd rfl hstar
  | one =>
    have hdot : plainElement s.flags '.' = .any true := by rw [hflags]; rfl
    have hplain : IsPlain '.' := by simp [IsPlain]
    have hread := readItems_plain (fuel + 1) first read hplain hverbose htail
    rwa [hdot] at hread
  | char c =>
    cases hc : isSpecial c with
    | true =>
      have hescape : readEscape c (s.before tail) = .ok (.char c.toNat, s.before tail) := by
        rw [readEscape_special hc]
        rfl
      have hsource : (Piece.char c).source = ['\\', c] := if_pos hc
      rw [hsource]
      exact readItems_escape (fuel + 1) first read htail hescape
    | false =>
      obtain ⟨hplain, helement⟩ := plain_of_not_isSpecial hc s.flags
      have hsource : (Piece.char c).source = [c] := if_neg (by simp [hc])
      have hread := readItems_plain (fuel + 1) first read hplain hverbose htail
      rw [helement] at hread
      rw [hsource]
      exact hread
  | never =>
    exact readItems_group (fuel + 1) first read (by simp) fun start ↦
      readGroup_never fuel start first _ htail
  | set negated tokens => exact readItems_setPiece (fuel + 1) first read hlegible htail

theorem readItems_segment {segment : List Piece} (hlegible : ∀ piece ∈ segment, piece.Legible)
    (hstar : .star ∉ segment) (hflags : s.flags = { dotAll := true }) (htail : ')' ∈ tail)
    (fuel : Nat) (first : Bool) (read : List Regex) :
    readItems (fuel + segment.length + 1) first read (s.before (segmentSource segment ++ tail)) =
      readItems (fuel + 1) first ((segment.map Piece.regex).reverse ++ read) (s.before tail) := by
  induction segment generalizing read with
  | nil => rfl
  | cons piece segment ih =>
    obtain ⟨hpiece, hrest⟩ : .star ≠ piece ∧ .star ∉ segment := by simpa using hstar
    obtain ⟨hfirst, hothers⟩ := List.forall_mem_cons.1 hlegible
    have htext : segmentSource segment ++ tail ≠ ['\\'] :=
      ne_backslash (List.mem_append_right _ htail) (by decide)
    have hsource : segmentSource (piece :: segment) ++ tail =
        piece.source ++ (segmentSource segment ++ tail) := by
      simp [segmentSource]
    rw [hsource, List.length_cons]
    have hread := readItems_piece hfirst hpiece.symm hflags htext (fuel + segment.length) first read
    rw [ih hothers hrest] at hread
    refine hread.trans ?_
    simp

/-- No bare quantifier stands behind a star. -/
theorem firstElement?_segmentSource (segment : List Piece) (text : List Char) {c : Char}
    (hc : c = '?' ∨ c = '+') :
    firstElement? (segmentSource segment ++ ')' :: text) ≠ some [c] := by
  intro hfirst
  have hhead : (segmentSource segment ++ ')' :: text).head? = some c := by
    rw [eq_append_of_firstElement? hfirst]
    rfl
  have hspecial : isSpecial c = true := by
    rcases hc with rfl | rfl <;> decide
  cases segment with
  | nil => rcases hc with rfl | rfl <;> simp [segmentSource] at hhead
  | cons piece segment =>
    cases piece with
    | char d =>
      cases hd : isSpecial d with
      | true =>
        have hsource : (Piece.char d).source = ['\\', d] := if_pos hd
        rcases hc with rfl | rfl <;> simp [segmentSource, hsource] at hhead
      | false =>
        have hsource : (Piece.char d).source = [d] := if_neg (by simp [hd])
        obtain rfl : d = c := by simpa [segmentSource, hsource] using hhead
        simp [hd] at hspecial
    | _ => rcases hc with rfl | rfl <;> simp [segmentSource, Piece.source] at hhead

/-- The expressions that are read behind the first star. -/
def starItems : List (List Piece) → List Regex
  | [] => []
  | [last] => .rep .greedy 0 none (.any true) :: last.map Piece.regex
  | segment :: rest =>
    .atomic (Regex.sequence (.rep .lazy 0 none (.any true) :: segment.map Piece.regex)) ::
      starItems rest

theorem length_le_segmentSource (segment : List Piece) :
    segment.length ≤ (segmentSource segment).length := by
  induction segment with
  | nil => exact Nat.le_refl 0
  | cons piece segment ih =>
    have hpos : 1 ≤ piece.source.length := by
      cases piece with
      | char c => cases hc : isSpecial c <;> simp [Piece.source, hc]
      | _ => simp [Piece.source]
    have hlength : (segmentSource (piece :: segment)).length =
        piece.source.length + (segmentSource segment).length := by
      simp only [segmentSource, List.flatMap_cons, List.length_append]
    rw [hlength, List.length_cons]
    omega

/-- A dot with a quantifier, which is decided by what stands behind it. -/
theorem readItems_anyStar {greed : Greed} {tail' : List Char}
    (hflags : s.flags = { dotAll := true }) (htail : tail ≠ ['\\'])
    (hgreed : ∀ start read, repeatLast start 0 none (.any true :: read) (s.before tail) =
      .ok (.rep greed 0 none (.any true) :: read, s.before tail')) (fuel : Nat) (first : Bool)
    (read : List Regex) :
    readItems (fuel + 2) first read (s.before ('.' :: '*' :: tail)) =
      readItems fuel first (.rep greed 0 none (.any true) :: read) (s.before tail') := by
  have hverbose : s.flags.verbose = false := by rw [hflags]
  have hdot : plainElement s.flags '.' = .any true := by rw [hflags]; rfl
  rw [readItems_plain (fuel + 1) first read (by simp [IsPlain]) hverbose (by simp), hdot]
  exact readItems_star fuel first read htail fun start ↦ hgreed start read

/-- The pieces up to the end of their group. -/
theorem readItems_segment_close {segment : List Piece} {fuel : Nat}
    (hlegible : ∀ piece ∈ segment, piece.Legible) (hstar : .star ∉ segment)
    (hflags : s.flags = { dotAll := true }) (hfuel : segment.length < fuel) (first : Bool)
    (read : List Regex) :
    readItems fuel first read (s.before (segmentSource segment ++ ')' :: tail)) =
      .ok ((segment.map Piece.regex).reverse ++ read, s.before (')' :: tail)) := by
  obtain ⟨k, rfl⟩ : ∃ k, fuel = k + segment.length + 1 := ⟨fuel - segment.length - 1, by omega⟩
  rw [readItems_segment hlegible hstar hflags (by simp)]
  exact readItems_close _ first _

theorem readItems_stars {rest : List (List Piece)}
    (hlegible : ∀ segment ∈ rest, ∀ piece ∈ segment, piece.Legible)
    (hstar : ∀ segment ∈ rest, .star ∉ segment) (hflags : s.flags = { dotAll := true })
    {fuel : Nat} (hfuel : (starSource rest).length < fuel) (first : Bool) (read : List Regex) :
    readItems fuel first read (s.before (starSource rest ++ ')' :: tail)) =
      .ok ((starItems rest).reverse ++ read, s.before (')' :: tail)) := by
  fun_induction starSource rest generalizing fuel read with
  | case1 => exact readItems_close fuel first read
  | case2 last =>
    have hlength := length_le_segmentSource last
    obtain ⟨k, rfl⟩ : ∃ k, fuel = k + 2 := ⟨fuel - 2, by simp at hfuel; omega⟩
    have hgreed := fun start read ↦ repeatLast_greedy (s := s) start read
      (firstElement?_segmentSource last tail (.inl rfl))
      (firstElement?_segmentSource last tail (.inr rfl))
    have hread := readItems_anyStar hflags (ne_backslash (c := ')') (by simp) (by decide)) hgreed
      k first read
    refine Eq.trans ?_ (hread.trans ?_)
    · simp
    · rw [readItems_segment_close (hlegible last (by simp)) (hstar last (by simp)) hflags
        (by simp at hfuel; omega)]
      simp [starItems]
  | case3 segment rest hrest ih =>
    have hlength := length_le_segmentSource segment
    obtain ⟨k, rfl⟩ : ∃ k, fuel = k + 5 := ⟨fuel - 5, by simp at hfuel; omega⟩
    have hbehind : starSource rest ++ ')' :: tail ≠ ['\\'] :=
      ne_backslash (c := ')') (by simp) (by decide)
    have hitems : readItems (k + 2) false [] (s.before ('.' :: '*' :: '?' ::
        (segmentSource segment ++ ')' :: (starSource rest ++ ')' :: tail)))) =
        .ok ((segment.map Piece.regex).reverse ++ [.rep .lazy 0 none (.any true)],
          s.before (')' :: (starSource rest ++ ')' :: tail))) := by
      rw [readItems_anyStar hflags (by simp) (fun start read ↦ repeatLast_lazy start read
        (ne_backslash (c := ')') (by simp) (by decide))) k false []]
      exact readItems_segment_close (hlegible segment (by simp)) (hstar segment (by simp)) hflags
        (by simp at hfuel; omega) false _
    have hread := readItems_group (k + 4) first read (by simp) fun start ↦
      readGroup_atomic (by simp) hbehind hitems
    refine Eq.trans ?_ (hread.trans ?_)
    · simp
    · rw [ih (fun s hs ↦ hlegible s (by simp [hs])) (fun s hs ↦ hstar s (by simp [hs]))
        (by simp at hfuel; omega)]
      simp [starItems]

end Reading

/-! ## The whole pattern -/

/-- The expression that is read from the written form of a glob. -/
def readRegex (first : List Piece) (rest : List (List Piece)) : Regex :=
  .seq (.anchor .textStart) (.seq (.group none (Regex.sequence (first.map Piece.regex ++
    starItems rest))) (.anchor .textEnd))

theorem defect?_sequence {rs : List Regex} {template : Bool} {groups : List (Nat × Nat × Nat)}
    (h : ∀ r ∈ rs, r.defect? template groups = none) :
    (Regex.sequence rs).defect? template groups = none := by
  fun_induction Regex.sequence rs with
  | case1 => rfl
  | case2 r => exact h r (by simp)
  | case3 r rest _ ih =>
    obtain ⟨hr, hrest⟩ := List.forall_mem_cons.1 h
    rw [Regex.defect?, hr, ih hrest]
    rfl

theorem Piece.defect?_regex (piece : Piece) (groups : List (Nat × Nat × Nat)) :
    piece.regex.defect? false groups = none := by
  cases piece <;> rfl

theorem defect?_starItems (rest : List (List Piece)) (groups : List (Nat × Nat × Nat)) :
    ∀ r ∈ starItems rest, r.defect? false groups = none := by
  have hpieces : ∀ segment : List Piece, ∀ r ∈ segment.map Piece.regex,
      r.defect? false groups = none := by
    intro segment r hr
    obtain ⟨piece, -, rfl⟩ := List.mem_map.1 hr
    exact piece.defect?_regex groups
  fun_induction starItems rest with
  | case1 => simp
  | case2 last => exact List.forall_mem_cons.2 ⟨rfl, hpieces last⟩
  | case3 segment rest _ ih =>
    refine List.forall_mem_cons.2 ⟨?_, ih⟩
    exact defect?_sequence (List.forall_mem_cons.2 ⟨rfl, hpieces segment⟩)

theorem defect?_readRegex (first : List Piece) (rest : List (List Piece))
    (groups : List (Nat × Nat × Nat)) : (readRegex first rest).defect? false groups = none := by
  have hbody : (Regex.sequence (first.map Piece.regex ++ starItems rest)).defect? false groups =
      none := by
    refine defect?_sequence fun r hr ↦ ?_
    obtain hr | hr := List.mem_append.1 hr
    · obtain ⟨piece, -, rfl⟩ := List.mem_map.1 hr
      exact piece.defect?_regex groups
    · exact defect?_starItems rest groups r hr
  simp only [readRegex, Regex.defect?, hbody]
  rfl

theorem mem_of_mem_segments {pieces segment : List Piece} {piece : Piece}
    (hsegment : segment ∈ segments pieces) (hpiece : piece ∈ segment) : piece ∈ pieces := by
  induction pieces generalizing segment with
  | nil =>
    obtain rfl : segment = [] := by simpa [segments] using hsegment
    exact hpiece
  | cons head pieces ih =>
    by_cases hhead : head = .star
    · subst hhead
      obtain rfl | hsegment : segment = [] ∨ segment ∈ segments pieces := by
        simpa [segments] using hsegment
      · exact absurd hpiece List.not_mem_nil
      · exact List.mem_cons_of_mem _ (ih hsegment hpiece)
    · obtain ⟨first, rest, h⟩ := exists_segments pieces
      rw [segments_cons hhead h, List.mem_cons] at hsegment
      rw [h] at ih
      obtain rfl | hsegment := hsegment
      · obtain rfl | hpiece := List.mem_cons.1 hpiece
        · exact List.mem_cons_self
        · exact List.mem_cons_of_mem _ (ih List.mem_cons_self hpiece)
      · exact List.mem_cons_of_mem _ (ih (List.mem_cons_of_mem _ hsegment) hpiece)

section Whole

variable {first : List Piece} {rest : List (List Piece)}

/-- What stands between the anchors is read up to the parenthesis that closes it. -/
theorem readItems_body {s : Scan} {fuel : Nat} (tail : List Char)
    (hlegible : ∀ segment ∈ first :: rest, ∀ piece ∈ segment, piece.Legible)
    (hstar : ∀ segment ∈ first :: rest, .star ∉ segment) (hflags : s.flags = { dotAll := true })
    (hfuel : (segmentSource first).length + (starSource rest).length < fuel) :
    readItems fuel false [] (s.before (segmentSource first ++ (starSource rest ++ ')' :: tail))) =
      .ok ((first.map Piece.regex ++ starItems rest).reverse, s.before (')' :: tail)) := by
  obtain ⟨hfirst, hothers⟩ := List.forall_mem_cons.1 hlegible
  obtain ⟨hone, hstars⟩ := List.forall_mem_cons.1 hstar
  have hlength := length_le_segmentSource first
  obtain ⟨k, rfl⟩ : ∃ k, fuel = k + first.length + 1 := ⟨fuel - first.length - 1, by omega⟩
  rw [readItems_segment hfirst hone hflags (by simp),
    readItems_stars hothers hstars hflags (by omega)]
  simp

theorem readAlternatives_source {s : Scan} {fuel : Nat}
    (hlegible : ∀ segment ∈ first :: rest, ∀ piece ∈ segment, piece.Legible)
    (hstar : ∀ segment ∈ first :: rest, .star ∉ segment) (hflags : s.flags = {})
    (hfuel : (segmentSource first).length + (starSource rest).length < fuel) :
    readAlternatives (fuel + 5) true (s.before ("\\A(?s:".toList ++ segmentSource first ++
      starSource rest ++ ")\\Z".toList)) = .ok (readRegex first rest, s.before []) := by
  let text := segmentSource first ++ (starSource rest ++ [')', '\\', 'Z'])
  let group := Regex.group none (Regex.sequence (first.map Piece.regex ++ starItems rest))
  have hgroup : ∀ start, readGroup (fuel + 2) true false start
      (s.before ('?' :: 's' :: ':' :: text)) = .ok (some group, s.before ['\\', 'Z']) := by
    intro start
    have hbody := readItems_body (s := s.dotAll) ['\\', 'Z'] hlegible hstar rfl hfuel
    rw [readGroup_dotAll (ne_backslash (c := ')') (by simp) (by decide)) (by simp) hflags hbody,
      List.reverse_reverse]
  have hitems : readItems (fuel + 4) true []
      (s.before ('\\' :: 'A' :: '(' :: '?' :: 's' :: ':' :: text)) =
      .ok ([.anchor .textEnd, group, .anchor .textStart], s.before []) :=
    calc
      _ = readItems (fuel + 3) true [.anchor .textStart]
            (s.before ('(' :: '?' :: 's' :: ':' :: text)) :=
        readItems_escape (fuel + 3) true [] (by simp) rfl
      _ = readItems (fuel + 2) true [group, .anchor .textStart] (s.before ['\\', 'Z']) :=
        readItems_group (fuel + 2) true _ (by simp) hgroup
      _ = readItems (fuel + 1) true [.anchor .textEnd, group, .anchor .textStart] (s.before []) :=
        readItems_escape (fuel + 1) true _ (by simp) rfl
      _ = _ := readItems_end _ _ _
  have hsource : "\\A(?s:".toList ++ segmentSource first ++ starSource rest ++ ")\\Z".toList =
      '\\' :: 'A' :: '(' :: '?' :: 's' :: ':' :: text := by
    simp [text]
  rw [hsource]
  exact readAlternatives_of_items hitems (by simp [firstElement?])

theorem readPattern_source (size : Nat) {fuel : Nat}
    (hlegible : ∀ segment ∈ first :: rest, ∀ piece ∈ segment, piece.Legible)
    (hstar : ∀ segment ∈ first :: rest, .star ∉ segment)
    (hfuel : (segmentSource first).length + (starSource rest).length < fuel) :
    readPattern (fuel + 5)
        { size, rest := "\\A(?s:".toList ++ segmentSource first ++ starSource rest ++
            ")\\Z".toList } =
      .ok (readRegex first rest, { size, rest := [] }) := by
  have hread := readAlternatives_source (s := { size, rest := [] }) hlegible hstar rfl hfuel
  refine readPattern_of_alternatives ?_ hread rfl rfl rfl (defect?_readRegex first rest [])
  exact ne_backslash (c := 'A') (by simp) (by decide)

end Whole

/-! ## What is found -/

section Search

variable {text : List Char}

theorem mem_ends_sequence_cons {r : Regex} {rs : List Regex} {i j : Nat} :
    j ∈ (Regex.sequence (r :: rs)).ends text i ↔
      ∃ k ∈ r.ends text i, j ∈ (Regex.sequence rs).ends text k := by
  cases rs with
  | nil => simp [Regex.sequence, Regex.ends]
  | cons second rest => exact mem_ends_seq

theorem mem_ends_sequence_append {rs rs' : List Regex} {i j : Nat} :
    j ∈ (Regex.sequence (rs ++ rs')).ends text i ↔
      ∃ k ∈ (Regex.sequence rs).ends text i, j ∈ (Regex.sequence rs').ends text k := by
  induction rs generalizing i with
  | nil => simp [Regex.sequence, Regex.ends]
  | cons r rs ih =>
    rw [List.cons_append, mem_ends_sequence_cons]
    simp only [ih, mem_ends_sequence_cons]
    constructor
    · rintro ⟨k, hk, l, hl, hj⟩
      exact ⟨l, ⟨k, hk, hl⟩, hj⟩
    · rintro ⟨l, ⟨k, hk, hl⟩, hj⟩
      exact ⟨k, hk, l, hl, hj⟩

theorem ends_atomic_sequence (r : Regex) (segment : List Piece) (i : Nat) :
    (Regex.atomic (Regex.sequence (r :: segment.map Piece.regex))).ends text i =
      (Regex.atomic (.seq r (segmentRegex segment))).ends text i := by
  cases segment with
  | nil => simp [Regex.ends, Regex.sequence, segmentRegex, take_one_eraseDups]
  | cons piece segment => rfl

theorem mem_ends_starItems {rest : List (List Piece)} {i j : Nat} :
    j ∈ (Regex.sequence (starItems rest)).ends text i ↔ j ∈ (starRegex rest).ends text i := by
  fun_induction starItems rest generalizing i with
  | case1 => rfl
  | case2 last =>
    rw [mem_ends_sequence_cons, starRegex, mem_ends_seq]
    rfl
  | case3 segment rest hrest ih =>
    rw [mem_ends_sequence_cons, starRegex, mem_ends_seq, ends_atomic_sequence]
    simp only [ih]
    exact hrest

/-- The expression built piece by piece and the one that is read find the same texts. -/
theorem search_readRegex {first : List Piece} {rest : List (List Piece)} :
    (readRegex first rest).search text = (Regex.seq (.anchor .textStart)
      (.seq (.group none (.seq (segmentRegex first) (starRegex rest))) (.anchor .textEnd))).search
        text := by
  have hgroup : ∀ i j, j ∈ (Regex.group none (Regex.sequence (first.map Piece.regex ++
      starItems rest))).ends text i ↔
      j ∈ (Regex.group none (.seq (segmentRegex first) (starRegex rest))).ends text i := by
    intro i j
    rw [Regex.ends, Regex.ends, mem_ends_sequence_append, mem_ends_seq]
    simp only [mem_ends_starItems]
    rfl
  rw [Bool.eq_iff_iff, search_eq_true_iff, search_eq_true_iff]
  simp only [readRegex, mem_ends_seq, hgroup]

end Search

/-- The written form of a glob is a pattern, and finds the same texts as the one built directly. -/
theorem exists_compile_source (glob : String) :
    ∃ p, Pattern.compile (toPattern glob).source = .ok p ∧ p.source = (toPattern glob).source ∧
      p.options = (toPattern glob).options ∧
      ∀ text, p.search text = (toPattern glob).search text := by
  obtain ⟨first, rest, hsegments⟩ := exists_segments (pieces glob.toList)
  have hlegible : ∀ segment ∈ first :: rest, ∀ piece ∈ segment, piece.Legible := by
    intro segment hsegment piece hpiece
    rw [← hsegments] at hsegment
    exact legible_pieces glob.toList piece (mem_of_mem_segments hsegment hpiece)
  have hstar : ∀ segment ∈ first :: rest, .star ∉ segment :=
    hsegments ▸ star_notMem_segments (pieces glob.toList)
  have hsource : (toPattern glob).source.toList =
      "\\A(?s:".toList ++ segmentSource first ++ starSource rest ++ ")\\Z".toList := by
    simp only [toPattern, source, hsegments, String.toList_ofList]
  have hregex : (toPattern glob).regex = Regex.seq (.anchor .textStart)
      (.seq (.group none (.seq (segmentRegex first) (starRegex rest))) (.anchor .textEnd)) := by
    simp only [toPattern, regex, hsegments]
  have hread : readPattern (3 * (toPattern glob).source.toList.length + 4)
      { size := (toPattern glob).source.toList.length, rest := (toPattern glob).source.toList } =
      .ok (readRegex first rest,
        { size := (toPattern glob).source.toList.length, rest := [] }) := by
    have hlength : (toPattern glob).source.toList.length =
        9 + (segmentSource first).length + (starSource rest).length := by
      rw [hsource]
      simp only [List.length_append]
      have hopen : "\\A(?s:".toList.length = 6 := by decide
      have hclose : ")\\Z".toList.length = 3 := by decide
      omega
    have hfuel : 3 * (toPattern glob).source.toList.length + 4 =
        3 * (toPattern glob).source.toList.length - 1 + 5 := by omega
    have hroom : (segmentSource first).length + (starSource rest).length <
        3 * (toPattern glob).source.toList.length - 1 := by omega
    have hpattern := readPattern_source (toPattern glob).source.toList.length hlegible hstar hroom
    rw [← hsource, ← hfuel] at hpattern
    exact hpattern
  refine ⟨_, Pattern.compile_of_read hread, rfl, rfl, fun text ↦ ?_⟩
  rw [Pattern.search, Pattern.search, hregex]
  exact search_readRegex

end TagTree.Glob
