import TagTree.Pattern.Reader

/-!
# Why texts are refused as patterns

A text is refused because of a flaw in its notation, or because it asks for too much although it is
well formed: a number between braces is too large or has too many digits to be read at all, or
letters are to be both those of ASCII and those of all scripts. Then it contains such a number, or
the two groups that set these flags (`Excessive`).

Every reader starts behind some text of the pattern, and either goes on in the pattern or fails for
one of these reasons (`Ensures`). Whoever calls it need not look into it again, and the text read so
far is at hand where a number or a flag is judged.
-/

namespace TagTree.Pattern

open Read

/-! ## Excessive patterns -/

/-- A number between braces, as one of the bounds that are written there. -/
inductive Bound : List Char → List Char → Prop
  | exact (n : List Char) : Bound n ('\x7b' :: n ++ ['\x7d'])
  | least (n m : List Char) : Bound n ('\x7b' :: n ++ ',' :: m ++ ['\x7d'])
  | most (n m : List Char) : Bound n ('\x7b' :: m ++ ',' :: n ++ ['\x7d'])

/-- Decimal digits that stand for a bound in a pattern. -/
def IsCount (source digits : List Char) : Prop :=
  (∀ d ∈ digits, isDecimal d = true) ∧ ∃ braces, Bound digits braces ∧ braces <:+: source

/-- A group in a pattern sets a flag for all of it. -/
def SetsFlag (source : List Char) (letter : Char) : Prop :=
  ∃ letters, letter ∈ letters ∧ '(' :: '?' :: letters ++ [')'] <:+: source

/-- What a pattern asks for too much of, if it is well formed and still refused. -/
inductive Excessive (source : List Char) : Failure → Prop
  | hugeRepeat {digits : List Char} (hcount : IsCount source digits)
      (hhuge : repeatLimit ≤ numberValue 10 digits) : Excessive source .hugeRepeat
  | longNumber {digits : List Char} (hcount : IsCount source digits)
      (hlong : Text.digitLimit < digits.length) : Excessive source (.longNumber digits.length)
  | flagClash (hascii : SetsFlag source 'a') (hunicode : SetsFlag source 'u') :
      Excessive source .flagClash

/-! ## Careful readers -/

/-- How the reader may get from one state to another: it stays in the text, and flags are set by
groups that say so. -/
structure Follows (source : List Char) (s s' : Scan) : Prop where
  rest : s'.rest <:+ source
  ascii : s'.flags.ascii = true → s.flags.ascii = true ∨ SetsFlag source 'a'
  unicode : s'.flags.unicode = true → s.flags.unicode = true ∨ SetsFlag source 'u'

theorem Follows.trans {source : List Char} {s₁ s₂ s₃ : Scan} (h : Follows source s₁ s₂)
    (h' : Follows source s₂ s₃) : Follows source s₁ s₃ where
  rest := h'.rest
  ascii h₃ := (h'.ascii h₃).elim h.ascii .inr
  unicode h₃ := (h'.unicode h₃).elim h.unicode .inr

theorem follows_of_flags {source : List Char} {s s' : Scan} (hrest : s'.rest <:+ source)
    (hflags : s'.flags = s.flags) : Follows source s s' :=
  ⟨hrest, fun h ↦ .inl (hflags ▸ h), fun h ↦ .inl (hflags ▸ h)⟩

/-- A reader succeeds with a result as expected in a state that follows, or finds a flaw, or finds
something excessive. -/
def Sound (source : List Char) {α : Type} (Q : α → Prop) (s : Scan) :
    Except Failure (α × Scan) → Prop
  | .ok (a, s') => Follows source s s' ∧ Q a
  | .error e => (∃ flaw position, e = .malformed flaw position) ∨ Excessive source e

/-- A reader is sound wherever it starts in a source behind some text. -/
def Ensures (source front : List Char) {α : Type} (m : Read α) (Q : α → Prop) : Prop :=
  ∀ s : Scan, front ++ s.rest <:+ source → Sound source Q s (m s)

/-- A reader is sound, whatever its result. -/
abbrev Careful (source front : List Char) {α : Type} (m : Read α) : Prop :=
  Ensures source front m fun _ ↦ True

section Combining

variable {source front : List Char} {α β : Type} {Q : α → Prop} {R : β → Prop}

theorem Sound.from {s s' : Scan} (hs : Follows source s s') {x : Except Failure (α × Scan)}
    (hx : Sound source Q s' x) : Sound source Q s x := by
  cases x with
  | ok p => exact ⟨hs.trans hx.1, hx.2⟩
  | error e => exact hx

theorem bind_of_read {m : Read α} {f : α → Read β} {a : α} {s s' : Scan}
    (h : m s = .ok (a, s')) : (m >>= f) s = f a s' := by
  change Except.bind (m s) (fun p ↦ f p.1 p.2) = _
  rw [h]
  rfl

theorem bind_of_failure {m : Read α} {f : α → Read β} {e : Failure} {s : Scan}
    (h : m s = .error e) : (m >>= f) s = .error e := by
  change Except.bind (m s) (fun p ↦ f p.1 p.2) = _
  rw [h]
  rfl

theorem get_apply (s : Scan) : (get : Read Scan) s = .ok (s, s) :=
  rfl

theorem Ensures.bind {m : Read α} {f : α → Read β} (hm : Ensures source front m Q)
    (hf : ∀ a, Q a → Ensures source [] (f a) R) : Ensures source front (m >>= f) R := by
  intro s hs
  have hfirst := hm s hs
  cases hrun : m s with
  | error e =>
    rw [bind_of_failure hrun]
    rwa [hrun] at hfirst
  | ok p =>
    rw [hrun] at hfirst
    obtain ⟨hfollows, hresult⟩ := hfirst
    rw [bind_of_read hrun]
    exact (hf p.1 hresult p.2 hfollows.rest).from hfollows

theorem Careful.bind {m : Read α} {f : α → Read β} (hm : Careful source front m)
    (hf : ∀ a, Ensures source [] (f a) R) : Ensures source front (m >>= f) R :=
  Ensures.bind hm fun a _ ↦ hf a

/-- What only looks keeps the place. -/
theorem Ensures.look {m : Read α} {f : α → Read β} {g : Scan → α}
    (hm : ∀ s, m s = .ok (g s, s)) (hf : ∀ a, Ensures source front (f a) R) :
    Ensures source front (m >>= f) R := by
  intro s hs
  rw [bind_of_read (hm s)]
  exact hf _ s hs

theorem Ensures.of_get {f : Scan → Read β}
    (hf : ∀ s : Scan, front ++ s.rest <:+ source → Ensures source front (f s) R) :
    Ensures source front (get >>= f) R :=
  fun s hs ↦ hf s hs s hs

/-- The text read so far is there to be used. -/
theorem Ensures.of_front {m : Read α} (hm : front <:+: source → Ensures source front m Q) :
    Ensures source front m Q :=
  fun s hs ↦ hm ((List.prefix_append _ _).isInfix.trans hs.isInfix) s hs

theorem rest_suffix {s : Scan} (hs : front ++ s.rest <:+ source) : s.rest <:+ source :=
  (List.suffix_append _ _).trans hs

theorem Ensures.anywhere {m : Read α} (hm : Ensures source [] m Q) : Ensures source front m Q :=
  fun s hs ↦ hm s (rest_suffix hs)

theorem ensures_pure {a : α} (ha : Q a) : Ensures source front (pure a : Read α) Q :=
  fun _ hs ↦ ⟨follows_of_flags (rest_suffix hs) rfl, ha⟩

theorem careful_pure (a : α) : Careful source front (pure a : Read α) :=
  ensures_pure trivial

theorem ensures_failAt (flaw : Flaw) (position : Nat) :
    Ensures source front (failAt flaw position) Q :=
  fun _ _ ↦ .inl ⟨flaw, some position, rfl⟩

theorem ensures_failBack (flaw : Flaw) (back : Nat) :
    Ensures source front (failBack flaw back) Q :=
  fun _ _ ↦ .inl ⟨flaw, _, rfl⟩

theorem ensures_throw_bind {e : Failure} (he : Excessive source e) {k : α → Read β} :
    Ensures source front (throw e >>= k) R :=
  fun _ _ ↦ .inr he

theorem careful_modify {f : Scan → Scan}
    (hrest : ∀ s : Scan, s.rest <:+ source → (f s).rest <:+ source)
    (hflags : ∀ s, (f s).flags = s.flags) : Careful source front (modify f : Read Unit) :=
  fun s hs ↦ ⟨follows_of_flags (hrest s (rest_suffix hs)) (hflags s), trivial⟩

/-- A change of the state that leaves the place and the flags alone. -/
theorem Ensures.update {f : Scan → Scan} {k : Scan → Read β} (hrest : ∀ s, (f s).rest = s.rest)
    (hflags : ∀ s, (f s).flags = s.flags) (hk : ∀ s, Ensures source [] (k s) R) :
    Ensures source front (do let s ← get; set (f s); k s) R := by
  intro s hs
  have hplace : (f s).rest <:+ source := hrest s ▸ rest_suffix hs
  exact (hk s (f s) hplace).from (follows_of_flags hplace (hflags s))

theorem Ensures.guard {c : Prop} [Decidable c] {flaw : Flaw} {back : Nat} {k : Unit → Read α}
    (hk : Ensures source front (k ()) Q) :
    Ensures source front (if c then failBack flaw back >>= k else k ()) Q := by
  split
  · exact fun _ _ ↦ .inl ⟨flaw, _, rfl⟩
  · exact hk

end Combining

/-! ## Elements -/

/-- The element that a text begins with. -/
def firstElement? : List Char → Option Element
  | [] => none
  | '\\' :: c :: _ => some ['\\', c]
  | c :: _ => some [c]

theorem firstElement?_plain {c : Char} (hc : c ≠ '\\') (tail : List Char) :
    firstElement? (c :: tail) = some [c] := by
  unfold firstElement?
  split <;> simp_all

theorem eq_append_of_firstElement? {cs : List Char} {e : Element}
    (h : firstElement? cs = some e) : cs = e ++ cs.drop e.length := by
  unfold firstElement? at h
  split at h <;> cases h <;> rfl

section Elements

variable {source front : List Char} {s : Scan} {β : Type} {R : β → Prop}

theorem peek_apply (s : Scan) : peek s = .ok (firstElement? s.rest, s) := by
  unfold peek
  rw [bind_of_read (get_apply s)]
  generalize s.rest = cs
  fun_cases firstElement? cs with
  | case1 => rfl
  | case2 c tail => rfl
  | case3 c tail hplain =>
    simp only
    rfl

theorem moveTo_apply {tail : List Char} (htail : tail ≠ ['\\']) (s : Scan) :
    moveTo tail s = .ok ((), { s with rest := tail }) := by
  unfold moveTo
  rw [if_neg htail]
  rfl

theorem moveTo_of_dangling (s : Scan) :
    moveTo ['\\'] s = .error (.malformed .danglingBackslash (some (s.size - 1))) := by
  unfold moveTo
  rw [if_pos rfl]
  rfl

theorem next_of_none (hs : firstElement? s.rest = none) : next s = .ok (none, s) := by
  have hpeek : peek s = .ok (none, s) := by rw [peek_apply, hs]
  unfold next
  rw [bind_of_read hpeek]
  rfl

theorem next_of_first {e : Element} (hs : firstElement? s.rest = some e) :
    next s = (do moveTo (s.rest.drop e.length); return some e : Read (Option Element)) s := by
  unfold next
  rw [bind_of_read (peek_apply s), hs]
  exact bind_of_read (get_apply s)

theorem next_of_some {e : Element} (hs : firstElement? s.rest = some e)
    (htail : s.rest.drop e.length ≠ ['\\']) :
    next s = .ok (some e, { s with rest := s.rest.drop e.length }) := by
  rw [next_of_first hs, bind_of_read (moveTo_apply htail s)]
  rfl

theorem next_of_dangling {e : Element} (hs : firstElement? s.rest = some e)
    (htail : s.rest.drop e.length = ['\\']) :
    next s = .error (.malformed .danglingBackslash (some (s.size - 1))) := by
  rw [next_of_first hs, htail, bind_of_failure (moveTo_of_dangling s)]

/-- An element that was taken stands before what follows. -/
theorem sound_next {f : Option Element → Read β} {e : Element} (hs : front ++ s.rest <:+ source)
    (hfirst : firstElement? s.rest = some e) (hf : Ensures source (front ++ e) (f (some e)) R) :
    Sound source R s ((next >>= f) s) := by
  by_cases htail : s.rest.drop e.length = ['\\']
  · rw [bind_of_failure (next_of_dangling hfirst htail)]
    exact .inl ⟨_, _, rfl⟩
  · have hrest : (front ++ e) ++ s.rest.drop e.length <:+ source := by
      rwa [List.append_assoc, ← eq_append_of_firstElement? hfirst]
    have hfollows : Follows source s { s with rest := s.rest.drop e.length } :=
      follows_of_flags (rest_suffix hrest) rfl
    rw [bind_of_read (next_of_some hfirst htail)]
    exact (hf { s with rest := s.rest.drop e.length } hrest).from hfollows

theorem Ensures.next {f : Option Element → Read β} (hnone : Ensures source front (f none) R)
    (hsome : ∀ e, Ensures source (front ++ e) (f (some e)) R) :
    Ensures source front (next >>= f) R := by
  intro s hs
  cases hfirst : firstElement? s.rest with
  | none =>
    rw [bind_of_read (next_of_none hfirst)]
    exact hnone s hs
  | some e => exact sound_next hs hfirst (hsome e)

theorem careful_next : Careful source front next := by
  rw [← bind_pure next]
  exact Ensures.next (careful_pure _) fun _ ↦ careful_pure _

theorem Ensures.accept {c : Char} {f : Bool → Read β}
    (htrue : Ensures source (front ++ [c]) (f true) R) (hfalse : Ensures source front (f false) R) :
    Ensures source front (accept c >>= f) R := by
  intro s hs
  unfold Read.accept
  rw [bind_assoc, bind_of_read (peek_apply s)]
  by_cases hc : firstElement? s.rest = some [c]
  · rw [if_pos hc, bind_assoc]
    exact sound_next hs hc (by rwa [pure_bind])
  · rw [if_neg hc, pure_bind]
    exact hfalse s hs

theorem careful_accept (c : Char) : Careful source front (accept c) := by
  rw [← bind_pure (accept c)]
  exact Ensures.accept (careful_pure _) (careful_pure _)

theorem Ensures.takeUpTo {p : Char → Bool} {n : Nat} {f : List Char → Read β}
    (hf : ∀ ds, (∀ d ∈ ds, p d = true) → Ensures source (front ++ ds) (f ds) R) :
    Ensures source front (takeUpTo p n >>= f) R := by
  have hstop : Ensures source front (pure [] >>= f) R := by
    rw [pure_bind]
    simpa using hf [] (by simp)
  induction n generalizing front f with
  | zero => exact hstop
  | succ n ih =>
    intro s hs
    unfold Read.takeUpTo
    rw [bind_assoc, bind_of_read (peek_apply s)]
    rcases hfirst : firstElement? s.rest with _ | _ | ⟨c, _ | _⟩
    case some.cons.nil =>
      dsimp only
      by_cases hp : p c = true
      · rw [if_pos hp, bind_assoc]
        refine sound_next hs hfirst ?_
        simp only [bind_assoc, pure_bind]
        have hmore : ∀ ds, (∀ d ∈ ds, p d = true) →
            Ensures source (front ++ [c] ++ ds) (f (c :: ds)) R := by
          intro ds hds
          have hall : ∀ d ∈ c :: ds, p d = true := by simpa [hp] using hds
          simpa using hf (c :: ds) hall
        exact ih hmore (by simpa using hmore [] (by simp))
      · rw [if_neg hp]
        exact hstop s hs
    all_goals exact hstop s hs

theorem careful_takeUpTo (p : Char → Bool) (n : Nat) : Careful source front (takeUpTo p n) := by
  rw [← bind_pure (takeUpTo p n)]
  exact Ensures.takeUpTo fun _ _ ↦ careful_pure _

theorem careful_takeName (terminator : Char) (what : String) (fuel : Nat) (read : List Char) :
    Careful source front (takeName terminator what fuel read) := by
  induction fuel generalizing front read with
  | zero => exact ensures_failBack _ _
  | succ fuel ih =>
    unfold takeName
    refine Ensures.next ?_ fun e ↦ ?_
    · dsimp only
      split
      · exact ensures_failBack _ _
      · exact ensures_failBack _ _
    · dsimp only
      split
      · split
        · exact ensures_failBack _ _
        · exact careful_pure _
      · exact ih _

end Elements

/-! ## Escapes and sets -/

section Escapes

variable {source front : List Char}

theorem careful_readCodedChar (c : Char) (width : Nat) :
    Careful source front (readCodedChar c width) := by
  unfold readCodedChar
  refine (careful_takeUpTo _ _).bind fun digits ↦ ?_
  exact Ensures.guard (Ensures.guard (careful_pure _))

theorem careful_readNamedChar : Careful source front readNamedChar := by
  unfold readNamedChar
  refine (careful_accept _).bind fun b ↦ ?_
  refine Ensures.guard ?_
  refine Ensures.look (fun s ↦ rfl) fun s ↦ ?_
  refine (careful_takeName _ _ _ _).bind fun name ↦ ?_
  split
  · exact careful_pure _
  · exact ensures_failBack _ _

theorem careful_readSetEscape (c : Char) : Careful source front (readSetEscape c) := by
  unfold readSetEscape
  split
  · exact careful_pure _
  split
  · exact careful_pure _
  split
  · exact (careful_readCodedChar _ _).bind fun _ ↦ careful_pure _
  split
  · exact careful_readNamedChar.bind fun _ ↦ careful_pure _
  split
  · exact (careful_takeUpTo _ _).bind fun _ ↦ Ensures.guard (careful_pure _)
  · exact Ensures.guard (careful_pure _)

theorem careful_checkBehind (index : Nat) : Careful source front (checkBehind index) := by
  unfold checkBehind
  refine Ensures.look (fun s ↦ rfl) fun s ↦ ?_
  split
  · exact Ensures.guard (Ensures.guard (careful_pure _))
  · exact careful_pure _

theorem careful_readNumberEscape (c : Char) : Careful source front (readNumberEscape c) := by
  unfold readNumberEscape
  refine (careful_takeUpTo _ _).bind fun second ↦ ?_
  dsimp only
  split
  · refine (careful_takeUpTo _ _).bind fun third ↦ ?_
    split
    · exact Ensures.guard (careful_pure _)
    refine Ensures.look (fun s ↦ rfl) fun s ↦ ?_
    split
    · exact Ensures.guard ((careful_checkBehind _).bind fun _ ↦ careful_pure _)
    · exact ensures_failBack _ _
  · refine Ensures.look (fun s ↦ rfl) fun s ↦ ?_
    split
    · exact Ensures.guard ((careful_checkBehind _).bind fun _ ↦ careful_pure _)
    · exact ensures_failBack _ _

theorem careful_readEscape (c : Char) : Careful source front (readEscape c) := by
  unfold readEscape
  split
  · exact careful_pure _
  split
  · exact careful_pure _
  split
  · exact careful_pure _
  split
  · exact (careful_readCodedChar _ _).bind fun _ ↦ careful_pure _
  split
  · exact careful_readNamedChar.bind fun _ ↦ careful_pure _
  split
  · exact (careful_takeUpTo _ _).bind fun _ ↦ careful_pure _
  split
  · exact careful_readNumberEscape _
  · exact Ensures.guard (careful_pure _)

theorem careful_readSetElement (e : Element) : Careful source front (readSetElement e) := by
  unfold readSetElement
  split
  · exact careful_readSetEscape _
  · exact careful_pure _
  · exact careful_pure _

theorem careful_readSet (here fuel : Nat) (read : List SetItem) :
    Careful source front (readSet here fuel read) := by
  induction fuel generalizing front read with
  | zero => exact ensures_failAt _ _
  | succ fuel ih =>
    unfold readSet
    refine careful_next.bind fun this ↦ ?_
    split
    · exact ensures_failAt _ _
    split
    · exact careful_pure _
    refine (careful_readSetElement _).bind fun first ↦ ?_
    refine (careful_accept _).bind fun hyphen ↦ ?_
    split
    · refine careful_next.bind fun that ↦ ?_
      split
      · exact ensures_failAt _ _
      split
      · exact careful_pure _
      refine (careful_readSetElement _).bind fun last ↦ ?_
      split
      · exact Ensures.guard (ih _)
      · exact ensures_failBack _ _
    · exact ih _

end Escapes

/-! ## Flags -/

section Flags

variable {source front : List Char}

theorem Flags.ascii_of_set? {flags : Flags} {letter : Char}
    (h : ((flags.set? letter).getD flags).ascii = true) : flags.ascii = true ∨ letter = 'a' := by
  unfold Flags.set? at h
  split at h <;> simp_all

theorem Flags.unicode_of_set? {flags : Flags} {letter : Char}
    (h : ((flags.set? letter).getD flags).unicode = true) :
    flags.unicode = true ∨ letter = 'u' := by
  unfold Flags.set? at h
  split at h <;> simp_all

/-- The flags that one of the letters stands for. -/
def Flags.Among (letters : List Char) (flags : Flags) : Prop :=
  (flags.ascii = true → 'a' ∈ letters) ∧ (flags.unicode = true → 'u' ∈ letters)

theorem ensures_readFlagsOn {letters : List Char} {fuel : Nat} {on : Flags} {letter : Char}
    (hletter : letter ∈ letters) (hon : on.Among letters) :
    Ensures source ('(' :: '?' :: letters) (readFlagsOn fuel on letter) fun p ↦
      p.2 = ')' → (p.1.ascii = true → SetsFlag source 'a') ∧
        (p.1.unicode = true → SetsFlag source 'u') := by
  induction fuel generalizing letters on letter with
  | zero => exact ensures_failBack _ _
  | succ fuel ih =>
    unfold readFlagsOn
    have hset : ((on.set? letter).getD on).Among letters := by
      refine ⟨fun h ↦ ?_, fun h ↦ ?_⟩
      · exact (Flags.ascii_of_set? h).elim hon.1 fun h ↦ h ▸ hletter
      · exact (Flags.unicode_of_set? h).elim hon.2 fun h ↦ h ▸ hletter
    refine Ensures.guard (Ensures.guard (Ensures.next (ensures_failBack _ _) fun e ↦ ?_))
    dsimp only
    split
    · rename_i c
      split
      · refine Ensures.of_front fun hfront ↦ ensures_pure ?_
        rintro rfl
        exact ⟨fun h ↦ ⟨letters, hset.1 h, hfront⟩, fun h ↦ ⟨letters, hset.2 h, hfront⟩⟩
      split
      · have hmore : ∀ x ∈ letters, x ∈ letters ++ [c] := fun x hx ↦ List.mem_append_left _ hx
        exact ih (by simp) ⟨fun h ↦ hmore _ (hset.1 h), fun h ↦ hmore _ (hset.2 h)⟩
      · exact ensures_failBack _ _
    · exact ensures_failBack _ _

theorem careful_readFlagsOff (fuel : Nat) (off : Flags) (letter : Char) :
    Careful source front (readFlagsOff fuel off letter) := by
  induction fuel generalizing front off letter with
  | zero => exact ensures_failBack _ _
  | succ fuel ih =>
    unfold readFlagsOff
    refine Ensures.guard (careful_next.bind fun e ↦ ?_)
    split
    · exact ensures_failBack _ _
    split
    · split
      · exact careful_pure _
      split
      · exact ih _ _
      · exact ensures_failBack _ _
    · exact ensures_failBack _ _

/-- What a group of flags sets for the whole pattern is written there. -/
def FlagGroup.Written (source : List Char) : FlagGroup → Prop
  | .global on => (on.ascii = true → SetsFlag source 'a') ∧
      (on.unicode = true → SetsFlag source 'u')
  | .scoped _ _ => True

theorem ensures_readFlags (letter : Char) :
    Ensures source ['(', '?', letter] (readFlags letter) (FlagGroup.Written source) := by
  unfold readFlags
  refine Ensures.look (fun s ↦ rfl) fun s ↦ ?_
  -- What is done behind the flags that are set comes first, since two branches lead to it.
  extract_lets fuel k
  have hk : ∀ on close, (close = ')' → (on.ascii = true → SetsFlag source 'a') ∧
      (on.unicode = true → SetsFlag source 'u')) →
      Ensures source [] (k (on, close)) (FlagGroup.Written source) := by
    intro on close hglobal
    change Ensures source [] (if close = ')' then _ else _) _
    split
    · exact ensures_pure (hglobal ‹_›)
    refine Ensures.guard ?_
    extract_lets last
    have hlast : ∀ off, Ensures source [] (last off) (FlagGroup.Written source) := fun off ↦
      Ensures.guard (Ensures.guard (ensures_pure trivial))
    dsimp only
    split
    · refine careful_next.bind fun e ↦ ?_
      split
      · exact Careful.bind (ensures_failBack _ _) hlast
      split
      · split
        · exact (careful_readFlagsOff _ _ _).bind hlast
        · exact Careful.bind (ensures_failBack _ _) hlast
      · exact Careful.bind (ensures_failBack _ _) hlast
    · exact (careful_pure _).bind hlast
  split
  · refine Ensures.bind (Q := fun p ↦ p.2 = '-') (ensures_pure rfl) fun p hp ↦ hk p.1 p.2 ?_
    simp [hp]
  · exact Ensures.bind (ensures_readFlagsOn (by simp) ⟨by simp, by simp⟩) fun p hp ↦ hk p.1 p.2 hp

end Flags

/-! ## Repeats -/

section Repeats

variable {source front : List Char} {β : Type} {R : β → Prop}

theorem careful_readCount {ds : List Char} (hcount : IsCount source ds) :
    Careful source front (readCount ds) := by
  unfold readCount
  split
  · exact ensures_throw_bind (.longNumber hcount ‹_›)
  dsimp only
  split
  · exact ensures_throw_bind (.hugeRepeat hcount ‹_›)
  · exact careful_pure _

theorem careful_readBraces : Careful source ['\x7b'] readBraces := by
  unfold readBraces
  refine Ensures.look peek_apply fun e ↦ ?_
  split
  · exact careful_pure _
  refine Ensures.of_get fun s hs ↦ ?_
  extract_lets start
  refine Ensures.look (fun s ↦ rfl) fun here ↦ ?_
  refine Ensures.takeUpTo fun lo hlo ↦ ?_
  extract_lets bounds
  -- Both numbers are counts once the closing brace is there; without it they stand for themselves.
  have hbounds : ∀ front hi, (front ++ ['\x7d'] <:+: source →
      IsCount source lo ∧ IsCount source hi) → Careful source front (bounds hi) := by
    intro front hi hcounts
    refine Ensures.accept (Ensures.of_front fun hfront ↦ ?_) ?_
    · obtain ⟨hleast, hmost⟩ := hcounts hfront
      rw [if_neg (by decide)]
      extract_lets upper
      have hupper : ∀ least, Careful source [] (upper least) := by
        intro least
        change Careful source [] (if hi.isEmpty = true then _ else _)
        split
        · exact careful_pure _
        refine (careful_readCount hmost).bind fun most ↦ ?_
        split
        · exact Careful.bind (ensures_failAt _ _) fun _ ↦ careful_pure _
        · exact careful_pure _
      split
      · exact (careful_pure 0).bind hupper
      · exact (careful_readCount hleast).bind hupper
    · rw [if_pos (by decide)]
      have hback : Careful source front (modify fun s : Scan ↦ { s with rest := start }) :=
        careful_modify (fun _ _ ↦ rest_suffix hs) fun _ ↦ rfl
      exact hback.bind fun _ ↦ careful_pure _
  refine Ensures.accept ?_ ?_
  · refine Ensures.takeUpTo fun hi hhi ↦ ?_
    refine hbounds _ hi fun hfront ↦ ⟨⟨hlo, _, .least lo hi, ?_⟩, ⟨hhi, _, .most hi lo, ?_⟩⟩
    · simpa using hfront
    · simpa using hfront
  · rw [if_neg Bool.false_ne_true, pure_bind]
    refine hbounds _ lo fun hfront ↦ ?_
    have hcount : IsCount source lo := ⟨hlo, _, .exact lo, by simpa using hfront⟩
    exact ⟨hcount, hcount⟩

theorem careful_repeatLast (start least : Nat) (most : Option Nat) (read : List Regex) :
    Careful source front (repeatLast start least most read) := by
  unfold repeatLast
  split
  · exact ensures_failAt _ _
  · exact ensures_failAt _ _
  · exact ensures_failAt _ _
  refine Ensures.accept (careful_pure _) ?_
  exact Ensures.accept (careful_pure _) (careful_pure _)

end Repeats

/-! ## Groups -/

section Groups

variable {source front : List Char}

theorem careful_groupNamed (name : List Char) : Careful source front (groupNamed name) := by
  unfold groupNamed
  refine Ensures.look (fun s ↦ rfl) fun names ↦ ?_
  split
  · exact careful_pure _
  · exact ensures_failBack _ _

theorem careful_takeGroupName (terminator : Char) :
    Careful source front (takeGroupName terminator) :=
  Ensures.look (fun _ ↦ rfl) fun _ ↦ careful_takeName _ _ _ _

theorem careful_readGroupName (terminator : Char) :
    Careful source front (readGroupName terminator) := by
  unfold readGroupName
  exact (careful_takeGroupName _).bind fun name ↦ Ensures.guard (careful_pure _)

theorem careful_openGroup (name : Option (List Char)) : Careful source front (openGroup name) := by
  unfold openGroup
  refine Ensures.update (f := fun s ↦ { s with groups := s.groups + 1 }) (fun _ ↦ rfl)
    (fun _ ↦ rfl) fun s ↦ ?_
  have hname : ∀ name : List Char, Careful source []
      (modify fun s' : Scan ↦ { s' with names := (name, s.groups) :: s'.names }) := fun _ ↦
    careful_modify (fun _ h ↦ h) fun _ ↦ rfl
  split
  · split
    · exact Careful.bind (ensures_failBack _ _) fun _ ↦ (hname _).bind fun _ ↦ careful_pure _
    · exact (hname _).bind fun _ ↦ careful_pure _
  · exact careful_pure _

theorem careful_skipComment (start fuel : Nat) :
    Careful source front (skipComment start fuel) := by
  induction fuel generalizing front with
  | zero => exact ensures_failAt _ _
  | succ fuel ih =>
    unfold skipComment
    refine Ensures.look peek_apply fun e ↦ ?_
    split
    · exact ensures_failAt _ _
    refine careful_next.bind fun _ ↦ ?_
    split
    · exact careful_pure _
    · exact ih

theorem careful_skipLine (fuel : Nat) : Careful source front (skipLine fuel) := by
  induction fuel generalizing front with
  | zero => exact careful_pure _
  | succ fuel ih =>
    unfold skipLine
    refine careful_next.bind fun e ↦ ?_
    split
    · exact careful_pure _
    split
    · exact careful_pure _
    · exact ih

theorem careful_readCondition : Careful source front readCondition := by
  unfold readCondition
  refine (careful_takeGroupName _).bind fun name ↦ ?_
  extract_lets check number
  have hcheck : ∀ index, Careful source [] (check index) := fun index ↦
    (careful_checkBehind index).bind fun _ ↦ careful_pure _
  split
  · exact (careful_groupNamed _).bind hcheck
  have hnumber : ∀ index, Careful source [] (number index) := by
    intro index
    refine Ensures.guard (Ensures.guard (Ensures.look (fun _ ↦ rfl) fun position ↦ ?_))
    refine (careful_modify ?_ ?_).bind fun _ ↦ (careful_pure _).bind hcheck
    · intro s hs
      split <;> exact hs
    · intro s
      split <;> rfl
  split
  · exact (careful_pure _).bind hnumber
  · exact Careful.bind (ensures_failBack _ _) hnumber

theorem careful_readOpening (start : Nat) : Careful source ['('] (readOpening start) := by
  unfold readOpening
  refine Ensures.accept ?_ (careful_pure _)
  refine Ensures.next (ensures_failBack _ _) fun e ↦ ?_
  split
  · exact ensures_failBack _ _
  · refine (careful_accept _).bind fun named ↦ ?_
    split
    · exact (careful_readGroupName _).bind fun _ ↦ careful_pure _
    refine (careful_accept _).bind fun reference ↦ ?_
    split
    · refine (careful_readGroupName _).bind fun name ↦ (careful_groupNamed _).bind fun index ↦ ?_
      refine Ensures.look (fun _ ↦ rfl) fun s ↦ Ensures.guard ?_
      exact (careful_checkBehind _).bind fun _ ↦ careful_pure _
    refine careful_next.bind fun e ↦ ?_
    split
    · exact ensures_failBack _ _
    · exact ensures_failBack _ _
  · exact careful_pure _
  · exact Ensures.look (fun _ ↦ rfl) fun s ↦
      (careful_skipComment _ _).bind fun _ ↦ careful_pure _
  · exact careful_pure _
  · exact careful_pure _
  · refine careful_next.bind fun e ↦ ?_
    split
    · exact ensures_failBack _ _
    · exact careful_pure _
    · exact careful_pure _
    · exact ensures_failBack _ _
  · exact careful_readCondition.bind fun _ ↦ careful_pure _
  · exact careful_pure _
  · rename_i e' _ _ _ _ _ _ _ he
    cases he
    split
    · rename_i c _ _ _ _ _ _ _
      split
      · refine Ensures.bind (ensures_readFlags c) fun group hgroup ↦ ?_
        split
        · refine Careful.bind ?_ fun _ ↦ careful_pure _
          intro s hs
          refine ⟨⟨hs, fun h ↦ ?_, fun h ↦ ?_⟩, trivial⟩
          · exact (Bool.or_eq_true_iff.1 h).imp_right hgroup.1
          · exact (Bool.or_eq_true_iff.1 h).imp_right hgroup.2
        · exact careful_pure _
      · exact ensures_failBack _ _
    · exact ensures_failBack _ _

theorem careful_closeGroup (start : Nat) : Careful source front (closeGroup start) := by
  unfold closeGroup
  refine (careful_accept _).bind fun closed ↦ ?_
  split
  · exact ensures_failAt _ _
  · exact careful_pure _

/-- The flags that were in force come back. -/
theorem careful_withFlags {α : Type} {m : Read α} (flags : Flags) (hm : Careful source [] m) :
    Careful source [] (withFlags flags m) := by
  intro s hs
  have hrun : withFlags flags m s = (do
      let a ← m
      modify fun s' : Scan ↦ { s' with flags := s.flags }
      return a : Read α) { s with flags } := rfl
  rw [hrun]
  have hinner := hm { s with flags } hs
  cases hread : m { s with flags } with
  | error e =>
    rw [bind_of_failure hread]
    rwa [hread] at hinner
  | ok p =>
    rw [hread] at hinner
    rw [bind_of_read hread]
    exact ⟨follows_of_flags hinner.1.rest rfl, trivial⟩

end Groups

/-! ## Expressions -/

section Expressions

variable {source front : List Char}

mutual

theorem careful_readItems (fuel : Nat) (first : Bool) (read : List Regex) :
    Careful source [] (readItems fuel first read) := by
  cases fuel with
  | zero => exact careful_pure read
  | succ fuel =>
    unfold readItems
    have hnext := fun read ↦ careful_readItems fuel first read
    intro s hs
    rw [bind_of_read (peek_apply s)]
    cases hfirst : firstElement? s.rest with
    | none => exact careful_pure read s hs
    | some this =>
      dsimp only
      split
      · exact careful_pure read s hs
      -- The element stays in front: groups and braces are judged together with what opens them.
      refine sound_next hs hfirst ?_
      split
      · exact (careful_readEscape _).bind fun _ ↦ hnext _
      · refine Ensures.look (fun _ ↦ rfl) fun position ↦ (careful_accept _).bind fun negated ↦ ?_
        refine Ensures.look (fun _ ↦ rfl) fun s ↦ ?_
        exact (careful_readSet _ _ _).bind fun _ ↦ hnext _
      · refine Ensures.look (fun _ ↦ rfl) fun position ↦ ?_
        refine (careful_readGroup fuel first _ _).bind fun group ↦ ?_
        split
        · exact hnext _
        · exact hnext _
      · refine Ensures.look (fun _ ↦ rfl) fun position ↦ ?_
        exact (careful_repeatLast _ _ _ _).bind fun _ ↦ hnext _
      · refine Ensures.look (fun _ ↦ rfl) fun position ↦ ?_
        exact (careful_repeatLast _ _ _ _).bind fun _ ↦ hnext _
      · refine Ensures.look (fun _ ↦ rfl) fun position ↦ ?_
        exact (careful_repeatLast _ _ _ _).bind fun _ ↦ hnext _
      · refine Ensures.look (fun _ ↦ rfl) fun position ↦ careful_readBraces.bind fun bounds ↦ ?_
        split
        · exact (careful_repeatLast _ _ _ _).bind fun _ ↦ hnext _
        · exact hnext _
      · refine Ensures.look (fun _ ↦ rfl) fun s ↦ ?_
        split
        · exact (hnext _).anywhere
        split
        · refine Ensures.look (fun _ ↦ rfl) fun s ↦ ?_
          exact (careful_skipLine _).bind fun _ ↦ hnext _
        · exact (hnext _).anywhere
      · exact (hnext _).anywhere

theorem careful_readGroup (fuel : Nat) (first atStart : Bool) (start : Nat) :
    Careful source ['('] (readGroup fuel first atStart start) := by
  cases fuel with
  | zero => exact ensures_failAt _ _
  | succ fuel =>
    have hbody := careful_readAlternatives fuel false
    unfold readGroup
    refine (careful_readOpening start).bind fun opening ↦ ?_
    split
    · exact careful_pure _
    · split
      · exact Careful.bind (ensures_failAt _ _) fun _ ↦ careful_pure _
      · exact careful_pure _
    · exact careful_pure _
    · refine (careful_openGroup _).bind fun index ↦ hbody.bind fun body ↦
        (careful_closeGroup _).bind fun _ ↦ ?_
      exact Careful.bind (careful_modify (fun _ h ↦ h) fun _ ↦ rfl) fun _ ↦ careful_pure _
    · exact hbody.bind fun body ↦ (careful_closeGroup _).bind fun _ ↦ careful_pure _
    · exact hbody.bind fun body ↦ (careful_closeGroup _).bind fun _ ↦ careful_pure _
    · refine Ensures.look (fun _ ↦ rfl) fun s ↦ ?_
      exact (careful_withFlags _ hbody).bind fun body ↦
        (careful_closeGroup _).bind fun _ ↦ careful_pure _
    · refine Ensures.look (fun _ ↦ rfl) fun s ↦ ?_
      extract_lets outer body
      have hbody : ∀ u, Careful source [] (body u) := by
        intro u
        refine (careful_readAlternatives fuel false).bind fun r ↦ ?_
        extract_lets close
        have hclose : ∀ u, Careful source [] (close u) := fun u ↦
          (careful_closeGroup _).bind fun _ ↦ Ensures.look (fun _ ↦ rfl) fun s ↦ careful_pure _
        split
        · exact Careful.bind (careful_modify (fun _ h ↦ h) fun _ ↦ rfl) hclose
        · exact hclose ()
      split
      · exact Careful.bind (careful_modify (fun _ h ↦ h) fun _ ↦ rfl) hbody
      · exact hbody ()
    · refine (careful_readItems fuel false []).bind fun yes ↦ ?_
      extract_lets close
      have hclose : ∀ no, Careful source [] (close no) := fun no ↦
        (careful_closeGroup _).bind fun _ ↦ careful_pure _
      refine (careful_accept _).bind fun more ↦ ?_
      split
      · refine (careful_readItems fuel false []).bind fun no ↦ ?_
        refine Ensures.look peek_apply fun e ↦ Ensures.guard ?_
        exact (careful_pure _).bind hclose
      · exact (careful_pure _).bind hclose

theorem careful_readAlternatives (fuel : Nat) (first : Bool) :
    Careful source [] (readAlternatives fuel first) := by
  cases fuel with
  | zero => exact careful_pure _
  | succ fuel =>
    unfold readAlternatives
    refine (careful_readItems fuel first []).bind fun items ↦ ?_
    refine (careful_accept _).bind fun more ↦ ?_
    split
    · exact (careful_readAlternatives fuel false).bind fun _ ↦ careful_pure _
    · exact careful_pure _

end

/-- The pattern starts without flags, so those that clash are written in it. -/
theorem sound_readPattern (source : List Char) (fuel size : Nat) :
    Sound source (fun _ ↦ True) { size, rest := source }
      (readPattern fuel { size, rest := source }) := by
  unfold readPattern
  rw [bind_of_read (get_apply _)]
  by_cases hdangling : source = ['\\']
  · subst hdangling
    rw [bind_of_failure (moveTo_of_dangling _)]
    exact .inl ⟨_, _, rfl⟩
  rw [bind_of_read (moveTo_apply hdangling _)]
  have hread := careful_readAlternatives fuel true { size, rest := source } List.suffix_rfl
  cases hrun : readAlternatives fuel true { size, rest := source } with
  | error e =>
    rw [bind_of_failure hrun]
    rwa [hrun] at hread
  | ok p =>
    obtain ⟨r, s⟩ := p
    rw [hrun] at hread
    obtain ⟨hfollows, -⟩ := hread
    rw [bind_of_read hrun, bind_of_read (get_apply s)]
    refine Sound.from hfollows ?_
    by_cases hclash : (s.flags.ascii && s.flags.unicode) = true
    · obtain ⟨hascii, hunicode⟩ := Bool.and_eq_true_iff.1 hclash
      rw [if_pos hclash]
      have hascii := (hfollows.ascii hascii).resolve_left Bool.false_ne_true
      have hunicode := (hfollows.unicode hunicode).resolve_left Bool.false_ne_true
      exact .inr (.flagClash hascii hunicode)
    rw [if_neg hclash]
    refine (show Careful source [] _ from ?_) s hfollows.rest
    refine Ensures.look peek_apply fun e ↦ Ensures.guard ?_
    extract_lets last
    have hlast : ∀ u, Careful source [] (last u) := by
      intro u
      dsimp only [last]
      split
      · exact fun _ _ ↦ .inl ⟨_, _, rfl⟩
      · exact careful_pure _
    split
    · exact Careful.bind (ensures_failAt _ _) hlast
    · exact Careful.bind (careful_pure ()) hlast

end Expressions

end TagTree.Pattern

namespace TagTree

open Pattern

theorem Pattern.compile_of_read {source : String} {r : Regex} {s : Scan}
    (h : readPattern (3 * source.toList.length + 4)
      { size := source.toList.length, rest := source.toList } = .ok (r, s)) :
    Pattern.compile source = .ok { source, regex := r, options := s.flags.names } := by
  change Except.bind (Except.bind (readPattern _ _) _) _ = _
  rw [h]
  rfl

theorem Pattern.compile_of_failure {source : String} {e : Failure}
    (h : readPattern (3 * source.toList.length + 4)
      { size := source.toList.length, rest := source.toList } = .error e) :
    Pattern.compile source = .error e := by
  change Except.bind (Except.bind (readPattern _ _) _) _ = _
  rw [h]
  rfl

/-- A text that is no pattern has a flaw in its notation, or asks for too much. -/
theorem Pattern.excessive_of_compile {source : String} {e : Failure}
    (h : Pattern.compile source = .error e) :
    (∃ flaw position, e = .malformed flaw position) ∨ Excessive source.toList e := by
  have hread := sound_readPattern source.toList (3 * source.toList.length + 4)
    source.toList.length
  cases hrun : readPattern (3 * source.toList.length + 4)
      { size := source.toList.length, rest := source.toList } with
  | error e' =>
    rw [hrun] at hread
    cases (Pattern.compile_of_failure hrun).symm.trans h
    exact hread
  | ok p => cases (Pattern.compile_of_read hrun).symm.trans h

end TagTree
