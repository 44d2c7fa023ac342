import TagTree.Proofs.PatternRefusals
import TagTree.Proofs.Globs

/-!
# Sets in globs

The text between the brackets of a glob is cut into chunks at the hyphens that make ranges, and
chunks are joined again around ranges that are empty. However that goes, a hyphen that is left
stands between two characters in order, which are the ends of no other range (`Linked.ranged`), and
a closing bracket can only be the first element (`bracket_notMem_classTokens`). So a set can be read
again from its written form (`Piece.Legible`).
-/

namespace TagTree.Glob

/-! ## Tokens between brackets -/

/-- Tokens that are read as they are meant: a hyphen stands between two characters that are in
order. -/
inductive Ranged : List ClassToken → Prop
  | nil : Ranged []
  | char (c : Char) {tokens : List ClassToken} (h : Ranged tokens) : Ranged (.char c :: tokens)
  | range {a b : Char} {tokens : List ClassToken} (hab : a ≤ b) (h : Ranged tokens) :
      Ranged (.char a :: .hyphen :: .char b :: tokens)

/-- The tokens of chunks, with hyphens between them. -/
def joined (chunks : List (List Char)) : List ClassToken :=
  ((chunks.map fun chunk ↦ chunk.map ClassToken.char).intersperse [.hyphen]).flatten

theorem joined_singleton (chunk : List Char) : joined [chunk] = chunk.map .char := by
  simp [joined]

theorem joined_cons (chunk next : List Char) (rest : List (List Char)) :
    joined (chunk :: next :: rest) = chunk.map .char ++ .hyphen :: joined (next :: rest) := by
  simp [joined]

theorem joined_push (c : Char) (chunk : List Char) (rest : List (List Char)) :
    joined ((c :: chunk) :: rest) = .char c :: joined (chunk :: rest) := by
  cases rest with
  | nil => simp [joined_singleton]
  | cons next rest => simp [joined_cons]

theorem char_mem_joined {c : Char} {chunks : List (List Char)} :
    .char c ∈ joined chunks ↔ c ∈ chunks.flatten := by
  induction chunks with
  | nil => simp [joined]
  | cons chunk rest ih =>
    cases rest with
    | nil => simp [joined_singleton]
    | cons next rest =>
      rw [joined_cons, List.flatten_cons, List.mem_append, List.mem_append, ← ih]
      simp

theorem Ranged.append_chars {tokens : List ClassToken} (h : Ranged tokens) (cs : List Char) :
    Ranged (cs.map .char ++ tokens) := by
  induction cs with
  | nil => exact h
  | cons c cs ih => exact .char c ih

/-- Chunks such that all ranges between them are in order; a chunk between two others has room for
the ends of two ranges. -/
inductive Linked : List (List Char) → Prop
  | single (chunk : List Char) : Linked [chunk]
  | cons {chunk next : List Char} {rest : List (List Char)} (hchunk : chunk ≠ [])
      (hnext : next ≠ []) (hrange : emptyRange chunk next = false)
      (hroom : rest ≠ [] → 2 ≤ next.length) (h : Linked (next :: rest)) :
      Linked (chunk :: next :: rest)

theorem ranged_chars (cs : List Char) : Ranged (cs.map .char) := by
  simpa using Ranged.nil.append_chars cs

theorem Linked.ranged {chunks : List (List Char)} (h : Linked chunks) : Ranged (joined chunks) := by
  induction h with
  | single chunk =>
    rw [joined_singleton]
    exact ranged_chars chunk
  | @cons chunk next rest hchunk hnext hrange hroom _ ih =>
    obtain ⟨b, behind, rfl⟩ := List.exists_cons_of_ne_nil hnext
    -- The second chunk goes on with a character, so its first one ends only this range.
    have hbehind : Ranged (joined (behind :: rest)) := by
      cases rest with
      | nil =>
        rw [joined_singleton]
        exact ranged_chars behind
      | cons second rest =>
        obtain ⟨c, behind, rfl⟩ : ∃ c cs, behind = c :: cs := by
          apply List.exists_cons_of_ne_nil
          rintro rfl
          simp at hroom
        rw [joined_push, joined_push] at ih
        rw [joined_push]
        cases ih with
        | char _ h => exact h
    have hab : chunk.getLast hchunk ≤ b := by
      simpa [emptyRange, List.getLast?_eq_some_getLast hchunk] using hrange
    have hlast : Ranged (.char (chunk.getLast hchunk) :: .hyphen :: .char b ::
        joined (behind :: rest)) := .range hab hbehind
    rw [joined_cons, joined_push, ← List.dropLast_append_getLast hchunk]
    simpa using hlast.append_chars chunk.dropLast

/-- Chunks as they are cut: those before the last have at least `n` characters in front and two
behind, and the last one may lack one of them. -/
def Closed : Nat → List (List Char) → Prop
  | _, [] => False
  | n, [last] => n ≤ last.length + 1
  | n, chunk :: rest => n ≤ chunk.length ∧ Closed 2 rest

theorem closed_cons {n : Nat} {chunk : List Char} {rest : List (List Char)} (hrest : rest ≠ []) :
    Closed n (chunk :: rest) ↔ n ≤ chunk.length ∧ Closed 2 rest := by
  cases rest with
  | nil => exact absurd rfl hrest
  | cons next more => rfl

theorem dropEmptyRanges_cons {chunk next : List Char} {rest more : List (List Char)}
    (h : dropEmptyRanges rest = next :: more) :
    dropEmptyRanges (chunk :: rest) =
      if emptyRange chunk next then (chunk.dropLast ++ next.tail) :: more
      else chunk :: next :: more := by
  unfold dropEmptyRanges at h ⊢
  rw [List.foldr_cons, h]

theorem Closed.ne_nil {next : List Char} {more : List (List Char)}
    (h : Closed 2 (next :: more)) : next ≠ [] := by
  rintro rfl
  cases more <;> simp [Closed] at h

/-- One step of joining: the chunk in front of linked ones. -/
theorem linked_step {n : Nat} {chunk next : List Char} {more : List (List Char)} (hn : 1 ≤ n)
    (hchunk : n ≤ chunk.length) (hlinked : Linked (next :: more))
    (hclosed : Closed 2 (next :: more)) :
    let joint := if emptyRange chunk next then (chunk.dropLast ++ next.tail) :: more
      else chunk :: next :: more
    Linked joint ∧ Closed n joint := by
  have hne : chunk ≠ [] := List.ne_nil_of_length_pos (by omega)
  cases hrange : emptyRange chunk next with
  | false =>
    refine ⟨.cons hne hclosed.ne_nil hrange (fun hmore ↦ ?_) hlinked, hchunk, hclosed⟩
    cases more with
    | nil => exact absurd rfl hmore
    | cons second more => exact hclosed.1
  | true =>
    have hnext := List.length_pos_of_ne_nil hclosed.ne_nil
    have hlength : (chunk.dropLast ++ next.tail).length = chunk.length - 1 + (next.length - 1) := by
      simp
    cases more with
    | nil =>
      refine ⟨.single _, ?_⟩
      have hlast : n ≤ (chunk.dropLast ++ next.tail).length + 1 := by omega
      exact hlast
    | cons second more =>
      obtain ⟨hroom, hsecond⟩ := hclosed
      cases hlinked with
      | cons _ hne' hrange' hroom' h =>
        have htail : next.tail ≠ [] := List.ne_nil_of_length_pos (by simp; omega)
        have hlast : (chunk.dropLast ++ next.tail).getLast? = next.getLast? := by
          have hone : next.length ≠ 1 := by omega
          rw [List.getLast?_append_of_ne_nil _ htail, List.getLast?_tail, if_neg hone]
        refine ⟨.cons ?_ hne' ?_ hroom' h, ?_, hsecond⟩
        · simp [htail]
        · rwa [emptyRange, hlast]
        · rw [hlength]
          omega

theorem linked_dropEmptyRanges {n : Nat} {chunks : List (List Char)} (hn : 1 ≤ n)
    (h : Closed n chunks) :
    Linked (dropEmptyRanges chunks) ∧ Closed n (dropEmptyRanges chunks) := by
  induction chunks generalizing n with
  | nil => exact h.elim
  | cons chunk rest ih =>
    cases rest with
    | nil => exact ⟨.single chunk, h⟩
    | cons second rest =>
      obtain ⟨hchunk, hrest⟩ : n ≤ chunk.length ∧ Closed 2 (second :: rest) := h
      obtain ⟨hlinked, hclosed⟩ := ih (by decide) hrest
      cases hlater : dropEmptyRanges (second :: rest) with
      | nil => simp [hlater, Closed] at hclosed
      | cons next more =>
        rw [hlater] at hlinked hclosed
        rw [dropEmptyRanges_cons hlater]
        exact linked_step hn hchunk hlinked hclosed

theorem sublist_dropEmptyRanges (chunks : List (List Char)) :
    (dropEmptyRanges chunks).flatten.Sublist chunks.flatten := by
  induction chunks with
  | nil => exact List.Sublist.refl _
  | cons chunk rest ih =>
    cases hlater : dropEmptyRanges rest with
    | nil =>
      have hdrop : dropEmptyRanges (chunk :: rest) = [chunk] := by
        unfold dropEmptyRanges at hlater ⊢
        rw [List.foldr_cons, hlater]
      rw [hdrop]
      simp
    | cons next more =>
      rw [hlater] at ih
      rw [dropEmptyRanges_cons hlater]
      split
      · have hjoint : (chunk.dropLast ++ next.tail).Sublist (chunk ++ next) :=
          (List.dropLast_sublist chunk).append (List.tail_sublist next)
        simpa using (hjoint.append_right more.flatten).trans (by simpa using ih)
      · simpa using ih

/-! ## Cutting -/

/-- All chunks but the last have at least `n` characters in front and two behind. -/
def Cut : Nat → List (List Char) → Prop
  | _, [] => False
  | _, [_] => True
  | n, chunk :: rest => n ≤ chunk.length ∧ Cut 2 rest

theorem cut_cons {n : Nat} {chunk : List Char} {rest : List (List Char)} (hrest : rest ≠ []) :
    Cut n (chunk :: rest) ↔ n ≤ chunk.length ∧ Cut 2 rest := by
  cases rest with
  | nil => exact absurd rfl hrest
  | cons next more => rfl

theorem cut_chunksFrom (fuel skip : Nat) (cs : List Char) :
    Cut skip (chunksFrom fuel skip cs) ∧ (chunksFrom fuel skip cs).flatten.Sublist cs := by
  induction fuel generalizing skip cs with
  | zero => exact ⟨trivial, by simp [chunksFrom]⟩
  | succ fuel ih =>
    unfold chunksFrom
    split
    · exact ⟨trivial, by simp⟩
    · rename_i hyphen rest hcut
      obtain ⟨hrest, hsub⟩ := ih 2 rest
      have hsuffix : hyphen :: rest <:+ cs.drop skip := hcut ▸ List.dropWhile_suffix _
      have hlength := hsuffix.length_le
      rw [List.length_cons, List.length_drop] at hlength
      constructor
      · have hlater : chunksFrom fuel 2 rest ≠ [] := by
          intro hnil
          simp [hnil, Cut] at hrest
        refine (cut_cons hlater).2 ⟨?_, hrest⟩
        rw [List.length_take]
        omega
      · obtain ⟨front, hfront⟩ := hsuffix.trans (List.drop_suffix skip cs)
        have hplace : cs.length - rest.length - 1 = front.length := by
          rw [← hfront, List.length_append, List.length_cons]
          omega
        rw [List.flatten_cons, hplace, ← hfront, List.take_left]
        exact (List.Sublist.refl front).append (hsub.trans (List.sublist_cons_self _ _))

/-- A chunk without characters at the end gives its hyphen to the chunk before it. -/
theorem closeChunks_cases (chunks : List (List Char)) :
    (∃ front chunk, chunks = front ++ [chunk, []] ∧
        closeChunks chunks = front ++ [chunk ++ ['-']]) ∨
      closeChunks chunks = chunks ∧ ∀ front chunk, chunks ≠ front ++ [chunk, []] := by
  unfold closeChunks
  split
  · rename_i chunk earlier hreverse
    left
    have hchunks : chunks = ([] :: chunk :: earlier).reverse := by
      rw [← hreverse, List.reverse_reverse]
    exact ⟨earlier.reverse, chunk, by simpa using hchunks, by simp⟩
  · rename_i hother
    refine .inr ⟨rfl, ?_⟩
    rintro front chunk rfl
    exact hother chunk front.reverse (by simp)

theorem sublist_closeChunks (chunks : List (List Char)) :
    (closeChunks chunks).flatten.Sublist (chunks.flatten ++ ['-']) := by
  obtain ⟨front, chunk, rfl, hclose⟩ | ⟨hclose, -⟩ := closeChunks_cases chunks
  · rw [hclose]
    simp
  · rw [hclose]
    exact List.sublist_append_left _ _

theorem closed_closeChunks {n : Nat} {chunks : List (List Char)} (h : Cut n chunks)
    (hsingle : ∀ chunk, chunks = [chunk] → n ≤ chunk.length + 1) :
    Closed n (closeChunks chunks) := by
  obtain ⟨front, chunk, rfl, hclose⟩ | ⟨hclose, hother⟩ := closeChunks_cases chunks
  · rw [hclose]
    clear hsingle hclose
    induction front generalizing n with
    | nil =>
      have hchunk : n ≤ chunk.length := h.1
      have hlast : n ≤ (chunk ++ ['-']).length + 1 := by simp; omega
      exact hlast
    | cons first front ih =>
      obtain ⟨hfirst, hrest⟩ := (cut_cons (by simp)).1 h
      exact (closed_cons (by simp)).2 ⟨hfirst, ih hrest⟩
  · rw [hclose]
    clear hclose
    induction chunks generalizing n with
    | nil => exact h
    | cons chunk rest ih =>
      cases rest with
      | nil => exact hsingle chunk rfl
      | cons next more =>
        refine ⟨h.1, ih h.2 ?_ ?_⟩
        · rintro last hlast
          obtain ⟨rfl, rfl⟩ : next = last ∧ more = [] := by simpa using hlast
          have hne : next ≠ [] := by
            rintro rfl
            exact hother [] chunk rfl
          have := List.length_pos_of_ne_nil hne
          omega
        · intro front last hlast
          exact hother (chunk :: front) last (by rw [hlast]; rfl)

/-- A character that every range leaves alone stays in front. -/
theorem head_dropEmptyRanges {c : Char} {cs : List Char} {rest : List (List Char)}
    (h : Closed 2 ((c :: cs) :: rest)) :
    ∃ cs' rest', dropEmptyRanges ((c :: cs) :: rest) = (c :: cs') :: rest' := by
  cases hlater : dropEmptyRanges rest with
  | nil =>
    refine ⟨cs, [], ?_⟩
    unfold dropEmptyRanges at hlater ⊢
    rw [List.foldr_cons, hlater]
  | cons next more =>
    obtain ⟨d, cs, rfl⟩ : ∃ d cs', cs = d :: cs' := by
      apply List.exists_cons_of_ne_nil
      rintro rfl
      cases rest with
      | nil => cases hlater
      | cons next more => simp [Closed] at h
    rw [dropEmptyRanges_cons hlater]
    split
    · exact ⟨_, _, rfl⟩
    · exact ⟨_, _, rfl⟩

theorem head_closeChunks (c : Char) (cs : List Char) (rest : List (List Char)) :
    ∃ cs' rest', closeChunks ((c :: cs) :: rest) = (c :: cs') :: rest' := by
  obtain ⟨front, chunk, hchunks, hclose⟩ | ⟨hclose, -⟩ := closeChunks_cases ((c :: cs) :: rest)
  · rw [hclose]
    cases front with
    | nil =>
      obtain ⟨rfl, -⟩ : c :: cs = chunk ∧ rest = [[]] := by simpa using hchunks
      exact ⟨_, _, rfl⟩
    | cons first front =>
      obtain ⟨rfl, -⟩ := List.cons.inj hchunks
      exact ⟨_, _, rfl⟩
  · exact ⟨cs, rest, hclose⟩

theorem head_chunksFrom (fuel : Nat) (c : Char) (cs : List Char) :
    ∃ cs' rest, chunksFrom fuel 2 (c :: cs) = (c :: cs') :: rest := by
  cases fuel with
  | zero => exact ⟨cs, [], rfl⟩
  | succ fuel =>
    unfold chunksFrom
    split
    · exact ⟨cs, [], rfl⟩
    · rename_i hyphen rest hcut
      have hsuffix : hyphen :: rest <:+ (c :: cs).drop 2 := hcut ▸ List.dropWhile_suffix _
      have hlength := hsuffix.length_le
      rw [List.length_drop, List.length_cons, List.length_cons] at hlength
      obtain ⟨k, hk⟩ : ∃ k, (c :: cs).length - rest.length - 1 = k + 1 :=
        Nat.exists_eq_succ_of_ne_zero (by rw [List.length_cons]; omega)
      rw [hk]
      exact ⟨_, _, rfl⟩

/-- The chunks of the text between brackets. -/
def chunksOf (inner : List Char) : List (List Char) :=
  dropEmptyRanges (closeChunks (chunksFrom inner.length
    (if inner.head? = some '!' then 2 else 1) inner))

theorem classTokens_eq (inner : List Char) : classTokens inner = joined (chunksOf inner) :=
  rfl

theorem sublist_chunksOf (inner : List Char) :
    (chunksOf inner).flatten.Sublist (inner ++ ['-']) := by
  have hcut := (cut_chunksFrom inner.length (if inner.head? = some '!' then 2 else 1) inner).2
  refine (sublist_dropEmptyRanges _).trans ((sublist_closeChunks _).trans ?_)
  exact hcut.append_right _

/-- An exclamation mark in front is the end of no range. -/
theorem chunksOf_bang (cs : List Char) :
    ∃ chunk rest, chunksOf ('!' :: cs) = ('!' :: chunk) :: rest ∧
      Linked (('!' :: chunk) :: rest) ∧ Closed 2 (('!' :: chunk) :: rest) := by
  obtain ⟨chunk, rest, hchunks⟩ := head_chunksFrom ('!' :: cs).length '!' cs
  have hcut := (cut_chunksFrom ('!' :: cs).length 2 ('!' :: cs)).1
  rw [hchunks] at hcut
  have hclosed : Closed 2 (closeChunks (('!' :: chunk) :: rest)) := by
    refine closed_closeChunks hcut fun single hsingle ↦ ?_
    obtain ⟨rfl, -⟩ := List.cons.inj hsingle
    simp
  obtain ⟨chunk', rest', hclose⟩ := head_closeChunks '!' chunk rest
  rw [hclose] at hclosed
  obtain ⟨chunk'', rest'', hdrop⟩ := head_dropEmptyRanges hclosed
  have hlinked := linked_dropEmptyRanges (by decide) hclosed
  have hall : chunksOf ('!' :: cs) = ('!' :: chunk'') :: rest'' := by
    change dropEmptyRanges (closeChunks (chunksFrom ('!' :: cs).length 2 ('!' :: cs))) = _
    rw [hchunks, hclose, hdrop]
  rw [hdrop] at hlinked
  exact ⟨chunk'', rest'', hall, hlinked⟩

theorem Closed.mono {m n : Nat} {chunks : List (List Char)} (hmn : m ≤ n) (h : Closed n chunks) :
    Closed m chunks := by
  cases chunks with
  | nil => exact h
  | cons chunk rest =>
    cases rest with
    | nil => exact Nat.le_trans hmn h
    | cons next rest => exact ⟨Nat.le_trans hmn h.1, h.2⟩

theorem linked_chunksOf (inner : List Char) :
    Linked (chunksOf inner) ∧ Closed 1 (chunksOf inner) := by
  by_cases hbang : inner.head? = some '!'
  · obtain ⟨cs, rfl⟩ := List.head?_eq_some_iff.1 hbang
    obtain ⟨chunk, rest, hchunks, hlinked, hclosed⟩ := chunksOf_bang cs
    rw [hchunks]
    exact ⟨hlinked, hclosed.mono (by decide)⟩
  · unfold chunksOf
    rw [if_neg hbang]
    have hcut := (cut_chunksFrom inner.length 1 inner).1
    have hclosed := closed_closeChunks hcut fun chunk _ ↦ Nat.le_add_left 1 chunk.length
    exact linked_dropEmptyRanges (Nat.le_refl 1) hclosed

/-! ## Sets -/

/-- A closing bracket stands only in front of tokens whose characters have one only in front. -/
theorem bracket_notMem_tail {chunk : List Char} {rest : List (List Char)}
    (hchunk : rest ≠ [] → chunk ≠ []) (h : ']' ∉ (chunk :: rest).flatten.tail) :
    .char ']' ∉ (joined (chunk :: rest)).tail := by
  cases chunk with
  | nil =>
    cases rest with
    | nil => simp [joined]
    | cons next rest => exact absurd rfl (hchunk (by simp))
  | cons c chunk =>
    rw [joined_push, List.tail_cons, char_mem_joined]
    simpa using h

theorem notMem_tail_of_sublist {l : List Char} {cs : List Char} (hsub : l.Sublist (cs ++ ['-']))
    (hcs : ']' ∉ cs.tail) : ']' ∉ l.tail := by
  intro hmem
  have htail := hsub.tail.subset hmem
  cases cs with
  | nil => simp at htail
  | cons c cs =>
    simp at hcs
    simp [hcs] at htail

theorem bracket_notMem_classTokens {inner : List Char} (h : ']' ∉ inner.tail) :
    .char ']' ∉ (classTokens inner).tail := by
  rw [classTokens_eq]
  have hflat := notMem_tail_of_sublist (sublist_chunksOf inner) h
  have hclosed := (linked_chunksOf inner).2
  cases hchunks : chunksOf inner with
  | nil => simp [joined]
  | cons chunk rest =>
    rw [hchunks] at hflat hclosed
    refine bracket_notMem_tail (fun hrest ↦ ?_) hflat
    exact List.ne_nil_of_length_pos ((closed_cons hrest).1 hclosed).1

theorem classTokens_bang {cs : List Char} (h : ']' ∉ cs.tail) :
    ∃ tokens, classTokens ('!' :: cs) = .char '!' :: tokens ∧ .char ']' ∉ tokens.tail := by
  obtain ⟨chunk, rest, hchunks, hlinked, hclosed⟩ := chunksOf_bang cs
  have hsub : (chunk :: rest).flatten.Sublist (cs ++ ['-']) := by
    have hall := sublist_chunksOf ('!' :: cs)
    rw [hchunks] at hall
    simpa using hall
  refine ⟨joined (chunk :: rest), ?_, ?_⟩
  · rw [classTokens_eq, hchunks, joined_push]
  · refine bracket_notMem_tail (fun hrest ↦ ?_) (notMem_tail_of_sublist hsub h)
    rintro rfl
    have hlength := ((closed_cons hrest).1 hclosed).1
    simp at hlength

/-- What the reader of patterns needs to know of a piece. -/
def Piece.Legible : Piece → Prop
  | .set _ tokens => tokens ≠ [] ∧ .char ']' ∉ tokens.tail ∧
      (Ranged tokens ∨ ∃ behind, tokens = .hyphen :: behind ∧ Ranged behind)
  | _ => True

theorem legible_setPiece {inner : List Char}
    (h : ']' ∉ inner.tail ∨ ∃ cs, inner = '!' :: cs ∧ ']' ∉ cs.tail) :
    (setPiece inner).Legible := by
  have hranged : Ranged (classTokens inner) := (linked_chunksOf inner).1.ranged
  unfold setPiece
  split
  · trivial
  · trivial
  · rename_i tokens hone htokens
    rw [htokens] at hranged
    refine ⟨?_, ?_, ?_⟩
    · rintro rfl
      exact hone rfl
    · obtain h | ⟨cs, rfl, h⟩ := h
      · have hnone := bracket_notMem_classTokens h
        rw [htokens] at hnone
        exact fun hmem ↦ hnone (List.mem_of_mem_tail hmem)
      · obtain ⟨tokens', htokens', hnone⟩ := classTokens_bang h
        obtain ⟨-, rfl⟩ := List.cons.inj (htokens.symm.trans htokens')
        exact hnone
    · cases hranged with
      | char _ h => exact .inl h
      | range _ h => exact .inr ⟨_, rfl, .char _ h⟩
  · rename_i hempty hone hbang
    refine ⟨hempty, ?_, .inl hranged⟩
    obtain h | ⟨cs, rfl, h⟩ := h
    · exact bracket_notMem_classTokens h
    · obtain ⟨tokens, htokens, -⟩ := classTokens_bang h
      exact absurd htokens (hbang tokens)

theorem bracket_of_bracketed? {cs inner rest : List Char} (h : bracketed? cs = some (inner, rest)) :
    ']' ∉ inner.tail ∨ ∃ cs, inner = '!' :: cs ∧ ']' ∉ cs.tail := by
  have htake : ∀ cs : List Char, ']' ∉ cs.takeWhile (· != ']') := by
    intro cs hmem
    simpa using List.mem_takeWhile_imp hmem
  unfold bracketed? at h
  extract_lets lead body at h
  split at h
  · obtain rfl : body = inner := (Prod.mk.inj (Option.some.inj h)).1
    dsimp only [body, lead]
    split
    · exact .inr ⟨_, rfl, htake _⟩
    · exact .inl (htake _)
    · exact .inl (htake _)
    · exact .inl fun hmem ↦ htake _ (List.mem_of_mem_tail hmem)
  · cases h

theorem legible_pieces (glob : List Char) : ∀ piece ∈ pieces glob, piece.Legible := by
  unfold pieces
  generalize glob.length = fuel
  fun_induction piecesFrom fuel glob with
  | case1 => simp
  | case2 => simp
  | case3 fuel rest more hmore ih =>
    rw [hmore] at ih
    exact ih
  | case4 fuel rest hmore ih => exact List.forall_mem_cons.2 ⟨trivial, ih⟩
  | case5 fuel rest _ ih => exact List.forall_mem_cons.2 ⟨trivial, ih⟩
  | case6 fuel cs inner rest hbracketed _ _ ih =>
    exact List.forall_mem_cons.2 ⟨legible_setPiece (bracket_of_bracketed? hbracketed), ih⟩
  | case7 fuel rest _ _ _ ih => exact List.forall_mem_cons.2 ⟨trivial, ih⟩
  | case8 fuel c rest _ _ _ ih => exact List.forall_mem_cons.2 ⟨trivial, ih⟩

end TagTree.Glob
