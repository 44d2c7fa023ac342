import TagTree.Proofs.MatcherGrammar
import TagTree.Proofs.Matching

/-!
# What globs match

A glob without brackets matches a text as a whole if its stars can be replaced by runs of characters
and its question marks by single characters to give the text. The search expression of a glob does
not try all these runs: every star but the last is matched without second thoughts, by as few
characters as possible. Nothing is lost by that. What is found behind a star at the first possible
place leaves the most room for the rest, and the last star can make up for any room that is left.

The ends of the expression are computed piece by piece: those of a star are all later places, in
order, and those of the pieces between two stars are at most one. Then the text is found if and only
if the pieces between the stars can be spread over it (`mem_ends_starRegex`), and that is the same
as matching the glob (`matches_drop_iff`).
-/

namespace TagTree

namespace Pattern

variable {text : List Char}

/-! ## Ends of simple expressions -/

theorem eraseDups_of_nodup {l : List Nat} (hl : l.Nodup) : l.eraseDups = l := by
  induction l with
  | nil => rfl
  | cons a rest ih =>
    obtain ⟨ha, hrest⟩ := List.nodup_cons.mp hl
    have hfilter : rest.filter (fun b ↦ !b == a) = rest := by
      apply List.filter_eq_self.mpr
      intro b hb
      have hne : b ≠ a := by
        rintro rfl
        exact ha hb
      simpa using hne
    rw [List.eraseDups_cons, hfilter, ih hrest]

theorem take_one_eraseDups (l : List Nat) : l.eraseDups.take 1 = l.take 1 := by
  cases l with
  | nil => rfl
  | cons a rest => simp [List.eraseDups_cons]

/-- Of the ends behind places that satisfy a condition, the first is that of the first place. -/
theorem take_one_flatMap (p : Nat → Bool) (f : Nat → Nat) (l : List Nat) :
    (l.flatMap fun j ↦ if p j then [f j] else []).take 1 = ((l.find? p).map f).toList := by
  induction l with
  | nil => rfl
  | cons j rest ih =>
    rw [List.flatMap_cons, List.find?_cons]
    cases p j with
    | true => rfl
    | false => exact ih

theorem search_eq_true_iff {r : Regex} :
    r.search text = true ↔ ∃ i j, i ≤ text.length ∧ j ∈ r.ends text i := by
  simp only [Regex.search, List.any_eq_true, List.mem_range, Nat.lt_succ_iff,
    Bool.not_eq_eq_eq_not, Bool.not_true, List.isEmpty_eq_false_iff_exists_mem, exists_and_left]

theorem mem_ends_seq {r s : Regex} {i j : Nat} :
    j ∈ (Regex.seq r s).ends text i ↔ ∃ k ∈ r.ends text i, j ∈ s.ends text k := by
  rw [Regex.ends, List.mem_eraseDups, List.mem_flatMap]

theorem mem_ends_anchor {a : Anchor} {i j : Nat} :
    j ∈ (Regex.anchor a).ends text i ↔ a.holds text i = true ∧ j = i := by
  rw [Regex.ends, List.mem_ite_nil_right, List.mem_singleton]

theorem ends_any (i : Nat) :
    (Regex.any true).ends text i = if i < text.length then [i + 1] else [] := by
  simp only [Regex.ends, stepIf]
  split
  · next c hc =>
    obtain ⟨hlt, -⟩ := List.getElem?_eq_some_iff.mp hc
    simp [hlt]
  · next hc => simp [List.getElem?_eq_none_iff.mp hc]

theorem atMost_any (greedy : Bool) (n i : Nat) :
    atMost ((Regex.any true).ends text) greedy n i =
      if greedy then (List.range' i (min n (text.length - i) + 1)).reverse
      else List.range' i (min n (text.length - i) + 1) := by
  induction n generalizing i with
  | zero => cases greedy <;> simp [atMost]
  | succ n ih =>
    rw [atMost, ends_any]
    by_cases hi : i < text.length
    · have hcount : min (n + 1) (text.length - i) = min n (text.length - (i + 1)) + 1 := by omega
      have hne : i + 1 ≠ i := by omega
      have hnodup : (List.range' i (min (n + 1) (text.length - i) + 1)).Nodup :=
        List.nodup_range'
      rw [hcount, List.range'_succ] at hnodup ⊢
      simp only [if_pos hi, List.flatMap_cons, List.flatMap_nil, List.append_nil, if_neg hne, ih]
      cases greedy with
      | true =>
        rw [List.reverse_cons]
        exact eraseDups_of_nodup (List.reverse_cons ▸ List.nodup_reverse.mpr hnodup)
      | false => exact eraseDups_of_nodup hnodup
    · have hcount : min (n + 1) (text.length - i) = 0 := by omega
      cases greedy <;> simp [hi, hcount, List.eraseDups_cons]

/-- Any run of characters: short runs are preferred by a lazy star, long ones by a greedy star. -/
theorem ends_star (greed : Greed) (hgreed : greed ≠ .possessive) (i : Nat) :
    (Regex.rep greed 0 none (.any true)).ends text i =
      if greed = .lazy then List.range' i (text.length - i + 1)
      else (List.range' i (text.length - i + 1)).reverse := by
  have hcount : min text.length (text.length - i) = text.length - i := by omega
  have hnodup : (List.range' i (text.length - i + 1)).Nodup := List.nodup_range'
  rw [Regex.ends, repeated]
  simp only [Nat.zero_min, exactly, List.flatMap_cons, List.flatMap_nil, List.append_nil,
    atMost_any, hcount, if_neg hgreed]
  cases greed with
  | lazy => exact eraseDups_of_nodup hnodup
  | greedy => exact eraseDups_of_nodup (List.nodup_reverse.mpr hnodup)
  | possessive => exact absurd rfl hgreed

end Pattern

namespace Glob

open Pattern

variable {text : List Char}

/-! ## Between the stars -/

/-- Whether a piece other than a star stands for a character. -/
def Piece.accepts : Piece → Char → Bool
  | .one, _ => true
  | .char c, d => d == c
  | .set negated tokens, d => (setItems tokens).any (·.contains d) != negated
  | _, _ => false

theorem stepIf_eq (p : Char → Bool) (i : Nat) :
    stepIf text p i = if text[i]?.any p then [i + 1] else [] := by
  unfold stepIf
  cases text[i]? <;> rfl

theorem stepIf_congr {p q : Char → Bool} (hpq : ∀ c, p c = q c) (i : Nat) :
    stepIf text p i = stepIf text q i := by
  rw [funext hpq]

theorem Piece.ends_regex {piece : Piece} (hpiece : piece ≠ .star) (i : Nat) :
    piece.regex.ends text i = stepIf text piece.accepts i := by
  cases piece with
  | star => exact absurd rfl hpiece
  | one => exact stepIf_congr (fun c ↦ Bool.true_or _) i
  | char c =>
    refine stepIf_congr (fun d ↦ ?_) i
    rw [Bool.eq_iff_iff]
    simp [Piece.accepts, Char.toNat_inj]
  | set negated tokens => rfl
  | never =>
    rw [stepIf_eq]
    cases text[i]? <;> rfl

/-- Whether pieces stand for the characters from a place on, one for each. -/
def fits (text : List Char) : List Piece → Nat → Bool
  | [], _ => true
  | piece :: rest, i => text[i]?.any piece.accepts && fits text rest (i + 1)

/-- A row of pieces without a star has at most one end. -/
theorem ends_segmentRegex {segment : List Piece} (hsegment : .star ∉ segment) (i : Nat) :
    (segmentRegex segment).ends text i =
      if fits text segment i then [i + segment.length] else [] := by
  induction segment generalizing i with
  | nil => rfl
  | cons piece rest ih =>
    obtain ⟨hpiece, hrest⟩ : .star ≠ piece ∧ .star ∉ rest := by simpa using hsegment
    have hfirst : piece.regex.ends text i =
        if text[i]?.any piece.accepts then [i + 1] else [] :=
      (Piece.ends_regex hpiece.symm i).trans (stepIf_eq _ i)
    cases rest with
    | nil => simpa [segmentRegex, Regex.sequence, fits] using hfirst
    | cons next rest =>
      have hseq : (segmentRegex (piece :: next :: rest)).ends text i =
          ((piece.regex.ends text i).flatMap
            ((segmentRegex (next :: rest)).ends text)).eraseDups := rfl
      rw [hseq, hfirst, fits, List.length_cons]
      cases text[i]?.any piece.accepts with
      | false => rfl
      | true =>
        have hplace : i + 1 + (next :: rest).length = i + ((next :: rest).length + 1) := by omega
        rw [Bool.true_and, ← hplace]
        simp only [if_true, List.flatMap_cons, List.flatMap_nil, List.append_nil, ih hrest]
        split <;> rfl

/-- A lazy star and what follows it, matched without second thoughts, end behind the first place at
which what follows fits. -/
theorem ends_atomic_star {segment : List Piece} (hsegment : .star ∉ segment) (i : Nat) :
    (Regex.atomic (.seq (.rep .lazy 0 none (.any true)) (segmentRegex segment))).ends text i =
      (((List.range' i (text.length - i + 1)).find? (fits text segment)).map
        (· + segment.length)).toList := by
  have hseq : (Regex.atomic (.seq (.rep .lazy 0 none (.any true)) (segmentRegex segment))).ends
      text i = (((Regex.rep .lazy 0 none (.any true)).ends text i).flatMap
        ((segmentRegex segment).ends text)).eraseDups.take 1 := rfl
  rw [hseq, take_one_eraseDups, ends_star .lazy (by decide), if_pos rfl,
    funext (ends_segmentRegex hsegment), take_one_flatMap]

/-! ## Over the stars -/

/-- Segments stand one behind the other up to the end of the text, with any characters in front of
each. -/
def Spread (text : List Char) : List (List Piece) → Nat → Prop
  | [], i => i = text.length
  | segment :: rest, i =>
    ∃ j, i ≤ j ∧ fits text segment j = true ∧ Spread text rest (j + segment.length)

theorem Spread.le {segments : List (List Piece)} {i : Nat} (h : Spread text segments i) :
    i ≤ text.length := by
  induction segments generalizing i with
  | nil => exact Nat.le_of_eq h
  | cons segment rest ih =>
    obtain ⟨j, hij, -, hrest⟩ := h
    have hle := ih hrest
    omega

/-- What comes behind a star may as well begin earlier. -/
theorem Spread.mono {segment : List Piece} {rest : List (List Piece)} {i i' : Nat}
    (h : Spread text (segment :: rest) i) (hle : i' ≤ i) : Spread text (segment :: rest) i' := by
  obtain ⟨j, hij, hfits, hrest⟩ := h
  exact ⟨j, hle.trans hij, hfits, hrest⟩

/-- To take the first place at which a segment fits is as good as any other. -/
theorem spread_iff_first {segment next : List Piece} {rest : List (List Piece)} {i : Nat} :
    Spread text (segment :: next :: rest) i ↔
      ∃ j, (List.range' i (text.length - i + 1)).find? (fits text segment) = some j ∧
        Spread text (next :: rest) (j + segment.length) := by
  constructor
  · rintro ⟨j, hij, hfits, hrest⟩
    have hle := hrest.le
    have hmem : j ∈ List.range' i (text.length - i + 1) := List.mem_range'_1.mpr (by omega)
    cases hfind : (List.range' i (text.length - i + 1)).find? (fits text segment) with
    | none => exact absurd hfits (List.find?_eq_none.mp hfind j hmem)
    | some first =>
      obtain ⟨-, -, hfirst⟩ := List.find?_range'_eq_some.mp hfind
      have hle : first ≤ j := by
        by_contra hlt
        simpa [hfits] using hfirst j hij (by omega)
      exact ⟨first, rfl, hrest.mono (by omega)⟩
  · rintro ⟨j, hfind, hrest⟩
    obtain ⟨hfits, hmem, -⟩ := List.find?_range'_eq_some.mp hfind
    exact ⟨j, (List.mem_range'_1.mp hmem).1, hfits, hrest⟩

/-- The stars and what is between them reach the end of the text if and only if the segments can be
spread over it. -/
theorem mem_ends_starRegex {segments : List (List Piece)}
    (hsegments : ∀ segment ∈ segments, .star ∉ segment) (i : Nat) :
    text.length ∈ (starRegex segments).ends text i ↔ Spread text segments i := by
  induction segments generalizing i with
  | nil =>
    simp only [starRegex, Regex.ends, List.mem_singleton, Spread]
    exact eq_comm
  | cons segment rest ih =>
    obtain ⟨hsegment, hrest⟩ := List.forall_mem_cons.mp hsegments
    cases rest with
    | nil =>
      rw [starRegex, mem_ends_seq, ends_star .greedy (by decide), if_neg (by decide)]
      simp only [ends_segmentRegex hsegment, List.mem_reverse, List.mem_range'_1,
        List.mem_ite_nil_right, List.mem_singleton, Spread]
      constructor
      · rintro ⟨j, hj, hfits, hend⟩
        exact ⟨j, hj.1, hfits, hend.symm⟩
      · rintro ⟨j, hij, hfits, hend⟩
        exact ⟨j, by omega, hfits, hend.symm⟩
    | cons next rest =>
      have hseq : starRegex (segment :: next :: rest) =
          .seq (.atomic (.seq (.rep .lazy 0 none (.any true)) (segmentRegex segment)))
            (starRegex (next :: rest)) := rfl
      rw [hseq, mem_ends_seq, ends_atomic_star hsegment, spread_iff_first]
      simp [ih hrest]

/-! ## Pieces -/

/-- Pieces stand for the characters from a place on up to the end of the text: what is in front of
the first star stands there, and what is behind it is spread. -/
def Aligned (text : List Char) (pieces : List Piece) (i : Nat) : Prop :=
  ∃ first rest, segments pieces = first :: rest ∧ fits text first i = true ∧
    Spread text rest (i + first.length)

theorem exists_segments (pieces : List Piece) : ∃ first rest, segments pieces = first :: rest := by
  apply List.exists_cons_of_ne_nil
  fun_cases segments pieces <;> exact List.cons_ne_nil _ _

theorem segments_cons {piece : Piece} (hpiece : piece ≠ .star) {pieces first : List Piece}
    {rest : List (List Piece)} (h : segments pieces = first :: rest) :
    segments (piece :: pieces) = (piece :: first) :: rest := by
  cases piece with
  | star => exact absurd rfl hpiece
  | _ => simp only [segments, h]

theorem star_notMem_segments (pieces : List Piece) :
    ∀ segment ∈ segments pieces, .star ∉ segment := by
  induction pieces with
  | nil => simp [segments]
  | cons piece pieces ih =>
    by_cases hpiece : piece = .star
    · subst hpiece
      simpa [segments] using ih
    · obtain ⟨first, rest, h⟩ := exists_segments pieces
      rw [h, List.forall_mem_cons] at ih
      rw [segments_cons hpiece h, List.forall_mem_cons]
      exact ⟨by simpa [Ne.symm hpiece] using ih.1, ih.2⟩

theorem aligned_nil {i : Nat} : Aligned text [] i ↔ i = text.length := by
  constructor
  · rintro ⟨first, rest, h, -, hrest⟩
    cases h
    exact hrest
  · rintro rfl
    exact ⟨[], [], rfl, rfl, rfl⟩

theorem aligned_star {pieces : List Piece} {i : Nat} :
    Aligned text (.star :: pieces) i ↔ ∃ j, i ≤ j ∧ Aligned text pieces j := by
  obtain ⟨first, rest, h⟩ := exists_segments pieces
  have hstar : segments (.star :: pieces) = [] :: first :: rest := by rw [segments, h]
  constructor
  · rintro ⟨front, others, hcut, -, hspread⟩
    cases hstar.symm.trans hcut
    obtain ⟨j, hij, hfits, hrest⟩ := hspread
    exact ⟨j, hij, first, rest, h, hfits, hrest⟩
  · rintro ⟨j, hij, first', rest', hcut, hfits, hrest⟩
    cases h.symm.trans hcut
    exact ⟨[], first :: rest, hstar, rfl, j, hij, hfits, hrest⟩

theorem aligned_cons {piece : Piece} (hpiece : piece ≠ .star) {pieces : List Piece} {i : Nat} :
    Aligned text (piece :: pieces) i ↔
      text[i]?.any piece.accepts = true ∧ Aligned text pieces (i + 1) := by
  obtain ⟨first, rest, h⟩ := exists_segments pieces
  have hplace : i + (piece :: first).length = i + 1 + first.length := by
    rw [List.length_cons]
    omega
  constructor
  · rintro ⟨front, others, hcut, hfits, hspread⟩
    cases (segments_cons hpiece h).symm.trans hcut
    rw [fits, Bool.and_eq_true] at hfits
    exact ⟨hfits.1, first, rest, h, hfits.2, hplace ▸ hspread⟩
  · rintro ⟨hc, first', rest', hcut, hfits, hspread⟩
    cases h.symm.trans hcut
    refine ⟨piece :: first, rest, segments_cons hpiece h, ?_, hplace ▸ hspread⟩
    rw [fits, hc, hfits, Bool.true_and]

/-- The search expression of a glob is found in a text if and only if the pieces of the glob stand
for the whole text. -/
theorem search_regex_iff (glob : List Char) :
    (regex glob).search text = true ↔ Aligned text (pieces glob) 0 := by
  obtain ⟨first, rest, h⟩ := exists_segments (pieces glob)
  have hsegments := star_notMem_segments (pieces glob)
  rw [h, List.forall_mem_cons] at hsegments
  have hregex : regex glob = .seq (.anchor .textStart)
      (.seq (.group none (.seq (segmentRegex first) (starRegex rest))) (.anchor .textEnd)) := by
    rw [regex, h]
  have hgroup : (Regex.group none (.seq (segmentRegex first) (starRegex rest))).ends text =
      (Regex.seq (segmentRegex first) (starRegex rest)).ends text := rfl
  have haligned : Aligned text (pieces glob) 0 ↔
      fits text first 0 = true ∧ Spread text rest (0 + first.length) := by
    simp [Aligned, h]
  rw [search_eq_true_iff, hregex, haligned, ← mem_ends_starRegex hsegments.2]
  simp only [mem_ends_seq, mem_ends_anchor, hgroup, ends_segmentRegex hsegments.1,
    Anchor.holds, beq_iff_eq, List.mem_ite_nil_right, List.mem_singleton]
  constructor
  · rintro ⟨i, j, -, k, ⟨rfl, rfl⟩, e, ⟨k', ⟨hfits, rfl⟩, hend⟩, rfl, rfl⟩
    exact ⟨hfits, hend⟩
  · rintro ⟨hfits, hend⟩
    exact ⟨0, text.length, Nat.zero_le _, 0, ⟨rfl, rfl⟩, text.length, ⟨_, ⟨hfits, rfl⟩, hend⟩,
      rfl, rfl⟩

/-! ## Globs -/

/-- A text as a whole matches a glob without brackets: a star stands for any run of characters, a
question mark for one character, and every other character for itself. -/
inductive Matches : List Char → List Char → Prop
  | nil : Matches [] []
  | star {glob text : List Char} (run : List Char) (h : Matches glob text) :
      Matches ('*' :: glob) (run ++ text)
  | one {glob text : List Char} (c : Char) (h : Matches glob text) :
      Matches ('?' :: glob) (c :: text)
  | char {glob text : List Char} {c : Char} (hstar : c ≠ '*') (hone : c ≠ '?')
      (h : Matches glob text) : Matches (c :: glob) (c :: text)

theorem matches_nil_iff {text : List Char} : Matches [] text ↔ text = [] := by
  constructor
  · rintro ⟨⟩
    rfl
  · rintro rfl
    exact .nil

theorem matches_star_iff {glob text : List Char} :
    Matches ('*' :: glob) text ↔ ∃ k, k ≤ text.length ∧ Matches glob (text.drop k) := by
  constructor
  · intro h
    cases h with
    | star run h => exact ⟨run.length, by simp, by simpa using h⟩
    | char hstar => exact absurd rfl hstar
  · rintro ⟨k, -, h⟩
    have hmatches := Matches.star (text.take k) h
    rwa [List.take_append_drop] at hmatches

/-- A character other than a star gives a piece that stands for the same characters. -/
theorem exists_piece {c : Char} (hstar : c ≠ '*') (hbracket : c ≠ '[') :
    ∃ piece, piece ≠ .star ∧ (∀ glob, pieces (c :: glob) = piece :: pieces glob) ∧
      ∀ glob text, Matches (c :: glob) text ↔
        ∃ d rest, text = d :: rest ∧ piece.accepts d = true ∧ Matches glob rest := by
  by_cases hone : c = '?'
  · subst hone
    refine ⟨.one, Piece.noConfusion, fun glob ↦ rfl, fun glob text ↦ ⟨fun h ↦ ?_, ?_⟩⟩
    · cases h with
      | one d h => exact ⟨d, _, rfl, rfl, h⟩
      | char _ hone => exact absurd rfl hone
    · rintro ⟨d, rest, rfl, -, h⟩
      exact .one d h
  · refine ⟨.char c, Piece.noConfusion, fun glob ↦ ?_, fun glob text ↦ ⟨fun h ↦ ?_, ?_⟩⟩
    · simp [pieces, piecesFrom, hstar, hone, hbracket]
    · cases h with
      | star => exact absurd rfl hstar
      | one => exact absurd rfl hone
      | char _ _ h => exact ⟨c, _, rfl, beq_self_eq_true c, h⟩
    · rintro ⟨d, rest, rfl, hd, h⟩
      obtain rfl : d = c := by simpa [Piece.accepts] using hd
      exact .char hstar hone h

/-- A star in front of another is not kept, and is not missed. -/
theorem aligned_pieces_star {glob : List Char} {i : Nat} :
    Aligned text (pieces ('*' :: glob)) i ↔ ∃ j, i ≤ j ∧ Aligned text (pieces glob) j := by
  by_cases hdouble : ∃ more, pieces glob = .star :: more
  · obtain ⟨more, hmore⟩ := hdouble
    have hpieces : pieces ('*' :: glob) = .star :: more := by
      have hglob : piecesFrom glob.length glob = .star :: more := hmore
      simp [pieces, piecesFrom, hglob]
    rw [hpieces, hmore, aligned_star]
    simp only [aligned_star]
    constructor
    · rintro ⟨j, hij, h⟩
      exact ⟨j, hij, j, Nat.le_refl j, h⟩
    · rintro ⟨j, hij, k, hjk, h⟩
      exact ⟨k, hij.trans hjk, h⟩
  · have hpieces : pieces ('*' :: glob) = .star :: pieces glob := by
      simp only [pieces, List.length_cons, piecesFrom, if_true]
      split
      · next more hmore => exact absurd ⟨more, hmore⟩ hdouble
      · rfl
    rw [hpieces, aligned_star]

theorem Aligned.le {pieces : List Piece} {i : Nat} (h : Aligned text pieces i) :
    i ≤ text.length := by
  obtain ⟨first, rest, -, -, hspread⟩ := h
  have hle := hspread.le
  omega

/-- From any place on, a text matches a glob if and only if the pieces of the glob stand for it. -/
theorem matches_drop_iff {glob : List Char} (hglob : '[' ∉ glob) {i : Nat}
    (hi : i ≤ text.length) : Matches glob (text.drop i) ↔ Aligned text (pieces glob) i := by
  induction glob generalizing i with
  | nil =>
    have hpieces : pieces [] = [] := rfl
    rw [matches_nil_iff, hpieces, aligned_nil, List.drop_eq_nil_iff]
    omega
  | cons c glob ih =>
    obtain ⟨hc, hrest⟩ : '[' ≠ c ∧ '[' ∉ glob := by simpa using hglob
    by_cases hstar : c = '*'
    · subst hstar
      rw [matches_star_iff, aligned_pieces_star]
      constructor
      · rintro ⟨k, hk, h⟩
        rw [List.length_drop] at hk
        rw [List.drop_drop] at h
        exact ⟨i + k, by omega, (ih hrest (by omega)).mp h⟩
      · rintro ⟨j, hij, h⟩
        have hplace : i + (j - i) = j := by omega
        refine ⟨j - i, ?_, ?_⟩
        · have hle := h.le
          rw [List.length_drop]
          omega
        · rw [List.drop_drop, hplace]
          exact (ih hrest h.le).mpr h
    · obtain ⟨piece, hpiece, hpieces, hmatches⟩ := exists_piece hstar hc.symm
      rw [hmatches, hpieces, aligned_cons hpiece]
      by_cases hlt : i < text.length
      · rw [List.drop_eq_getElem_cons hlt, List.getElem?_eq_getElem hlt, ← ih hrest hlt]
        constructor
        · rintro ⟨d, rest, heq, hd, h⟩
          obtain ⟨rfl, rfl⟩ := List.cons.inj heq
          exact ⟨hd, h⟩
        · rintro ⟨hd, h⟩
          exact ⟨_, _, rfl, hd, h⟩
      · have hnil : text.drop i = [] := List.drop_eq_nil_iff.mpr (by omega)
        have hnone : text[i]? = none := List.getElem?_eq_none (by omega)
        simp [hnil, hnone]

/-- The pattern of a glob without brackets finds exactly the texts that match the glob. -/
theorem search_toPattern_iff {glob type : String} (hglob : '[' ∉ glob.toList) :
    (toPattern glob).search type = true ↔ Matches glob.toList type.toList :=
  (search_regex_iff glob.toList).trans (matches_drop_iff hglob (Nat.zero_le _)).symm

end Glob

namespace Matcher

open Op

variable {σ : Type}

/-- A glob without brackets denotes its pattern. -/
theorem ofExpression_glob {g : String} (w : World σ)
    (hname : ∀ c ∈ g.toList, Text.isBlank c = false ∧ c ≠ ',' ∧ c ≠ '/' ∧ c ≠ '[')
    (hglob : ∃ c ∈ g.toList, c = '*' ∨ c = '?') :
    ofExpression (.str g) w = .ok (.pattern (Glob.toPattern g)) w := by
  obtain ⟨c, hc, hkind⟩ := hglob
  have hwritten : (Item.name g.toList).Written g.toList :=
    .name ⟨List.ne_nil_of_mem hc, fun d hd ↦ by simp [hname d hd]⟩
  have hdenotes : Item.Denotes (.name g.toList) (.pattern (Glob.toPattern g)) := by
    have hmem : c ∈ ['*', '?', '['] := by rcases hkind with rfl | rfl <;> simp
    simpa using Item.Denotes.glob hc hmem
  exact ofExpression_of_written w hwritten hdenotes

/-- A type name matches the expression of a glob without brackets if and only if it matches the glob
as a whole. -/
theorem isType_glob_iff_matches {g type : String} {w : World σ} {x : Value}
    (hname : ∀ c ∈ g.toList, Text.isBlank c = false ∧ c ≠ ',' ∧ c ≠ '/' ∧ c ≠ '[')
    (hglob : ∃ c ∈ g.toList, c = '*' ∨ c = '?') (hx : w.heap.isNode x = true)
    (htype : w.heap.attrOrNull x "type" = .str type) :
    ∃ m, ofExpression (.str g) w = .ok m w ∧ ∀ fuel, ∃ answer,
      isType x (fuel + 1) m w = .ok answer w ∧
        (answer = true ↔ Glob.Matches g.toList type.toList) := by
  have hbracket : '[' ∉ g.toList := fun hmem ↦ (hname '[' hmem).2.2.2 rfl
  refine ⟨_, ofExpression_glob w hname hglob, fun fuel ↦ ?_⟩
  exact ⟨_, isType_of_node hx htype fuel _, Glob.search_toPattern_iff hbracket⟩

/-- A world with a node whose type has a line feed in it. -/
def nodeOfTwoLines : World Unit where
  heap := ⟨#[some (.entity ⟨.plain, [("type", .str "xa\nab"), ("nodes", .null),
    ("parent", .null)], .absent⟩)]⟩
  client := ()

/-- The line feed is one character, and the stars may also stand for none. -/
theorem isType_glob_nodeOfTwoLines :
    ∃ m, ofExpression (.str "*a?**b") nodeOfTwoLines = .ok m nodeOfTwoLines ∧
      isType (.ref 0) 1 m nodeOfTwoLines = .ok true nodeOfTwoLines := by
  have hall : "*a?**b".toList.all (fun c ↦ isNameChar c && c != '[') = true := by
    decide +kernel
  have hname : ∀ c ∈ "*a?**b".toList,
      Text.isBlank c = false ∧ c ≠ ',' ∧ c ≠ '/' ∧ c ≠ '[' := by
    intro c hc
    have hchar := List.all_eq_true.mp hall c hc
    simpa [isNameChar, and_assoc] using hchar
  have hmatches : Glob.Matches "*a?**b".toList "xa\nab".toList :=
    .star ['x'] (.char (by decide) (by decide) (.one '\n' (.star ['a'] (.star []
      (.char (by decide) (by decide) .nil)))))
  have hx : nodeOfTwoLines.heap.isNode (.ref 0) = true := rfl
  have htype : nodeOfTwoLines.heap.attrOrNull (.ref 0) "type" = .str "xa\nab" := rfl
  obtain ⟨m, hm, hanswers⟩ :=
    isType_glob_iff_matches hname ⟨'*', by decide, .inl rfl⟩ hx htype
  obtain ⟨answer, hrun, hiff⟩ := hanswers 0
  rw [hiff.mpr hmatches] at hrun
  exact ⟨m, hm, hrun⟩

end Matcher

end TagTree
