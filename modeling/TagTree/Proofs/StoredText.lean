import TagTree.Json.Reader
import TagTree.Json.Writer
import TagTree.Text.Utf8
import Mathlib.Tactic.Common

/-!
# Texts that are stored and read back

A text goes to a file in three steps: as a JSON text, with the characters that the format does not
take replaced by escapes; as part of a document with a line for each member; and as bytes. Reading
takes the steps back, and makes all line ends uniform on the way. That changes nothing, since a
carriage return is always written as an escape.

So an object whose values are texts is read as it was written, whatever characters they hold.
-/

namespace TagTree

theorem Table.put_of_notMem {α : Type} {name : String} {t : Table α} (h : name ∉ t.keys)
    (value : α) :
    put name value t = t ++ [(name, value)] := by
  induction t with
  | nil => rfl
  | cons entry rest ih =>
    obtain ⟨k, v⟩ := entry
    rw [keys, List.map_cons, List.mem_cons, not_or] at h
    rw [put, if_neg (Ne.symm h.1), ih h.2, List.cons_append]

namespace Text

/-! ## Bytes -/

section Utf8

theorem toNat_lt_or_ge (c : Char) : c.toNat < 0xd800 ∨ 0xe000 ≤ c.toNat ∧ c.toNat < 0x110000 := by
  have hvalid : c.toNat < 0xd800 ∨ 0xdfff < c.toNat ∧ c.toNat < 0x110000 := c.valid
  omega

theorem isContinuation_of_lt {k : Nat} (hk : k < 0x40) : isContinuation (0x80 + k) = true := by
  simp only [isContinuation, Bool.and_eq_true, decide_eq_true_eq]
  omega

theorem isSecond_of_two {n : Nat} (hlow : 0x80 ≤ n) (hhigh : n < 0x800) :
    isSecond (0xc0 + n / 0x40) (0x80 + n % 0x40) = true := by
  unfold isSecond
  rw [if_neg (by omega), if_neg (by omega), if_neg (by omega), if_neg (by omega)]
  exact isContinuation_of_lt (by omega)

theorem isSecond_of_three {n : Nat} (hlow : 0x800 ≤ n) (hhigh : n < 0x10000)
    (hscalar : n < 0xd800 ∨ 0xe000 ≤ n) :
    isSecond (0xe0 + n / 0x1000) (0x80 + n / 0x40 % 0x40) = true := by
  unfold isSecond isContinuation
  split_ifs <;> simp only [Bool.and_eq_true, decide_eq_true_eq] <;> omega

theorem isSecond_of_four {n : Nat} (hlow : 0x10000 ≤ n) (hhigh : n < 0x110000) :
    isSecond (0xf0 + n / 0x40000) (0x80 + n / 0x1000 % 0x40) = true := by
  unfold isSecond isContinuation
  split_ifs <;> simp only [Bool.and_eq_true, decide_eq_true_eq] <;> omega

variable {b b₂ b₃ b₄ : Nat} (rest : List Nat)

theorem decodeHead_two (hlow : 0xc2 ≤ b) (hhigh : b < 0xe0) (h₂ : isSecond b b₂ = true) :
    decodeHead b (b₂ :: rest) = .char (Char.ofNat ((b - 0xc0) * 0x40 + (b₂ - 0x80))) rest := by
  unfold decodeHead
  rw [if_neg (by omega), if_neg (by omega)]
  simp only [h₂, hhigh, Bool.not_true, Bool.false_eq_true, if_false, if_true]

theorem decodeHead_three (hlow : 0xe0 ≤ b) (hhigh : b < 0xf0) (h₂ : isSecond b b₂ = true)
    (h₃ : isContinuation b₃ = true) :
    decodeHead b (b₂ :: b₃ :: rest) =
      .char (Char.ofNat ((b - 0xe0) * 0x1000 + (b₂ - 0x80) * 0x40 + (b₃ - 0x80))) rest := by
  unfold decodeHead
  rw [if_neg (by omega), if_neg (by omega)]
  simp only [h₂, h₃, hhigh, Nat.not_lt.mpr hlow, Bool.not_true, Bool.false_eq_true, if_false,
    if_true]

theorem decodeHead_four (hlow : 0xf0 ≤ b) (hhigh : b < 0xf5) (h₂ : isSecond b b₂ = true)
    (h₃ : isContinuation b₃ = true) (h₄ : isContinuation b₄ = true) :
    decodeHead b (b₂ :: b₃ :: b₄ :: rest) =
      .char (Char.ofNat ((b - 0xf0) * 0x40000 + (b₂ - 0x80) * 0x1000 + (b₃ - 0x80) * 0x40 +
        (b₄ - 0x80))) rest := by
  have hthree : ¬ b < 0xe0 := by omega
  unfold decodeHead
  rw [if_neg (by omega), if_neg (by omega)]
  simp only [h₂, h₃, h₄, hthree, Nat.not_lt.mpr hlow, Bool.not_true, Bool.false_eq_true, if_false]

/-- The bytes of one character are read as that character, whatever follows them. -/
theorem decodeHead_encodeChar (c : Char) :
    ∃ b tail, encodeChar c ++ rest = b :: tail ∧ decodeHead b tail = .char c rest := by
  have hrange := toNat_lt_or_ge c
  have hc : Char.ofNat c.toNat = c := Char.ofNat_toNat c
  unfold encodeChar
  generalize c.toNat = n at hrange hc
  simp only
  split_ifs with h₁ h₂ h₃
  · refine ⟨n, rest, rfl, ?_⟩
    unfold decodeHead
    rw [if_pos h₁, hc]
  · refine ⟨0xc0 + n / 0x40, (0x80 + n % 0x40) :: rest, rfl, ?_⟩
    have hjoin : (0xc0 + n / 0x40 - 0xc0) * 0x40 + (0x80 + n % 0x40 - 0x80) = n := by omega
    rw [decodeHead_two rest (by omega) (by omega) (isSecond_of_two (by omega) h₂), hjoin, hc]
  · refine ⟨0xe0 + n / 0x1000, (0x80 + n / 0x40 % 0x40) :: (0x80 + n % 0x40) :: rest, rfl, ?_⟩
    have hjoin : (0xe0 + n / 0x1000 - 0xe0) * 0x1000 + (0x80 + n / 0x40 % 0x40 - 0x80) * 0x40 +
        (0x80 + n % 0x40 - 0x80) = n := by omega
    rw [decodeHead_three rest (by omega) (by omega) (isSecond_of_three (by omega) h₃ (by omega))
      (isContinuation_of_lt (by omega)), hjoin, hc]
  · refine ⟨0xf0 + n / 0x40000, (0x80 + n / 0x1000 % 0x40) :: (0x80 + n / 0x40 % 0x40) ::
      (0x80 + n % 0x40) :: rest, rfl, ?_⟩
    have hjoin : (0xf0 + n / 0x40000 - 0xf0) * 0x40000 +
        (0x80 + n / 0x1000 % 0x40 - 0x80) * 0x1000 + (0x80 + n / 0x40 % 0x40 - 0x80) * 0x40 +
        (0x80 + n % 0x40 - 0x80) = n := by omega
    rw [decodeHead_four rest (by omega) (by omega) (isSecond_of_four (by omega) (by omega))
      (isContinuation_of_lt (by omega)) (isContinuation_of_lt (by omega)), hjoin, hc]

theorem length_encodeChar_pos (c : Char) : 0 < (encodeChar c).length := by
  unfold encodeChar
  simp only
  split_ifs <;> simp

theorem length_le_encodeUtf8 (cs : List Char) : cs.length ≤ (encodeUtf8 cs).length := by
  induction cs with
  | nil => simp
  | cons c cs ih =>
    have hpos := length_encodeChar_pos c
    rw [encodeUtf8, List.flatMap_cons, List.length_append, List.length_cons]
    rw [encodeUtf8] at ih
    omega

theorem decodeFrom_encodeUtf8 (cs : List Char) (fuel position : Nat) (hfuel : cs.length ≤ fuel) :
    decodeFrom fuel position (encodeUtf8 cs) = .ok cs := by
  induction cs generalizing fuel position with
  | nil => simp [encodeUtf8, decodeFrom]
  | cons c cs ih =>
    obtain ⟨fuel, rfl⟩ := Nat.exists_eq_add_of_le' hfuel
    obtain ⟨b, tail, hbytes, hhead⟩ := decodeHead_encodeChar (encodeUtf8 cs) c
    have hcons : encodeUtf8 (c :: cs) = b :: tail := hbytes
    rw [hcons, List.length_cons, ← Nat.add_assoc, decodeFrom, hhead]
    simp only
    rw [ih _ _ (by omega)]
    rfl

theorem decodeUtf8_encodeUtf8 (cs : List Char) : decodeUtf8 (encodeUtf8 cs) = .ok cs :=
  decodeFrom_encodeUtf8 cs _ 0 (length_le_encodeUtf8 cs)

end Utf8

/-! ## Line ends -/

theorem uniformLineEnds_of_notMem (cs : List Char) (hcs : '\r' ∉ cs) : uniformLineEnds cs = cs := by
  induction cs with
  | nil => rfl
  | cons c cs ih =>
    have hc : c ≠ '\r' := fun h ↦ hcs (h ▸ List.mem_cons_self)
    have hrest : '\r' ∉ cs := fun h ↦ hcs (List.mem_cons_of_mem c h)
    rw [uniformLineEnds, ih hrest]
    · intro tail h
      exact absurd h hc
    · exact hc

end Text

namespace Json

open Text

/-! ## Texts between quotation marks -/

theorem hexValue?_hexDigit {n : Nat} (hn : n < 16) : hexValue? (hexDigit n) = some n := by
  have hall : ∀ n : Fin 16, hexValue? (hexDigit n) = some n.val := by decide
  exact hall ⟨n, hn⟩

theorem fourHex?_hexDigits {n : Nat} (hn : n < 0x10000) {rest : List Char} (hrest : rest ≠ []) :
    fourHex? (hexDigits 4 n ++ rest) = some (n, rest) := by
  have hempty : rest.isEmpty = false := by simpa using hrest
  have hjoin : ((n / 16 / 16 / 16 % 16 * 16 + n / 16 / 16 % 16) * 16 + n / 16 % 16) * 16 + n % 16 =
      n := by omega
  have hdigit : ∀ k, hexValue? (hexDigit (k % 16)) = some (k % 16) := fun k ↦
    hexValue?_hexDigit (Nat.mod_lt k (by decide))
  simp only [hexDigits, List.nil_append, List.cons_append, fourHex?, hdigit, Option.bind_eq_bind,
    Option.bind_some, hempty, hjoin, Bool.false_eq_true, if_false]

/-- One written character is read as that character, if something follows it. -/
theorem readText_escapedChar (opening fuel : Nat) (read : List Char) (c : Char) {rest : List Char}
    (hrest : rest ≠ []) :
    readText opening (fuel + 1) read (escapedChar c ++ rest) =
      readText opening fuel (c :: read) rest := by
  unfold escapedChar
  split_ifs with h₁ h₂ h₃ h₄ h₅ h₆ h₇ h₈
  · rw [h₁]; rfl
  · rw [h₂]; rfl
  · rw [h₃]; rfl
  · rw [h₄]; rfl
  · rw [h₅]; rfl
  · rw [h₆]; rfl
  · rw [h₇]; rfl
  · have hhigh : isHighSurrogate c.toNat = false := by
      simp only [isHighSurrogate, Bool.and_eq_false_iff, decide_eq_false_iff_not]
      omega
    have hlow : isLowSurrogate c.toNat = false := by
      simp only [isLowSurrogate, Bool.and_eq_false_iff, decide_eq_false_iff_not]
      omega
    have hfour := fourHex?_hexDigits (show c.toNat < 0x10000 by omega) hrest
    simp only [List.cons_append, readText, hfour, hhigh, hlow, Bool.false_eq_true, if_false,
      Char.ofNat_toNat]
  · rw [List.singleton_append, readText]
    · rw [if_neg h₈]
    · exact h₁
    · intro tail h
      exact absurd h h₂
    · intro d tail h
      exact absurd h h₂
    · intro h
      exact absurd h h₂

theorem readText_flatMap_escapedChar (opening fuel : Nat) (read cs rest : List Char)
    (hfuel : cs.length < fuel) :
    readText opening fuel read (cs.flatMap escapedChar ++ '"' :: rest) =
      .ok (read.reverse ++ cs, rest) := by
  induction cs generalizing fuel read with
  | nil =>
    obtain ⟨fuel, rfl⟩ := Nat.exists_eq_add_of_lt hfuel
    simp [readText]
  | cons c cs ih =>
    obtain ⟨fuel, rfl⟩ := Nat.exists_eq_add_of_lt hfuel
    rw [List.length_cons] at hfuel ⊢
    rw [List.flatMap_cons, List.append_assoc, readText_escapedChar _ _ _ _ (by simp),
      ih _ _ (by omega)]
    simp

theorem length_le_flatMap_escapedChar (cs : List Char) :
    cs.length ≤ (cs.flatMap escapedChar).length := by
  induction cs with
  | nil => simp
  | cons c cs ih =>
    have hpos : 0 < (escapedChar c).length := by
      unfold escapedChar
      split_ifs <;> simp
    rw [List.flatMap_cons, List.length_append, List.length_cons]
    omega

theorem readString_escaped (cs rest : List Char) :
    readString (cs.flatMap escapedChar ++ '"' :: rest) = .ok (String.ofList cs, rest) := by
  have hlength := length_le_flatMap_escapedChar cs
  unfold readString
  rw [readText_flatMap_escapedChar _ _ _ _ _ (by rw [List.length_append]; omega)]
  rfl

theorem writeText_append (cs rest : List Char) :
    writeText cs ++ rest = '"' :: (cs.flatMap escapedChar ++ '"' :: rest) := by
  simp [writeText]

/-- A written text is read as that text. -/
theorem readValue_writeText (fuel : Nat) (s : String) (rest : List Char) :
    readValue (fuel + 1) (writeText s.toList ++ rest) = .ok (.str s, rest) := by
  rw [writeText_append, readValue, readString_escaped, String.ofList_toList]
  rfl

/-! ## Objects -/

/-- The members of an object whose values are texts. -/
def textMembers (t : Table String) : List (String × Json) :=
  t.map fun (name, text) ↦ (name, .str text)

/-- Blanks in front of something else are skipped. -/
theorem skipSpace_lineBreak (depth : Nat) {c : Char} (hc : isSpace c = false) (rest : List Char) :
    skipSpace (lineBreak depth ++ c :: rest) = c :: rest := by
  have hblanks : ∀ x ∈ lineBreak depth, isSpace x = true := by
    intro x hx
    rw [lineBreak, List.mem_cons, List.mem_replicate] at hx
    rcases hx with rfl | ⟨-, rfl⟩ <;> rfl
  rw [skipSpace, List.dropWhile_append_of_pos hblanks, List.dropWhile_cons_of_neg (by simp [hc])]

theorem skipSpace_of_not {c : Char} (hc : isSpace c = false) (rest : List Char) :
    skipSpace (c :: rest) = c :: rest :=
  List.dropWhile_cons_of_neg (by simp [hc])

theorem indentedMembers_cons (depth : Nat) (name text : String) (t : Table String) :
    indentedMembers depth (textMembers ((name, text) :: t)) =
      lineBreak depth ++ writeText name.toList ++ ':' :: ' ' :: writeText text.toList ++
        (if t = [] then [] else ',' :: indentedMembers depth (textMembers t)) := by
  cases t with
  | nil => simp [textMembers, indentedMembers, indented]
  | cons entry rest => simp [textMembers, indentedMembers, indented]

/-- A member with a text is read, then what separates it from the next one or ends the object. -/
theorem readMembers_writeText (fuel : Nat) (read : List (String × Json)) (name text : String)
    (rest : List Char) :
    readMembers (fuel + 2) read
        (writeText name.toList ++ ':' :: ' ' :: (writeText text.toList ++ rest)) =
      match skipSpace rest with
      | '\x7d' :: tail => .ok (Table.put name (.str text) read, tail)
      | ',' :: tail => readMembers (fuel + 1) (Table.put name (.str text) read) (skipSpace tail)
      | other => stop .comma other := by
  have hvalue : skipSpace (' ' :: (writeText text.toList ++ rest)) =
      writeText text.toList ++ rest := rfl
  rw [writeText_append, readMembers, readString_escaped, String.ofList_toList]
  simp only [bind, Except.bind, skipSpace_of_not (show isSpace ':' = false by decide), hvalue,
    readValue_writeText]
  rfl

/-- Written members are read after those already read, if no name comes up twice. -/
theorem readMembers_indented (fuel depth outer : Nat) (read : List (String × Json))
    (t : Table String) (rest : List Char) (hempty : t ≠ []) (hfuel : t.length < fuel)
    (hnames : (Table.keys read ++ t.keys).Nodup) :
    readMembers fuel read
        (skipSpace (indentedMembers depth (textMembers t) ++ (lineBreak outer ++ '\x7d' :: rest))) =
      .ok (read ++ textMembers t, rest) := by
  induction t generalizing fuel read with
  | nil => exact absurd rfl hempty
  | cons entry t ih =>
    obtain ⟨name, text⟩ := entry
    rw [List.length_cons] at hfuel
    obtain ⟨fuel, rfl⟩ : ∃ k, fuel = k + 2 := ⟨fuel - 2, by omega⟩
    have hmore : t.length < fuel + 1 := by omega
    have hnew : name ∉ Table.keys read := by
      intro hmem
      exact (List.nodup_append.mp hnames).2.2 name hmem name (by simp [Table.keys]) rfl
    have hstart : skipSpace (indentedMembers depth (textMembers ((name, text) :: t)) ++
        (lineBreak outer ++ '\x7d' :: rest)) =
        writeText name.toList ++ ':' :: ' ' :: (writeText text.toList ++
          ((if t = [] then [] else ',' :: indentedMembers depth (textMembers t)) ++
            (lineBreak outer ++ '\x7d' :: rest))) := by
      rw [indentedMembers_cons]
      simp only [List.append_assoc, List.cons_append]
      exact skipSpace_lineBreak depth (by decide) _
    rw [hstart, readMembers_writeText, Table.put_of_notMem hnew]
    by_cases ht : t = []
    · subst ht
      rw [if_pos rfl, List.nil_append, skipSpace_lineBreak outer (by decide)]
      rfl
    · rw [if_neg ht, List.cons_append, skipSpace_of_not (by decide)]
      simp only
      rw [ih (fuel + 1) _ ht hmore (by simpa [Table.keys] using hnames)]
      simp [textMembers]

theorem length_le_indentedMembers (depth : Nat) (t : Table String) :
    t.length ≤ (indentedMembers depth (textMembers t)).length := by
  induction t with
  | nil => exact Nat.zero_le _
  | cons entry t ih =>
    obtain ⟨name, text⟩ := entry
    rw [indentedMembers_cons]
    by_cases ht : t = []
    · subst ht
      simp [lineBreak]
    · rw [if_neg ht]
      simp only [List.length_cons, List.length_append]
      omega

theorem indented_textMembers {t : Table String} (hempty : t ≠ []) :
    (Json.obj (textMembers t)).indented 0 =
      '\x7b' :: (indentedMembers 1 (textMembers t) ++ (lineBreak 0 ++ ['\x7d'])) := by
  cases t with
  | nil => exact absurd rfl hempty
  | cons entry t => simp [textMembers, indented]

/-- An object with texts as its values is read as it was written. -/
theorem parse_indented (t : Table String) (hempty : t ≠ []) (hnames : t.keys.Nodup) :
    parse ((Json.obj (textMembers t)).indented 0) = .ok (.obj (textMembers t)) := by
  obtain ⟨⟨name, text⟩, more, ht⟩ := List.exists_cons_of_ne_nil hempty
  let body := indentedMembers 1 (textMembers t) ++ (lineBreak 0 ++ ['\x7d'])
  obtain ⟨inner, hinner⟩ : ∃ inner, skipSpace body = '"' :: inner := by
    simp only [body, ht, indentedMembers_cons, List.append_assoc, List.cons_append]
    exact ⟨_, skipSpace_lineBreak 1 (by decide) _⟩
  have hfuel : t.length < 2 * ('\x7b' :: body).length + 1 := by
    have hlength := length_le_indentedMembers 1 t
    simp only [body, List.length_cons, List.length_append]
    omega
  have hread : readMembers (2 * ('\x7b' :: body).length + 1) [] ('"' :: inner) =
      .ok (textMembers t, []) := by
    rw [← hinner]
    exact readMembers_indented _ 1 0 [] t [] hempty hfuel hnames
  have hvalue : readValue (2 * ('\x7b' :: body).length + 2) (skipSpace ('\x7b' :: body)) =
      .ok (.obj (textMembers t), []) := by
    rw [skipSpace_of_not (by decide), readValue, hinner]
    split
    · next h => cases h
    · rw [hread]
      rfl
  have hdocument : readDocument ('\x7b' :: body) = .ok (.obj (textMembers t)) := by
    rw [readDocument]
    · rw [hvalue]
      rfl
    · intro tail h
      cases h
  rw [indented_textMembers hempty, parse, hdocument]

/-! ## Carriage returns -/

theorem hexDigit_ne {n : Nat} (hn : n < 16) : hexDigit n ≠ '\r' := by
  have hall : ∀ n : Fin 16, hexDigit n ≠ '\r' := by decide
  exact hall ⟨n, hn⟩

theorem notMem_hexDigits (width n : Nat) : '\r' ∉ hexDigits width n := by
  induction width generalizing n with
  | zero => simp [hexDigits]
  | succ width ih =>
    have hlast : hexDigit (n % 16) ≠ '\r' := hexDigit_ne (Nat.mod_lt n (by decide))
    simp [hexDigits, ih, Ne.symm hlast]

theorem notMem_escapedChar (c : Char) : '\r' ∉ escapedChar c := by
  unfold escapedChar
  split_ifs with h₁ h₂ h₃ h₄ h₅ h₆ h₇ h₈
  case pos | pos | pos | pos | pos | pos | pos => decide
  · simp [notMem_hexDigits]
  · simpa using Ne.symm h₄

theorem notMem_writeText (cs : List Char) : '\r' ∉ writeText cs := by
  simp [writeText, notMem_escapedChar]

theorem notMem_lineBreak (depth : Nat) : '\r' ∉ lineBreak depth := by
  simp [lineBreak]

theorem notMem_indentedMembers (depth : Nat) (t : Table String) :
    '\r' ∉ indentedMembers depth (textMembers t) := by
  induction t with
  | nil => simp [textMembers, indentedMembers]
  | cons entry t ih =>
    obtain ⟨name, text⟩ := entry
    rw [indentedMembers_cons]
    split_ifs <;> simp [notMem_lineBreak, notMem_writeText, ih]

/-- Nothing that is written looks like a line end of another convention. -/
theorem notMem_indented {t : Table String} (hempty : t ≠ []) :
    '\r' ∉ (Json.obj (textMembers t)).indented 0 := by
  rw [indented_textMembers hempty]
  simp [notMem_lineBreak, notMem_indentedMembers]

end Json

end TagTree
