import TagTree.Text.Name.Alias
import TagTree.Text.Name.Ancient
import TagTree.Text.Name.Asian
import TagTree.Text.Name.EastAsian
import TagTree.Text.Name.European
import TagTree.Text.Name.Notation
import TagTree.Text.Name.Phonetic
import TagTree.Text.Name.Pictograph
import TagTree.Text.Name.Presentation
import TagTree.Text.Name.Rare
import TagTree.Text.Name.Symbol

/-!
# Names of characters

The character that a name of Unicode 14 stands for. Most names are in tables; those of ideographs
and of Hangul syllables follow rules.
-/

namespace TagTree.Text

/-- All names in tables. -/
def nameRuns : List NameRun :=
  europeanNames ++ asianNames ++ phoneticNames ++ symbolNames ++ eastAsianNames ++
    presentationNames ++ ancientNames ++ rareNames ++ notationalNames ++ pictographNames

/-! ## Names that follow rules -/

/-- Names that end in the code point: their beginning, and the intervals of code points that have
them. -/
def codedNames : List (String × List (Nat × Nat)) :=
  [ ("CJK COMPATIBILITY IDEOGRAPH-", [(0xf900, 0xfa6d), (0xfa70, 0xfad9), (0x2f800, 0x2fa1d)]),
    ("KHITAN SMALL SCRIPT CHARACTER-", [(0x18b00, 0x18cd5)]),
    ("NUSHU CHARACTER-", [(0x1b170, 0x1b2fb)]) ]

/-- The unified ideographs, as closed intervals of code points. -/
def unifiedIdeographs : List (Nat × Nat) :=
  [ (0x3400, 0x4dbf), (0x4e00, 0x9fff), (0x20000, 0x2a6df), (0x2a700, 0x2b738), (0x2b740, 0x2b81d),
    (0x2b820, 0x2cea1), (0x2ceb0, 0x2ebe0), (0x30000, 0x3134a) ]

/-- The part of a text behind a given beginning. -/
def behind? (beginning : String) (text : List Char) : Option (List Char) :=
  if beginning.toList.isPrefixOf text then some (text.drop beginning.length) else none

/-- The value of a hexadecimal digit in upper case. -/
def upperHexValue? (c : Char) : Option Nat :=
  if '0' ≤ c ∧ c ≤ '9' then some (c.toNat - '0'.toNat)
  else if 'A' ≤ c ∧ c ≤ 'F' then some (c.toNat - 'A'.toNat + 10)
  else none

/-- The number written by four or five hexadecimal digits in upper case. -/
def codePoint? (digits : List Char) : Option Nat := do
  if digits.length ≠ 4 ∧ digits.length ≠ 5 then none
  digits.foldlM (fun n c ↦ return 16 * n + (← upperHexValue? c)) 0

def inIntervals (intervals : List (Nat × Nat)) (n : Nat) : Bool :=
  intervals.any fun (lo, hi) ↦ lo ≤ n && n ≤ hi

/-- The ideograph with a name. A code point below 0x10000 may be written with a leading zero. -/
def ideographNamed? (name : List Char) : Option Nat := do
  let n ← codePoint? (← behind? "CJK UNIFIED IDEOGRAPH-" name)
  if inIntervals unifiedIdeographs n then some n else none

/-- The character with a name that ends in its code point. -/
def codedNamed? (name : List Char) : Option Nat :=
  codedNames.findSome? fun (beginning, intervals) ↦ do
    let digits ← behind? beginning name
    let n ← codePoint? digits
    if inIntervals intervals n ∧ (digits.length = 5 ↔ 0x10000 ≤ n) then some n else none

/-! ## Hangul syllables -/

def leadingSounds : List String :=
  ["G", "GG", "N", "D", "DD", "R", "M", "B", "BB", "S", "SS", "", "J", "JJ", "C", "K", "T", "P", "H"]

def vowelSounds : List String :=
  ["A", "AE", "YA", "YAE", "EO", "E", "YEO", "YE", "O", "WA", "WAE", "OE", "YO", "U", "WEO", "WE",
   "WI", "YU", "EU", "YI", "I"]

def trailingSounds : List String :=
  ["", "G", "GG", "GS", "N", "NJ", "NH", "D", "L", "LG", "LM", "LB", "LS", "LT", "LP", "LH", "M",
   "B", "BS", "S", "SS", "NG", "J", "C", "K", "T", "P", "H"]

/-- The index of the longest of the sounds with which a text begins, and the rest of the text. -/
def takeSound (sounds : List String) (text : List Char) : Option (Nat × List Char) :=
  let fitting := (sounds.zipIdx).filter fun (sound, _) ↦ sound.toList.isPrefixOf text
  let longest := fitting.foldl (fun best entry ↦
    match best with
    | some (sound, _) => if (sound : String).length < entry.1.length then some entry else best
    | none => some entry) (none : Option (String × Nat))
  longest.map fun (sound, i) ↦ (i, text.drop sound.length)

/-- The Hangul syllable with a name. -/
def syllableNamed? (name : List Char) : Option Nat := do
  let sounds ← behind? "HANGUL SYLLABLE " name
  let (leading, rest) ← takeSound leadingSounds sounds
  let (vowel, rest) ← takeSound vowelSounds rest
  let (trailing, rest) ← takeSound trailingSounds rest
  if rest.isEmpty then some (0xac00 + (leading * 21 + vowel) * 28 + trailing) else none

/-! ## All names -/

/-- The letters of a name, where only those from a to z have another case. -/
def upperAscii (name : List Char) : List Char :=
  name.map Char.toUpper

/-- The code point of the character with a name, in which lower and upper case are not told apart
unless the name follows the rule of the unified ideographs or of the Hangul syllables. -/
def charNamed? (name : List Char) : Option Nat :=
  let upper := upperAscii name
  let text := String.ofList upper
  (ideographNamed? name).or
    ((syllableNamed? name).or
      ((codedNamed? upper).or
        ((nameAliases.lookup text).or
          (nameRuns.findSome? (·.find? (wordsOf text))))))

end TagTree.Text
