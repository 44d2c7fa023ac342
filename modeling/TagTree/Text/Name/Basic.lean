/-!
# Runs of named characters

Characters with consecutive code points often have names that begin or end alike, or that count, so
names are kept in runs and each is written relative to the one before it: how many words it shares
with that one at the beginning and at the end, and the words between.
-/

namespace TagTree.Text

/-- Consecutive code points and their names, set apart by semicolons or line feeds. Each name is a
digit that tells how many words at its beginning are those of the name before it, which is left out
where it is the digit written last, then, if words at its end are, a small letter for their number,
and then the other words, of which the most frequent are abbreviated. A plus sign and a number stand
for so many names that go on counting. -/
structure NameRun where
  first : Nat
  names : String

/-- The words of a text. -/
def wordsOf (text : String) : List String :=
  text.splitOn " "

/-- The signs that stand for the most frequent words. -/
def abbreviations : List (String × String) :=
  [(".", "LETTER"), ("^", "CAPITAL"), ("_", "SMALL"), ("&", "WITH"), ("$", "SIGN"), (">", "RIGHT"),
   ("<", "LEFT"), ("~", "RIGHTWARDS"), ("|", "LEFTWARDS"), ("=", "DOUBLE"), ("*", "ABOVE"),
   ("%", "THREE"), ("!", "VERTICAL"), ("]", "HORIZONTAL"), ("?", "AND"), ("@", "DOWNWARDS"),
   (":", "ARROW"), (",", "BLACK"), ("(", "ISOLATED"), (")", "FINAL"), ("[", "WEST-CREE")]

/-- The words of a text in which words may be abbreviated. -/
def fullWords (text : String) : List String :=
  (wordsOf text).map fun word ↦ (abbreviations.lookup word).getD word

/-- The number that a digit stands for, if a text begins with one, and what follows it. -/
def sharedStart (last : Nat) (text : List Char) : Nat × List Char :=
  match text with
  | c :: rest => if c.isDigit then (c.toNat - '0'.toNat, rest) else (last, text)
  | [] => (last, [])

/-- The number that a small letter stands for, if a text begins with one, and what follows it. -/
def sharedEnd (text : List Char) : Nat × List Char :=
  match text with
  | c :: rest => if c.isLower then (c.toNat - 'a'.toNat + 1, rest) else (0, text)
  | [] => (0, [])

/-- The next number or letter at the end of a word, whose last character comes first. -/
def countUp : List Char → List Char
  | '9' :: d :: rest => if d.isDigit then '0' :: countUp (d :: rest) else '0' :: '1' :: d :: rest
  | ['9'] => ['0', '1']
  | c :: rest => Char.ofNat (c.toNat + 1) :: rest
  | [] => []

/-- The words of the name that goes on counting. -/
def nextName (words : List String) : List String :=
  match words.getLast? with
  | some word => words.dropLast ++ [String.ofList (countUp word.toList.reverse).reverse]
  | none => []

/-- So many names that go on counting. -/
def countOn : Nat → List String → List (List String)
  | 0, _ => []
  | n + 1, previous => nextName previous :: countOn n (nextName previous)

/-- The words of all names in a run, behind a name that shared so many words. -/
def namesFrom : Nat → List String → List String → List (List String)
  | _, _, [] => []
  | last, previous, entry :: rest =>
    match entry.toList with
    | '+' :: digits =>
      let number := digits.foldl (fun n d ↦ 10 * n + (d.toNat - '0'.toNat)) 0
      let counted := countOn number previous
      counted ++ namesFrom last (counted.getLast?.getD previous) rest
    | entry =>
      let (atStart, text) := sharedStart last entry
      let (atEnd, between) := sharedEnd text
      let name := previous.take atStart ++ fullWords (String.ofList between) ++
        previous.drop (previous.length - atEnd)
      name :: namesFrom atStart name rest

/-- The code point of a name in a run. -/
def NameRun.find? (run : NameRun) (wanted : List String) : Option Nat :=
  let entries := (run.names.splitOn "\n").flatMap (·.splitOn ";")
  ((namesFrom 0 [] entries).idxOf? wanted).map (run.first + ·)

end TagTree.Text
