import TagTree.Text.Blank
import TagTree.Text.Digit
import TagTree.Text.Word

/-!
# Search patterns

Regular expressions and what it means to find one in a text. An expression is given meaning by the
places where a match begun at a given place can end, in the order in which they are preferred; a
place is the number of characters before it. A text contains a match if some place has an end.

Back-references never match and case-insensitive patterns are matched as they are written: both can
be read and shown, and take no part in searches.
-/

namespace TagTree.Pattern

/-- A class of characters with a name. -/
inductive Category
  | digit
  | space
  | word
  deriving DecidableEq, Repr

/-- An element of a set of characters; characters are given by their code points. -/
inductive SetItem
  | char (n : Nat)
  | range (lo hi : Nat)
  | category (negated : Bool) (c : Category)
  deriving DecidableEq, Repr

/-- A condition on a place. -/
inductive Anchor
  | textStart
  | lineStart
  | textEnd
  /-- The end of the text, or just before a line feed that ends it. -/
  | lastLineEnd
  | lineEnd
  | wordBoundary
  | notWordBoundary
  deriving DecidableEq, Repr

/-- Which number of repetitions is preferred. -/
inductive Greed
  | greedy
  | lazy
  /-- The largest possible number, and no other. -/
  | possessive
  deriving DecidableEq, Repr

/-- A regular expression. -/
inductive Regex
  | empty
  | char (n : Nat)
  /-- Any character, or any character but a line feed. -/
  | any (lineFeed : Bool)
  | set (negated : Bool) (items : List SetItem)
  | anchor (a : Anchor)
  | seq (first second : Regex)
  | alt (preferred other : Regex)
  | rep (greed : Greed) (min : Nat) (max : Option Nat) (body : Regex)
  /-- A group, numbered if what it matches is kept. -/
  | group (index : Option Nat) (body : Regex)
  /-- A group of which only the preferred match counts. -/
  | atomic (body : Regex)
  | look (ahead negated : Bool) (width : Nat) (body : Regex)
  | backReference (index : Nat)
  | ifGroup (index : Nat) (yes no : Regex)
  deriving DecidableEq, Repr

def Category.contains (c : Char) : Category → Bool
  | .digit => Text.isDigit c
  | .space => Text.isBlank c
  | .word => Text.isWord c

def SetItem.contains (c : Char) : SetItem → Bool
  | .char n => c.toNat == n
  | .range lo hi => lo ≤ c.toNat && c.toNat ≤ hi
  | .category negated k => k.contains c != negated

/-- Whether the character before a place, if any, is a word character. -/
def wordBefore (text : List Char) : Nat → Bool
  | 0 => false
  | i + 1 => text[i]?.any Text.isWord

/-- Whether the character after a place, if any, is a word character. -/
def wordAfter (text : List Char) (i : Nat) : Bool :=
  text[i]?.any Text.isWord

def lineFeedBefore (text : List Char) : Nat → Bool
  | 0 => false
  | i + 1 => text[i]? == some '\n'

def Anchor.holds (text : List Char) (i : Nat) : Anchor → Bool
  | .textStart => i == 0
  | .lineStart => i == 0 || lineFeedBefore text i
  | .textEnd => i == text.length
  | .lastLineEnd => i == text.length || (i + 1 == text.length && text[i]? == some '\n')
  | .lineEnd => i == text.length || text[i]? == some '\n'
  | .wordBoundary => wordBefore text i != wordAfter text i
  | .notWordBoundary => !text.isEmpty && wordBefore text i == wordAfter text i

/-- The place after the next character, if there is one and it satisfies the condition. -/
def stepIf (text : List Char) (p : Char → Bool) (i : Nat) : List Nat :=
  match text[i]? with
  | some c => if p c then [i + 1] else []
  | none => []

/-- The ends of exactly `n` repetitions. -/
def exactly (ends : Nat → List Nat) : Nat → Nat → List Nat
  | 0, i => [i]
  | n + 1, i => ((ends i).flatMap (exactly ends n)).eraseDups

/-- The ends of at most `n` repetitions, more of them first if `greedy`. After a repetition that
consumes nothing there is no other. -/
def atMost (ends : Nat → List Nat) (greedy : Bool) : Nat → Nat → List Nat
  | 0, i => [i]
  | n + 1, i =>
    let more := (ends i).flatMap fun j ↦ if j = i then [i] else atMost ends greedy n j
    (if greedy then more ++ [i] else i :: more).eraseDups

/-- The ends of a repetition. All but the last of the repetitions beyond the least number consume
something, so there are at most as many as the text has characters, and one more that adds no
end. Of the least number itself more than that many are not different from that many: at least one
of them consumes nothing. -/
def repeated (size : Nat) (ends : Nat → List Nat) (greed : Greed) (min : Nat) (max : Option Nat)
    (i : Nat) : List Nat :=
  let extra :=
    match max with
    | some m => Nat.min (m - min) size
    | none => size
  let least := exactly ends (Nat.min min (size + 1)) i
  let found := (least.flatMap (atMost ends (greed != .lazy) extra)).eraseDups
  if greed = .possessive then found.take 1 else found

/-- The ends of the matches that begin at a place, preferred ones first. -/
def Regex.ends (text : List Char) : Regex → Nat → List Nat
  | .empty, i => [i]
  | .char n, i => stepIf text (·.toNat == n) i
  | .any lineFeed, i => stepIf text (fun c ↦ lineFeed || c != '\n') i
  | .set negated items, i => stepIf text (fun c ↦ items.any (·.contains c) != negated) i
  | .anchor a, i => if a.holds text i then [i] else []
  | .seq r s, i => ((r.ends text i).flatMap (s.ends text)).eraseDups
  | .alt r s, i => (r.ends text i ++ s.ends text i).eraseDups
  | .rep greed min max r, i => repeated text.length (r.ends text) greed min max i
  | .group _ r, i => r.ends text i
  | .atomic r, i => (r.ends text i).take 1
  | .look true negated _ r, i => if (r.ends text i).isEmpty = negated then [i] else []
  | .look false negated width r, i =>
    let found := width ≤ i && (r.ends text (i - width)).contains i
    if found != negated then [i] else []
  | .backReference _, _ => []
  | .ifGroup _ _ no, i => no.ends text i

/-- Whether some match begins somewhere in the text. -/
def Regex.search (r : Regex) (text : List Char) : Bool :=
  (List.range (text.length + 1)).any fun i ↦ !(r.ends text i).isEmpty

end TagTree.Pattern

namespace TagTree

/-- A search pattern, as it was written and as it is matched. -/
structure Pattern where
  source : String
  regex : Pattern.Regex
  /-- The names of the options that hold for the whole pattern. -/
  options : List String := []
  deriving DecidableEq, Repr

/-- Whether the pattern is found in the text. -/
def Pattern.search (p : Pattern) (text : String) : Bool :=
  p.regex.search text.toList

end TagTree
