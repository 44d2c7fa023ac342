import TagTree.Pattern.Glob

/-!
# Matcher expressions

A matcher expression is a comma-separated list of items, with spaces allowed around them. An item is
a type name, a glob (a name with a star, a question mark or an opening bracket), or a search pattern
between slashes, in which a slash is written with a backslash in front of it.
-/

namespace TagTree.Matcher

/-- The kinds of words in an expression. -/
inductive Terminal
  | pattern
  | typeName
  | comma
  | finish
  deriving DecidableEq, Repr

/-- A word that stands where it must not, or a character with which no word begins. -/
inductive Mismatch
  | word (terminal : Terminal) (text : List Char) (place : Text.Place) (expected : List Terminal)
  | char (c : Char) (place : Text.Place) (expected : List Terminal)
  deriving DecidableEq, Repr

/-- An item as it is written; a pattern without its slashes. -/
inductive Item
  | name (cs : List Char)
  | pattern (body : List Char)
  deriving DecidableEq, Repr

/-! ## Words -/

/-- The characters allowed around items. -/
def isGap (c : Char) : Bool :=
  c == ' ' || c == '\t' || c == '\x0c' || c == '\r' || c == '\n'

/-- The characters of type names. -/
def isNameChar (c : Char) : Bool :=
  !Text.isBlank c && c != ',' && c != '/'

/-- The body of a pattern, from behind its opening slash, and what follows its closing slash. A
backslash takes the next character along, which cannot be a line feed. -/
def patternBody? : List Char → Option (List Char × List Char)
  | [] => none
  | '/' :: rest => some ([], rest)
  | '\\' :: c :: rest =>
    if c = '\n' then none
    else (patternBody? rest).map fun (body, tail) ↦ ('\\' :: c :: body, tail)
  | c :: rest =>
    if c = '\\' then none else (patternBody? rest).map fun (body, tail) ↦ (c :: body, tail)

/-- A word at the start of a text that does not begin with a gap: its kind, its characters and what
follows it. -/
def word? (cs : List Char) : Option (Terminal × List Char × List Char) :=
  match cs with
  | [] => none
  | ',' :: rest => some (.comma, [','], rest)
  | '/' :: rest =>
    match patternBody? rest with
    | some ([], _) => none
    | some (body, tail) => some (.pattern, '/' :: body ++ ['/'], tail)
    | none => none
  | c :: _ =>
    if isNameChar c then some (.typeName, cs.takeWhile isNameChar, cs.dropWhile isNameChar)
    else none

/-! ## Items -/

/-- The item of a word that is one. -/
def itemOf (terminal : Terminal) (text : List Char) : Item :=
  match terminal with
  | .pattern => .pattern (text.drop 1).dropLast
  | _ => .name text

/-- The place at the end of a piece of text that begins at a place. -/
def placeBehind (place : Text.Place) (cs : List Char) : Text.Place :=
  cs.foldl Text.Place.next place

/-- Where the reader stands. -/
structure Cursor where
  place : Text.Place
  /-- Where the last word began. -/
  last : Text.Place
  rest : List Char

/-- Passes over the gap at the cursor. -/
def Cursor.skipGap (cursor : Cursor) : Cursor :=
  { cursor with
    place := placeBehind cursor.place (cursor.rest.takeWhile isGap)
    rest := cursor.rest.dropWhile isGap }

/-- Passes over a word at the cursor. -/
def Cursor.skipWord (cursor : Cursor) (text rest : List Char) : Cursor :=
  { place := placeBehind cursor.place text, last := cursor.place, rest }

/-- The refusal of whatever stands at the cursor. -/
def Cursor.refuse (cursor : Cursor) (expected : List Terminal) : Mismatch :=
  match cursor.rest with
  | [] => .word .finish [] cursor.last expected
  | c :: _ =>
    match word? cursor.rest with
    | some (terminal, text, _) => .word terminal text cursor.place expected
    | none => .char c cursor.place expected

mutual

/-- Reads an item and all that follows it. -/
def itemsFrom : Nat → Cursor → Except Mismatch (List Item)
  | 0, cursor => .error (cursor.refuse [.pattern, .typeName])
  | fuel + 1, cursor =>
    let cursor := cursor.skipGap
    match word? cursor.rest with
    | some (.pattern, text, rest) => do
      let items ← moreItems fuel (cursor.skipWord text rest)
      return itemOf .pattern text :: items
    | some (.typeName, text, rest) => do
      let items ← moreItems fuel (cursor.skipWord text rest)
      return itemOf .typeName text :: items
    | _ => .error (cursor.refuse [.pattern, .typeName])

/-- Reads what follows an item: nothing, or a comma and more items. -/
def moreItems : Nat → Cursor → Except Mismatch (List Item)
  | 0, cursor => .error (cursor.refuse [.comma])
  | fuel + 1, cursor =>
    let cursor := cursor.skipGap
    match word? cursor.rest with
    | some (.comma, text, rest) => itemsFrom fuel (cursor.skipWord text rest)
    | _ =>
      match cursor.rest with
      | [] => .ok []
      | _ => .error (cursor.refuse [.comma])

end

/-- The items of an expression. Each word takes at least one character, so their number is
bounded by the length of the expression. -/
def items (expression : List Char) : Except Mismatch (List Item) :=
  itemsFrom (expression.length + 2) ⟨⟨1, 1⟩, ⟨1, 1⟩, expression⟩

/-! ## Meaning -/

/-- What a type name is compared with. -/
inductive Leaf
  | text (s : String)
  | pattern (p : Pattern)
  deriving DecidableEq, Repr

/-- Why an expression denotes no matcher. -/
inductive Failure
  | mismatch (m : Mismatch)
  /-- The pattern in an item has a flaw. -/
  | malformed (body : List Char) (source : List Char) (flaw : Pattern.Flaw) (position : Option Nat)
  /-- The pattern in an item asks for too much. -/
  | refused (reason : Pattern.Failure)
  deriving DecidableEq, Repr

/-- A slash in a pattern loses the backslash before it. -/
def unescapeSlashes : List Char → List Char
  | '\\' :: '/' :: rest => '/' :: unescapeSlashes rest
  | c :: rest => c :: unescapeSlashes rest
  | [] => []

def isGlobChar (c : Char) : Bool :=
  c == '*' || c == '?' || c == '['

/-- What an item denotes. -/
def Item.leaf : Item → Except Failure Leaf
  | .name cs =>
    if cs.any isGlobChar then .ok (.pattern (Glob.toPattern (String.ofList cs)))
    else .ok (.text (String.ofList cs))
  | .pattern body =>
    let source := unescapeSlashes body
    match Pattern.compile (String.ofList source) with
    | .ok p => .ok (.pattern p)
    | .error (.malformed flaw position) => .error (.malformed body source flaw position)
    | .error reason => .error (.refused reason)

/-- The leaves that an expression denotes, in order; there is at least one. -/
def parse (expression : String) : Except Failure (List Leaf) :=
  match items expression.toList with
  | .ok found => found.mapM Item.leaf
  | .error m => .error (.mismatch m)

end TagTree.Matcher
