import TagTree.Pattern.Reader

/-!
# Globs

File-name style patterns: a star stands for any run of characters, a question mark for one
character, and brackets for one character of a set. A glob matches a text as a whole. It is turned
into a search pattern, of which both the written form and the expression are built here piece by
piece, so every text is a glob.
-/

namespace TagTree.Glob

open Pattern (Regex SetItem)

/-- What stands between brackets: characters, and hyphens that make ranges. -/
inductive ClassToken
  | char (c : Char)
  | hyphen
  deriving DecidableEq, Repr

/-- A piece of a glob. -/
inductive Piece
  | star
  | one
  | char (c : Char)
  | set (negated : Bool) (tokens : List ClassToken)
  /-- A set without elements. -/
  | never
  deriving DecidableEq, Repr

/-! ## Reading -/

/-- The text between brackets, from behind the opening one, and what follows the closing one. A
closing bracket in front is an element, as is one behind a leading exclamation mark. -/
def bracketed? (cs : List Char) : Option (List Char × List Char) :=
  let lead :=
    match cs with
    | '!' :: ']' :: _ => 2
    | '!' :: _ => 1
    | ']' :: _ => 1
    | _ => 0
  let inner := cs.take lead ++ (cs.drop lead).takeWhile (· != ']')
  match (cs.drop lead).dropWhile (· != ']') with
  | _ :: rest => some (inner, rest)
  | [] => none

/-- Cuts the text between brackets at the hyphens that make ranges. The first `skip` characters
are not looked at, since a range needs a character before its hyphen. -/
def chunksFrom : Nat → Nat → List Char → List (List Char)
  | 0, _, cs => [cs]
  | fuel + 1, skip, cs =>
    match (cs.drop skip).dropWhile (· != '-') with
    | [] => [cs]
    | _ :: rest => cs.take (cs.length - rest.length - 1) :: chunksFrom fuel 2 rest

/-- A hyphen at the end belongs to the chunk before it. -/
def closeChunks (chunks : List (List Char)) : List (List Char) :=
  match chunks.reverse with
  | [] :: chunk :: earlier => ((chunk ++ ['-']) :: earlier).reverse
  | _ => chunks

/-- Whether the range from the end of one chunk to the start of the next is empty. -/
def emptyRange (left right : List Char) : Bool :=
  match left.getLast?, right.head? with
  | some a, some b => b < a
  | _, _ => false

/-- Joins chunks around empty ranges, which contribute nothing, from the right. -/
def dropEmptyRanges (chunks : List (List Char)) : List (List Char) :=
  chunks.foldr
    (fun chunk later ↦
      match later with
      | next :: rest =>
        if emptyRange chunk next then (chunk.dropLast ++ next.tail) :: rest
        else chunk :: next :: rest
      | [] => [chunk])
    []

/-- The tokens of the text between brackets. -/
def classTokens (inner : List Char) : List ClassToken :=
  let skip := if inner.head? = some '!' then 2 else 1
  let chunks := dropEmptyRanges (closeChunks (chunksFrom inner.length skip inner))
  (chunks.map fun chunk ↦ chunk.map ClassToken.char).intersperse [.hyphen] |>.flatten

/-- The piece for the text between brackets. -/
def setPiece (inner : List Char) : Piece :=
  match classTokens inner with
  | [] => .never
  | [.char '!'] => .one
  | .char '!' :: tokens => .set true tokens
  | tokens => .set false tokens

/-- The pieces of a glob; neighbouring stars are one. -/
def piecesFrom : Nat → List Char → List Piece
  | 0, _ => []
  | _ + 1, [] => []
  | fuel + 1, c :: rest =>
    if c = '*' then
      match piecesFrom fuel rest with
      | .star :: more => .star :: more
      | more => .star :: more
    else if c = '?' then .one :: piecesFrom fuel rest
    else if c = '[' then
      match bracketed? rest with
      | some (inner, rest) => setPiece inner :: piecesFrom fuel rest
      | none => .char '[' :: piecesFrom fuel rest
    else .char c :: piecesFrom fuel rest

/-- The pieces of a glob. -/
def pieces (glob : List Char) : List Piece :=
  piecesFrom glob.length glob

/-- The pieces between the stars. -/
def segments : List Piece → List (List Piece)
  | [] => [[]]
  | .star :: rest => [] :: segments rest
  | piece :: rest =>
    match segments rest with
    | first :: more => (piece :: first) :: more
    | [] => [[piece]]

/-! ## Written form -/

/-- The characters that are written with a backslash in front. -/
def isSpecial (c : Char) : Bool :=
  "()[]\x7b\x7d?*+-|^$\\.&~# \t\n\r\x0b\x0c".toList.contains c

def ClassToken.source : ClassToken → List Char
  | .char c => if c ∈ ['\\', '-', '&', '~', '|'] then ['\\', c] else [c]
  | .hyphen => ['-']

def Piece.source : Piece → List Char
  | .star => ['.', '*']
  | .one => ['.']
  | .char c => if isSpecial c then ['\\', c] else [c]
  | .never => ['(', '?', '!', ')']
  | .set negated tokens =>
    let lead :=
      if negated then ['^']
      else if tokens.head? ∈ [some (.char '^'), some (.char '[')] then ['\\']
      else []
    '[' :: lead ++ tokens.flatMap ClassToken.source ++ [']']

def segmentSource (segment : List Piece) : List Char :=
  segment.flatMap Piece.source

/-- The segments behind the stars. All stars but the last are matched without second thoughts, with
as few characters as possible. -/
def starSource : List (List Piece) → List Char
  | [] => []
  | [last] => ".*".toList ++ segmentSource last
  | segment :: rest =>
    "(?>.*?".toList ++ segmentSource segment ++ [')'] ++ starSource rest

/-- The search pattern of a glob, as text. -/
def source (glob : List Char) : List Char :=
  match segments (pieces glob) with
  | first :: rest => "\\A(?s:".toList ++ segmentSource first ++ starSource rest ++ ")\\Z".toList
  | [] => []

/-! ## Expression -/

/-- The elements that the tokens denote; a hyphen without a character on each side is a character
itself. -/
def setItems : List ClassToken → List SetItem
  | [] => []
  | .char a :: .hyphen :: .char b :: rest => .range a.toNat b.toNat :: setItems rest
  | .char a :: rest => .char a.toNat :: setItems rest
  | .hyphen :: rest => .char '-'.toNat :: setItems rest

def Piece.regex : Piece → Regex
  | .star => .rep .greedy 0 none (.any true)
  | .one => .any true
  | .char c => .char c.toNat
  | .never => .look true true 0 .empty
  | .set negated tokens => .set negated (setItems tokens)

def segmentRegex (segment : List Piece) : Regex :=
  Regex.sequence (segment.map Piece.regex)

def starRegex : List (List Piece) → Regex
  | [] => .empty
  | [last] => .seq (.rep .greedy 0 none (.any true)) (segmentRegex last)
  | segment :: rest =>
    .seq (.atomic (.seq (.rep .lazy 0 none (.any true)) (segmentRegex segment))) (starRegex rest)

/-- The search expression of a glob. -/
def regex (glob : List Char) : Regex :=
  match segments (pieces glob) with
  | first :: rest =>
    .seq (.anchor .textStart)
      (.seq (.group none (.seq (segmentRegex first) (starRegex rest))) (.anchor .textEnd))
  | [] => .empty

/-- The pattern that finds exactly the texts a glob matches. -/
def toPattern (glob : String) : Pattern :=
  { source := String.ofList (source glob.toList), regex := regex glob.toList }

end TagTree.Glob
