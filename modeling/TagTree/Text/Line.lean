/-!
# Lines and columns

Texts read from files have their line ends made uniform, and places in a text are reported by line
and column, both counted from one.
-/

namespace TagTree.Text

/-- Line ends of any convention become a single line feed. -/
def uniformLineEnds : List Char → List Char
  | '\r' :: '\n' :: rest => '\n' :: uniformLineEnds rest
  | '\r' :: rest => '\n' :: uniformLineEnds rest
  | c :: rest => c :: uniformLineEnds rest
  | [] => []

/-- A line and a column. -/
structure Place where
  line : Nat
  column : Nat
  deriving DecidableEq, Repr

/-- The place just after one more character. -/
def Place.next (place : Place) (c : Char) : Place :=
  if c = '\n' then ⟨place.line + 1, 1⟩ else ⟨place.line, place.column + 1⟩

/-- The place just after the given characters of a text. -/
def placeAfter (cs : List Char) : Place :=
  cs.foldl Place.next ⟨1, 1⟩

/-- The pieces of a text between marks; a text without one is a single piece. -/
def pieces (mark : Char) (cs : List Char) : List (List Char) :=
  cs.foldr
    (fun c pieces ↦
      match pieces with
      | piece :: rest => if c = mark then [] :: piece :: rest else (c :: piece) :: rest
      | [] => [[c]])
    [[]]

/-- The pieces between line feeds. -/
def splitLines (cs : List Char) : List (List Char) :=
  pieces '\n' cs

end TagTree.Text
