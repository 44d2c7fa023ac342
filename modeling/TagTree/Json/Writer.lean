import TagTree.Decimal.Shortest
import TagTree.Json.Basic
import TagTree.Text.Quoted

/-!
# Writing JSON

Documents are written either on one line or with one member or item a line.
-/

namespace TagTree.Json

/-- One character of a text. Only what the format requires is escaped. -/
def escapedChar (c : Char) : List Char :=
  if c = '"' then ['\\', '"']
  else if c = '\\' then ['\\', '\\']
  else if c = '\n' then ['\\', 'n']
  else if c = '\r' then ['\\', 'r']
  else if c = '\t' then ['\\', 't']
  else if c = '\x08' then ['\\', 'b']
  else if c = '\x0c' then ['\\', 'f']
  else if c.toNat < 0x20 then '\\' :: 'u' :: Text.hexDigits 4 c.toNat
  else [c]

/-- A text between quotation marks. -/
def writeText (cs : List Char) : List Char :=
  '"' :: cs.flatMap escapedChar ++ ['"']

/-- The text of a number that is not whole; the names of non-finite numbers are accepted by
`readName?`. -/
def writeFloat (x : Binary64) : List Char :=
  if x.isNan then "NaN".toList
  else if x.isInfinite then (if x.isNegative then "-Infinity" else "Infinity").toList
  else (Decimal.render x).toList

mutual

/-- A document on one line. -/
def compact : Json → List Char
  | .null => "null".toList
  | .bool b => (if b then "true" else "false").toList
  | .int n => (toString n).toList
  | .float x => writeFloat x
  | .str s => writeText s.toList
  | .arr items => '[' :: compactItems items ++ [']']
  | .obj members => '\x7b' :: compactMembers members ++ ['\x7d']

def compactItems : List Json → List Char
  | [] => []
  | [item] => item.compact
  | item :: rest => item.compact ++ ',' :: ' ' :: compactItems rest

def compactMembers : List (String × Json) → List Char
  | [] => []
  | [(key, value)] => writeText key.toList ++ ':' :: ' ' :: value.compact
  | (key, value) :: rest =>
    writeText key.toList ++ ':' :: ' ' :: value.compact ++ ',' :: ' ' :: compactMembers rest

end

/-- The line break before something at the given depth. -/
def lineBreak (depth : Nat) : List Char :=
  '\n' :: List.replicate (2 * depth) ' '

mutual

/-- A document with each item and member on a line of its own, two blanks deeper than what holds
it. -/
def indented (depth : Nat) : Json → List Char
  | .arr [] => ['[', ']']
  | .arr items => '[' :: indentedItems (depth + 1) items ++ lineBreak depth ++ [']']
  | .obj [] => ['\x7b', '\x7d']
  | .obj members =>
    '\x7b' :: indentedMembers (depth + 1) members ++ lineBreak depth ++ ['\x7d']
  | .null => "null".toList
  | .bool b => (if b then "true" else "false").toList
  | .int n => (toString n).toList
  | .float x => writeFloat x
  | .str s => writeText s.toList

def indentedItems (depth : Nat) : List Json → List Char
  | [] => []
  | [item] => lineBreak depth ++ item.indented depth
  | item :: rest => lineBreak depth ++ item.indented depth ++ ',' :: indentedItems depth rest

def indentedMembers (depth : Nat) : List (String × Json) → List Char
  | [] => []
  | [(key, value)] =>
    lineBreak depth ++ writeText key.toList ++ ':' :: ' ' :: value.indented depth
  | (key, value) :: rest =>
    lineBreak depth ++ writeText key.toList ++ ':' :: ' ' :: value.indented depth ++
      ',' :: indentedMembers depth rest

end

end TagTree.Json
