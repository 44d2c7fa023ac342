import TagTree.Json.Basic
import TagTree.Text.Line

/-!
# Reading JSON

A reader for JSON documents that reports the first offence with its place. It accepts the three
names for non-finite numbers beside the standard grammar, and lets the last of several members with
one key win.

The functions below work on the characters still to be read; an offence records how many of them
were left when it was met.
-/

namespace TagTree.Json

/-- What is wrong with a document. -/
inductive Offence
  | byteOrderMark
  | value
  | propertyName
  | colon
  | comma
  | extraData
  | unterminatedString
  | escape
  | unicodeEscape
  | controlCharacter
  /-- An integer with more digits than may be converted. -/
  | longInteger (digits : Nat)
  deriving DecidableEq, Repr

/-- An offence, and the number of characters left from where it is reported. -/
structure Stop where
  offence : Offence
  left : Nat
  deriving DecidableEq, Repr

/-- An offence at a character of the document, counted from zero. -/
structure ReadError where
  offence : Offence
  position : Nat
  place : Text.Place
  deriving DecidableEq, Repr

def Offence.message : Offence → String
  | .byteOrderMark => "Unexpected UTF-8 BOM (decode using utf-8-sig)"
  | .value => "Expecting value"
  | .propertyName => "Expecting property name enclosed in double quotes"
  | .colon => "Expecting ':' delimiter"
  | .comma => "Expecting ',' delimiter"
  | .extraData => "Extra data"
  | .unterminatedString => "Unterminated string starting at"
  | .escape => "Invalid \\escape"
  | .unicodeEscape => "Invalid \\uXXXX escape"
  | .controlCharacter => "Invalid control character at"
  | .longInteger digits =>
    "Exceeds the limit (4300 digits) for integer string conversion: value has " ++
      toString digits ++ " digits; use sys.set_int_max_str_digits() to increase the limit"

/-- Whether an offence is one of the grammar, with a place in the document. -/
def Offence.isGrammatical : Offence → Bool
  | .longInteger _ => false
  | _ => true

def ReadError.message (e : ReadError) : String :=
  e.offence.message ++ ": line " ++ toString e.place.line ++ " column " ++
    toString e.place.column ++ " (char " ++ toString e.position ++ ")"

/-- The characters that may stand between tokens. -/
def isSpace (c : Char) : Bool :=
  c == ' ' || c == '\t' || c == '\n' || c == '\r'

def skipSpace (cs : List Char) : List Char :=
  cs.dropWhile isSpace

def stop {α : Type} (offence : Offence) (cs : List Char) : Except Stop α :=
  .error ⟨offence, cs.length⟩

/-! ## Texts -/

def hexValue? (c : Char) : Option Nat :=
  if '0' ≤ c ∧ c ≤ '9' then some (c.toNat - 0x30)
  else if 'a' ≤ c ∧ c ≤ 'f' then some (c.toNat - 0x57)
  else if 'A' ≤ c ∧ c ≤ 'F' then some (c.toNat - 0x37)
  else none

/-- The number written by four hexadecimal digits that do not end the document, and what follows
them. -/
def fourHex? : List Char → Option (Nat × List Char)
  | a :: b :: c :: d :: rest => do
    let a ← hexValue? a
    let b ← hexValue? b
    let c ← hexValue? c
    let d ← hexValue? d
    if rest.isEmpty then none else some (((a * 16 + b) * 16 + c) * 16 + d, rest)
  | _ => none

def isHighSurrogate (n : Nat) : Bool :=
  0xd800 ≤ n && n < 0xdc00

def isLowSurrogate (n : Nat) : Bool :=
  0xdc00 ≤ n && n < 0xe000

/-- The second half of a surrogate pair, if it follows. A pair is looked for only where the whole
escape and one more character are left. -/
def lowSurrogate? (cs : List Char) : Except Stop (Option (Nat × List Char)) :=
  match cs with
  | '\\' :: 'u' :: rest =>
    if rest.length ≤ 4 then .ok none
    else
      match fourHex? rest with
      | some (n, tail) => .ok (if isLowSurrogate n then some (n, tail) else none)
      | none => .error ⟨.unicodeEscape, rest.length + 1⟩
  | _ => .ok none

/-- The character of a one-letter escape. -/
def shortEscape? : Char → Option Char
  | '"' => some '"'
  | '\\' => some '\\'
  | '/' => some '/'
  | 'b' => some '\x08'
  | 'f' => some '\x0c'
  | 'n' => some '\n'
  | 'r' => some '\r'
  | 't' => some '\t'
  | _ => none

/-- Reads the rest of a text whose opening mark had `opening` characters from it on. -/
def readText (opening : Nat) : Nat → List Char → List Char → Except Stop (List Char × List Char)
  | 0, _, _ => .error ⟨.unterminatedString, opening⟩
  | fuel + 1, read, cs =>
    match cs with
    | [] => .error ⟨.unterminatedString, opening⟩
    | '"' :: rest => .ok (read.reverse, rest)
    | '\\' :: 'u' :: rest =>
      match fourHex? rest with
      | none => .error ⟨.unicodeEscape, rest.length + 1⟩
      | some (n, tail) =>
        if isHighSurrogate n then do
          match ← lowSurrogate? tail with
          | some (m, tail) =>
            let joined := 0x10000 + (n - 0xd800) * 0x400 + (m - 0xdc00)
            readText opening fuel (Char.ofNat joined :: read) tail
          | none => readText opening fuel ('\ufffd' :: read) tail
        else if isLowSurrogate n then readText opening fuel ('\ufffd' :: read) tail
        else readText opening fuel (Char.ofNat n :: read) tail
    | '\\' :: c :: rest =>
      match shortEscape? c with
      | some d => readText opening fuel (d :: read) rest
      | none => .error ⟨.escape, rest.length + 2⟩
    | ['\\'] => .error ⟨.unterminatedString, opening⟩
    | c :: rest =>
      if c.toNat < 0x20 then .error ⟨.controlCharacter, cs.length⟩
      else readText opening fuel (c :: read) rest

/-- Reads a text from just behind its opening mark. -/
def readString (cs : List Char) : Except Stop (String × List Char) := do
  let (text, rest) ← readText (cs.length + 1) (cs.length + 1) [] cs
  return (String.ofList text, rest)

/-! ## Numbers -/

def isAsciiDigit (c : Char) : Bool :=
  '0' ≤ c && c ≤ '9'

/-- The number written by decimal digits. -/
def digitsValue (ds : List Char) : Nat :=
  ds.foldl (fun n d ↦ n * 10 + (d.toNat - 0x30)) 0

/-- The whole part of a number: a zero, or digits that do not begin with one. -/
def wholeDigits : List Char → Option (List Char × List Char)
  | '0' :: rest => some (['0'], rest)
  | c :: rest =>
    if '1' ≤ c ∧ c ≤ '9' then
      some (c :: rest.takeWhile isAsciiDigit, rest.dropWhile isAsciiDigit)
    else none
  | [] => none

/-- The digits after a decimal point, if a point with digits stands here. -/
def fractionDigits (cs : List Char) : Option (List Char × List Char) :=
  match cs with
  | '.' :: rest =>
    let digits := rest.takeWhile isAsciiDigit
    if digits.isEmpty then none else some (digits, rest.dropWhile isAsciiDigit)
  | _ => none

/-- The exponent, if a complete one stands here. -/
def exponentPart (cs : List Char) : Option (Int × List Char) :=
  match cs with
  | e :: rest =>
    if e = 'e' ∨ e = 'E' then
      let (negative, rest) :=
        match rest with
        | '-' :: tail => (true, tail)
        | '+' :: tail => (false, tail)
        | _ => (false, rest)
      let digits := rest.takeWhile isAsciiDigit
      if digits.isEmpty then none
      else
        let n : Int := digitsValue digits
        some (if negative then -n else n, rest.dropWhile isAsciiDigit)
    else none
  | [] => none

/-- The longest run of digits that is converted to an integer. -/
def integerDigitLimit : Nat := 4300

/-- Reads a number; the offence of a text that begins with none is reported where it begins. -/
def readNumber (cs : List Char) : Except Stop (Json × List Char) :=
  let (negative, unsigned) :=
    match cs with
    | '-' :: rest => (true, rest)
    | _ => (false, cs)
  match wholeDigits unsigned with
  | none => stop .value cs
  | some (whole, rest) =>
    let (fraction, rest, hasPoint) :=
      match fractionDigits rest with
      | some (digits, tail) => (digits, tail, true)
      | none => ([], rest, false)
    let (exponent, rest, hasExponent) :=
      match exponentPart rest with
      | some (e, tail) => (e, tail, true)
      | none => (0, rest, false)
    if hasPoint || hasExponent then
      let digits := digitsValue (whole ++ fraction)
      .ok (.float (Binary64.ofDecimal negative digits (exponent - fraction.length)), rest)
    else if integerDigitLimit < whole.length then stop (.longInteger whole.length) cs
    else
      let n : Int := digitsValue whole
      .ok (.int (if negative then -n else n), rest)

/-! ## Documents -/

/-- A name that stands for a value, if the document goes on with it. -/
def readName? (cs : List Char) : Option (Json × List Char) :=
  match cs with
  | 'n' :: 'u' :: 'l' :: 'l' :: rest => some (.null, rest)
  | 't' :: 'r' :: 'u' :: 'e' :: rest => some (.bool true, rest)
  | 'f' :: 'a' :: 'l' :: 's' :: 'e' :: rest => some (.bool false, rest)
  | 'N' :: 'a' :: 'N' :: rest => some (.float (Binary64.ofFloat (0.0 / 0.0)), rest)
  | 'I' :: 'n' :: 'f' :: 'i' :: 'n' :: 'i' :: 't' :: 'y' :: rest =>
    some (.float (Binary64.ofFloat (1.0 / 0.0)), rest)
  | '-' :: 'I' :: 'n' :: 'f' :: 'i' :: 'n' :: 'i' :: 't' :: 'y' :: rest =>
    some (.float (Binary64.ofFloat (-1.0 / 0.0)), rest)
  | _ => none

mutual

/-- Reads one value. -/
def readValue : Nat → List Char → Except Stop (Json × List Char)
  | 0, cs => stop .value cs
  | fuel + 1, cs =>
    match cs with
    | '"' :: rest => do
      let (text, rest) ← readString rest
      return (.str text, rest)
    | '[' :: rest =>
      match skipSpace rest with
      | ']' :: tail => .ok (.arr [], tail)
      | inner => do
        let (items, rest) ← readItems fuel inner
        return (.arr items, rest)
    | '{' :: rest =>
      match skipSpace rest with
      | '}' :: tail => .ok (.obj [], tail)
      | inner => do
        let (members, rest) ← readMembers fuel [] inner
        return (.obj members, rest)
    | _ =>
      match readName? cs with
      | some found => .ok found
      | none => readNumber cs

/-- Reads the items of an array up to its end. -/
def readItems : Nat → List Char → Except Stop (List Json × List Char)
  | 0, cs => stop .value cs
  | fuel + 1, cs => do
    let (item, rest) ← readValue fuel cs
    match skipSpace rest with
    | ']' :: tail => return ([item], tail)
    | ',' :: tail =>
      let (items, rest) ← readItems fuel (skipSpace tail)
      return (item :: items, rest)
    | other => stop .comma other

/-- Reads the members of an object up to its end, after those already read. -/
def readMembers : Nat → List (String × Json) → List Char →
    Except Stop (List (String × Json) × List Char)
  | 0, _, cs => stop .propertyName cs
  | fuel + 1, read, cs =>
    match cs with
    | '"' :: rest => do
      let (key, rest) ← readString rest
      match skipSpace rest with
      | ':' :: tail =>
        let (value, rest) ← readValue fuel (skipSpace tail)
        let read := Table.put key value read
        match skipSpace rest with
        | '}' :: tail => return (read, tail)
        | ',' :: tail => readMembers fuel read (skipSpace tail)
        | other => stop .comma other
      | other => stop .colon other
    | _ => stop .propertyName cs

end

/-- Reads a whole document. Every step but the last consumes a character, so twice the length of
the document bounds their number. -/
def readDocument (cs : List Char) : Except Stop Json :=
  match cs with
  | '\ufeff' :: _ => stop .byteOrderMark cs
  | _ => do
    let (value, rest) ← readValue (2 * cs.length + 2) (skipSpace cs)
    match skipSpace rest with
    | [] => return value
    | other => stop .extraData other

/-- Reads a document, with the place of an offence. -/
def parse (cs : List Char) : Except ReadError Json :=
  match readDocument cs with
  | .ok value => .ok value
  | .error s =>
    let position := cs.length - s.left
    .error ⟨s.offence, position, Text.placeAfter (cs.take position)⟩

end TagTree.Json
