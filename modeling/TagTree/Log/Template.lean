import TagTree.Decimal.Rounded
import TagTree.Display
import TagTree.Number
import TagTree.Pattern.Reader

/-!
# Message templates

A template is a text in which a percent sign begins a field: where its value comes from, how wide it
is and how the value is written. Values come from a list, one after the other, or by name. A
template is filled in from left to right and the first thing that is wrong counts.
-/

namespace TagTree.Template

/-! ## Values for fields -/

/-- The values that are left for fields. -/
structure Supply where
  /-- The values that unnamed fields use up. -/
  values : List Value
  /-- The values that named fields ask for, if names are allowed. -/
  find? : Option (Value → Option Value) := none

/-- Values in order. -/
def Supply.positional (values : List Value) : Supply :=
  { values }

/-- Values by name. An unnamed field in front of all named ones gets the whole. -/
def Supply.named (whole : List Value) (find : Value → Option Value) : Supply :=
  { values := whole, find? := some find }

/-- The next value, and what is left then. -/
def Supply.next (s : Supply) : Except Fault (Value × Supply) :=
  match s.values with
  | v :: rest => .ok (v, { s with values := rest })
  | [] => .error .unsupported

/-- The supply for a field with a name: one value, and none for fields behind it. -/
def Supply.select (s : Supply) (name : String) : Except Fault Supply :=
  match s.find? with
  | none => .error .unsupported
  | some find =>
    match find (.str name) with
    | some v => .ok { s with values := [v] }
    | none => .error (.missingKey (Text.quote name))

/-! ## Reading fields -/

/-- How a field is written. -/
structure Field where
  left : Bool := false
  sign : Bool := false
  blank : Bool := false
  zero : Bool := false
  /-- Marks the base of a number or keeps its point. -/
  marked : Bool := false
  width : Nat := 0
  precision : Option Nat := none
  deriving Repr

/-- The name in parentheses at the start of a field, with balanced parentheses inside. -/
def readName : Nat → List Char → Option (List Char × List Char)
  | _, [] => none
  | depth, c :: rest =>
    if c = ')' ∧ depth = 0 then some ([], rest)
    else
      let depth := if c = '(' then depth + 1 else if c = ')' then depth - 1 else depth
      (readName depth rest).map fun (name, tail) ↦ (c :: name, tail)

def isFlag (c : Char) : Bool :=
  c == '-' || c == '+' || c == ' ' || c == '0' || c == '#'

/-- Selects the value of a field that begins with a name. -/
def selectNamed (s : Supply) (cs : List Char) : Except Fault (Supply × List Char) := do
  match cs with
  | '(' :: rest =>
    if s.find?.isNone then .error .unsupported
    match readName 0 rest with
    | none => .error (.template .unclosedName)
    | some (name, tail) => return (← s.select (String.ofList name), tail)
  | _ => return (s, cs)

/-- A whole number that a field takes from its values: from `-limit - 1` to `limit`. -/
def nextCount (s : Supply) (limit : Nat) (flaw : TemplateFlaw) :
    Except Fault (Int × Supply) := do
  let (v, s) ← s.next
  match v.toInt? with
  | none => .error .unsupported
  | some n =>
    if -(limit : Int) - 1 ≤ n ∧ n ≤ limit then return (n, s) else .error (.template flaw)

/-- The greatest width that can be asked for. -/
def greatestWidth : Nat := Nat.pow 2 63 - 1

/-- The greatest width for which there is room. -/
def roomyWidth : Nat := Nat.pow 2 36

/-- The greatest precision that can be asked for. -/
def greatestPrecision : Nat := Nat.pow 2 31 - 1

/-- The greatest number of digits of a whole number. -/
def greatestDigits : Nat := Nat.pow 2 31 - 4

/-- The number at the start of a text, at most `limit`, and what follows it. -/
def readCount (cs : List Char) (limit : Nat) (flaw : TemplateFlaw) :
    Except Fault (Nat × List Char) :=
  let n := Pattern.numberValue 10 (cs.takeWhile Pattern.isDecimal)
  if n ≤ limit then .ok (n, cs.dropWhile Pattern.isDecimal) else .error (.template flaw)

/-- The width of a field: a number, or a star in place of one. -/
def readWidth (f : Field) (s : Supply) (cs : List Char) :
    Except Fault (Field × Supply × List Char) := do
  match cs with
  | '*' :: rest =>
    let (n, s) ← nextCount s greatestWidth .widthOutOfRange
    -- The least number has no opposite and stands for no width.
    let width := if n.natAbs ≤ greatestWidth then n.natAbs else 0
    return ({ f with width, left := f.left || n < 0 }, s, rest)
  | _ =>
    let (width, rest) ← readCount cs greatestWidth .hugeWidth
    return ({ f with width }, s, rest)

/-- The precision of a field: a number behind a point, or a star in place of one. -/
def readPrecision (f : Field) (s : Supply) (cs : List Char) :
    Except Fault (Field × Supply × List Char) := do
  match cs with
  | '.' :: '*' :: rest =>
    let (n, s) ← nextCount s greatestPrecision .precisionOutOfRange
    return ({ f with precision := some n.toNat }, s, rest)
  | '.' :: rest =>
    let (precision, rest) ← readCount rest greatestPrecision .hugePrecision
    return ({ f with precision := some precision }, s, rest)
  | _ => return (f, s, cs)

/-- A letter for the length of a number has no meaning and is passed over. -/
def skipLength : List Char → List Char
  | 'h' :: rest | 'l' :: rest | 'L' :: rest => rest
  | cs => cs

/-- Whether a text has a field that names its value. The case of the letter that ends it does not
matter, and other characters with one of the letters as a case count too. -/
def hasNamedField (text : String) : Bool :=
  let letters := "[diouxefgcrsaDIOUXEFGCRSA%\u0130\u0131\u017f]"
  match Pattern.compile ("%\\(\\w+\\)[#0+ -]*(\\*|\\d+)?(\\.(\\*|\\d+))?" ++ letters) with
  | .ok p => p.search text
  | .error _ => false

/-! ## Writing values -/

/-- Blanks up to the width of a field. -/
def Field.pad (f : Field) (text : List Char) : String :=
  let blanks := List.replicate (f.width - text.length) ' '
  String.ofList (if f.left then text ++ blanks else blanks ++ text)

/-- A text cut to the precision of a field. -/
def Field.text (f : Field) (text : String) : String :=
  f.pad <|
    match f.precision with
    | some n => text.toList.take n
    | none => text.toList

/-- A number with its sign and the mark of its base, up to the width of a field. -/
def Field.number (f : Field) (negative : Bool) (mark digits : List Char) : String :=
  let sign := if negative then ['-'] else if f.sign then ['+'] else if f.blank then [' '] else []
  let front := sign ++ mark
  let zeros :=
    if f.zero && !f.left then List.replicate (f.width - front.length - digits.length) '0' else []
  f.pad (front ++ zeros ++ digits)

/-- A whole number in a base. -/
def Field.whole (f : Field) (base : Nat) (mark : List Char) (n : Int) : Except Fault String :=
  let digits := Nat.toDigits base n.natAbs
  let least := f.precision.getD 0
  if greatestDigits < least then .error (.template .tooManyDigits)
  else if base = 10 ∧ Text.digitLimit < digits.length then .error (.template .longNumber)
  else
    .ok <| f.number (n < 0) (if f.marked then mark else [])
      (List.replicate (least - digits.length) '0' ++ digits)

/-- The whole part of a number. -/
def wholePart (v : Value) : Except Fault Int :=
  match v with
  | .float x =>
    if x.isNan then .error (.template .notANumber)
    else if x.isInfinite then .error (.template .infinite)
    else
      let n : Nat :=
        match x.scale with
        | .ofNat e => x.significand * Nat.pow 2 e
        | .negSucc e => x.significand / Nat.pow 2 (e + 1)
      .ok (if x.isNegative then -(n : Int) else n)
  | _ =>
    match v.toInt? with
    | some n => .ok n
    | none => .error .unsupported

/-- A number that need not be whole. -/
def Field.float (f : Field) (conversion : Char) (x : Binary64) : String :=
  let precision := f.precision.getD 6
  let digits :=
    if x.isNan then "nan".toList
    else if x.isInfinite then "inf".toList
    else
      let v := Decimal.magnitude x
      match conversion.toLower with
      | 'f' => Decimal.fixed v precision f.marked
      | 'e' => Decimal.scientific v precision f.marked
      | _ => Decimal.general v precision f.marked
  f.number (x.isNegative && !x.isNan) []
    (if conversion.isUpper then digits.map Char.toUpper else digits)

/-- The character that a value stands for. -/
def charOf (v : Value) : Except Fault Char :=
  match v with
  | .str s =>
    match s.toList with
    | [c] => .ok c
    | _ => .error .unsupported
  | _ =>
    match v.toInt? with
    | some n =>
      if 0 ≤ n ∧ n < 0x110000 then .ok (Char.ofNat n.toNat) else .error (.template .noCharacter)
    | none => .error .unsupported

/-- A whole number that is not made from another one. -/
def exactWhole (v : Value) : Except Fault Int :=
  match v.toInt? with
  | some n => .ok n
  | none => .error .unsupported

/-- A value as a field with the given conversion, which stands at an index of the template, writes
it. -/
def Field.write (h : Heap) (f : Field) (conversion : Char) (index : Nat) (v : Value) :
    Except Fault String :=
  match conversion with
  | 's' => do return f.text (← h.text v)
  | 'r' => do return f.text (← h.literal v)
  | 'a' => do return f.text (Text.asciiOnly (← h.literal v))
  | 'd' | 'i' | 'u' => do f.whole 10 [] (← wholePart v)
  | 'o' => do f.whole 8 ['0', 'o'] (← exactWhole v)
  | 'x' => do f.whole 16 ['0', 'x'] (← exactWhole v)
  | 'X' => do return (← f.whole 16 ['0', 'x'] (← exactWhole v)).toUpper
  | 'e' | 'E' | 'f' | 'F' | 'g' | 'G' => do return f.float conversion (← v.toFloating)
  | 'c' => do return f.pad [← charOf v]
  | _ => .error (.template (.unknownConversion conversion index))

/-! ## Filling in -/

/-- The text of a field, from behind its percent sign; `size` is the length of the template. -/
def fillField (h : Heap) (size : Nat) (s : Supply) (cs : List Char) :
    Except Fault (String × Supply × List Char) := do
  if let '%' :: rest := cs then return ("%", s, rest)
  let (s, cs) ← selectNamed s cs
  let flags := cs.takeWhile isFlag
  let f : Field :=
    { left := flags.contains '-'
      sign := flags.contains '+'
      blank := flags.contains ' '
      zero := flags.contains '0'
      marked := flags.contains '#' }
  let (f, s, cs) ← readWidth f s (cs.dropWhile isFlag)
  let (f, s, cs) ← readPrecision f s cs
  match skipLength cs with
  | [] => .error (.template .unfinished)
  | conversion :: rest =>
    let (v, s) ← s.next
    let fits := f.width ≤ roomyWidth
    let text ← { f with width := if fits then f.width else 0 }.write h conversion
      (size - rest.length - 1) v
    if fits then return (text, s, rest) else .error .outOfMemory

/-- Fills in what is left of a template. All values in order have to be used. -/
def fillFrom (h : Heap) (size : Nat) : Nat → Supply → List Char → Except Fault String
  | 0, _, _ => .ok ""
  | _ + 1, s, [] => if s.find?.isNone && !s.values.isEmpty then .error .unsupported else .ok ""
  | fuel + 1, s, c :: rest =>
    if c = '%' then do
      let (text, s, rest) ← fillField h size s rest
      return text ++ (← fillFrom h size fuel s rest)
    else do return String.ofList [c] ++ (← fillFrom h size fuel s rest)

/-- Fills in a template. -/
def fill (h : Heap) (template : String) (s : Supply) : Except Fault String :=
  fillFrom h template.length (template.length + 1) s template.toList

end TagTree.Template
