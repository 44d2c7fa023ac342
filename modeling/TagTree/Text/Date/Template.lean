import TagTree.Text.Date
import TagTree.Text.Utf8

/-!
# Templates for dates

In a template for a date a percent sign begins a field, which a letter ends. Between them may stand
marks for the padding and for the case, a least width, and a letter that asks for another form. A
field that nothing is known about is copied as it stands.
-/

namespace TagTree.Text

/-! ## Reading templates -/

/-- A field of a template. -/
structure DateField where
  /-- The field as it is written. -/
  source : List Char
  /-- The marks behind the percent sign. -/
  marks : List Char
  width : Nat
  /-- The letter that asks for another form. -/
  form : Option Char
  /-- The letter that ends the field; the last field of a template may lack it. -/
  letter : Option Char

/-- A piece of a template. -/
inductive DatePiece
  | char (c : Char)
  | field (f : DateField)

def isDateMark (c : Char) : Bool :=
  c == '_' || c == '-' || c == '0' || c == '^' || c == '#'

/-- Whether a letter asks for another form. -/
def isFormLetter (c : Char) : Bool :=
  c == 'E' || c == 'O'

/-- What follows the letter that asks for another form, if there is one. -/
def afterForm : List Char → List Char
  | [] => []
  | c :: rest => if isFormLetter c then rest else c :: rest

/-- What follows marks, width and form. -/
def afterLayout (cs : List Char) : List Char :=
  afterForm ((cs.dropWhile isDateMark).dropWhile Char.isDigit)

theorem length_afterForm_le (cs : List Char) : (afterForm cs).length ≤ cs.length := by
  cases cs with
  | nil => simp [afterForm]
  | cons c rest =>
    simp only [afterForm]
    split <;> simp

theorem length_afterLayout_le (cs : List Char) : (afterLayout cs).length ≤ cs.length :=
  Nat.le_trans (length_afterForm_le _)
    (Nat.le_trans (List.dropWhile_sublist _).length_le (List.dropWhile_sublist _).length_le)

/-- The field that begins behind a percent sign and takes so many characters. -/
def fieldOf (cs : List Char) (size : Nat) (letter : Option Char) : DateField :=
  let unmarked := cs.dropWhile isDateMark
  let digits := unmarked.takeWhile Char.isDigit
  { source := '%' :: cs.take size
    marks := cs.takeWhile isDateMark
    width := digits.foldl (fun n c ↦ 10 * n + (c.toNat - '0'.toNat)) 0
    form := (unmarked.dropWhile Char.isDigit).head?.filter isFormLetter
    letter }

/-- The pieces of a template. -/
def readDateTemplate (cs : List Char) : List DatePiece :=
  match cs with
  | [] => []
  | c :: rest =>
    if c ≠ '%' then .char c :: readDateTemplate rest
    else
      match h : afterLayout rest with
      | [] => [.field (fieldOf rest rest.length none)]
      | letter :: tail =>
        have : tail.length < rest.length := by
          have := length_afterLayout_le rest
          simp only [h, List.length_cons] at this
          omega
        .field (fieldOf rest (rest.length - tail.length) (some letter)) :: readDateTemplate tail
termination_by cs.length

/-! ## Writing fields -/

namespace DateField

/-- The mark for the padding; the last one counts. -/
def padding (f : DateField) : Option Char :=
  f.marks.reverse.find? fun c ↦ c == '_' || c == '-' || c == '0'

def isUpper (f : DateField) : Bool :=
  f.marks.contains '^'

/-- Whether the case is to be changed. -/
def isChanged (f : DateField) : Bool :=
  f.marks.contains '#'

/-- A text with a filling in front up to a width. -/
def filled (filling : Char) (width : Nat) (text : List Char) : List Char :=
  List.replicate (width - text.length) filling ++ text

/-- A text up to the width of a field. -/
def pad (f : DateField) (text : List Char) : List Char :=
  filled (if f.padding = some '0' then '0' else ' ') f.width text

/-- A text in the case that a field asks for, up to its width. -/
def text (f : DateField) (upper lower : Bool) (text : List Char) : List Char :=
  f.pad <|
    if lower then text.map Char.toLower
    else if upper || f.isUpper then text.map Char.toUpper
    else text

/-- A number with at least so many digits, filled up with zeros behind its sign unless the field
says otherwise. -/
def number (f : DateField) (digits : Nat) (n : Int) (padding : Option Char := f.padding) :
    List Char :=
  let size := max digits f.width
  let plain := (toString n).toList
  match padding with
  | some '-' => filled ' ' f.width plain
  | some '_' => filled ' ' size plain
  | _ =>
    if n < 0 then '-' :: filled '0' (size - 1) (toString n.natAbs).toList
    else filled '0' size plain

/-- A number that is filled up with blanks unless the field says otherwise. -/
def blankNumber (f : DateField) (digits : Nat) (n : Int) : List Char :=
  f.number digits n (some (f.padding.getD '_'))

end DateField

/-- What a field stands for. -/
inductive DatePart
  /-- A number with at least so many digits. -/
  | number (digits : Nat) (n : Int)
  /-- A number with blanks in front. -/
  | blankNumber (digits : Nat) (n : Int)
  /-- A number that is padded like a text. -/
  | count (n : Int)
  /-- A name, which is written in capitals where the case is to be changed. -/
  | name (s : String)
  /-- An abbreviation in capitals, which is written small where the case is to be changed. -/
  | abbreviation (s : String)
  | small (s : String)
  | char (c : Char)
  /-- The distance from the standard time, which is none. -/
  | offset
  /-- What another template gives. -/
  | composed (template : String)

/-- The letters that cannot be asked for in an era's form. -/
def withoutEraForm : List Char :=
  "aAbBhdDeFgGHIjklmMSUVwW%".toList

/-- The letters that cannot be asked for with another kind of digits. -/
def withoutDigitForm : List Char :=
  "aAcDFxXY%".toList

/-- Whether a letter can be asked for in a form. -/
def allowsForm (letter : Char) : Option Char → Bool
  | none => true
  | some form => !(if form = 'E' then withoutEraForm else withoutDigitForm).contains letter

/-- What a letter stands for. -/
def Date.part? (d : Date) (letter : Char) : Option DatePart :=
  match letter with
  | 'Y' => some (.number 1 d.year)
  | 'y' => some (.number 2 (d.year % 100))
  | 'C' => some (.number 1 (d.year.fdiv 100))
  | 'm' => some (.number 2 d.month)
  | 'd' => some (.number 2 d.day)
  | 'H' => some (.number 2 d.hour)
  | 'I' => some (.number 2 d.clockHour)
  | 'M' => some (.number 2 d.minute)
  | 'S' => some (.number 2 d.second)
  | 'j' => some (.number 3 (d.yearDay + 1))
  | 'w' => some (.number 1 d.weekday)
  | 'u' => some (.number 1 ((d.weekday + 6) % 7 + 1 : Nat))
  | 'U' => some (.number 2 (d.week 0))
  | 'W' => some (.number 2 (d.week 1))
  | 'V' => some (.number 2 d.calendarWeek.2)
  | 'G' => some (.number 1 d.calendarWeek.1)
  | 'g' => some (.number 2 (d.calendarWeek.1 % 100))
  | 'e' => some (.blankNumber 2 d.day)
  | 'k' => some (.blankNumber 2 d.hour)
  | 'l' => some (.blankNumber 2 d.clockHour)
  | 's' => some (.count d.moment)
  | 'a' => some (.name (shortened (nameAt weekdayNames d.weekday)))
  | 'A' => some (.name (nameAt weekdayNames d.weekday))
  | 'b' | 'h' => some (.name (shortened (nameAt monthNames (d.month - 1))))
  | 'B' => some (.name (nameAt monthNames (d.month - 1)))
  | 'p' => some (.abbreviation (if d.hour < 12 then "AM" else "PM"))
  | 'P' => some (.small (if d.hour < 12 then "am" else "pm"))
  | 'Z' => some (.abbreviation "UTC")
  | 'z' => some .offset
  | 'n' => some (.char '\n')
  | 't' => some (.char '\t')
  | '%' => some (.char '%')
  | 'F' => some (.composed "%Y-%m-%d")
  | 'T' | 'X' => some (.composed "%H:%M:%S")
  | 'R' => some (.composed "%H:%M")
  | 'D' | 'x' => some (.composed "%m/%d/%y")
  | 'c' => some (.composed "%a %b %e %H:%M:%S %Y")
  | 'r' => some (.composed "%I:%M:%S %p")
  | _ => none

/-- A part as a field writes it; `compose` fills in other templates. -/
def DateField.write (f : DateField) (compose : String → List Char) : DatePart → List Char
  | .number digits n => f.number digits n
  | .blankNumber digits n => f.blankNumber digits n
  | .count n => f.pad (toString n).toList
  | .name s => f.text f.isChanged false s.toList
  | .abbreviation s => f.text false f.isChanged s.toList
  | .small s => f.text false true s.toList
  | .char c => f.pad [c]
  | .offset => f.pad ['+'] ++ f.number 4 0
  | .composed template => f.text false false (compose template)

/-- The text of a field. A percent sign that cannot be asked for in a form stands for itself, and the
short name of a month is copied in capitals where its case is to be changed. -/
def Date.field (d : Date) (compose : String → List Char) (f : DateField) : List Char :=
  match f.letter with
  | none => f.text false false f.source
  | some letter =>
    if allowsForm letter f.form then
      match d.part? letter with
      | some part => f.write compose part
      | none => f.text false false f.source
    else
      let isMonth := letter = 'b' || letter = 'h'
      f.text (f.isChanged && isMonth) false (if letter = '%' then ['%'] else f.source)

/-- What the pieces of a template give. -/
def Date.fill (d : Date) (compose : String → List Char) (pieces : List DatePiece) : List Char :=
  pieces.flatMap fun
    | .char c => [c]
    | .field f => d.field compose f

/-- What a template without composed fields gives. -/
def Date.fillPlain (d : Date) (template : String) : List Char :=
  d.fill String.toList (readDateTemplate template.toList)

/-! ## Filling in -/

def DatePiece.width : DatePiece → Nat
  | .char _ => 1
  | .field f => f.width

/-- The room for a text by a template of the given size: at least so much for each character of the
template, and a power of two times a least room. -/
def roomFor : Nat → Nat → Nat → Nat
  | 0, room, _ => room
  | fuel + 1, room, needed => if needed ≤ room then room else roomFor fuel (2 * room) needed

/-- Fills in a template. A text for which there is not enough room is empty. -/
def Date.format (d : Date) (template : String) : String :=
  let pieces := readDateTemplate template.toList
  let size := 256 * template.utf8ByteSize
  let room := roomFor size 1024 size
  if room ≤ pieces.foldl (fun width piece ↦ width + piece.width) 0 then ""
  else
    let text := String.ofList (d.fill d.fillPlain pieces)
    if room ≤ text.utf8ByteSize then "" else text

end TagTree.Text
