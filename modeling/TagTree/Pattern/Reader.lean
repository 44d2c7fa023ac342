import TagTree.Pattern.Basic
import TagTree.Pattern.Failure
import TagTree.Text.Identifier
import TagTree.Text.Integer
import TagTree.Text.Name

/-!
# Reading patterns

Turns the written form of a regular expression into an expression, or says what is wrong with it
and where. The text is read with one element of look-ahead, an element being a character or a
backslash together with the character behind it.
-/

namespace TagTree.Pattern

/-- The flags that are in force. -/
structure Flags where
  ignoreCase : Bool := false
  multiline : Bool := false
  dotAll : Bool := false
  verbose : Bool := false
  ascii : Bool := false
  unicode : Bool := false
  template : Bool := false
  deriving DecidableEq, Repr, Inhabited

/-- The state of the reader. -/
structure Scan where
  /-- The length of the pattern. -/
  size : Nat
  rest : List Char
  /-- The number of groups opened so far; the whole pattern is group zero. -/
  groups : Nat := 1
  names : List (List Char × Nat) := []
  /-- The least and greatest width of each closed group. -/
  widths : List (Nat × Nat × Nat) := []
  /-- The number of groups opened before the outermost look-behind being read. -/
  behind : Option Nat := none
  /-- The numbered groups that conditions mention, and where. -/
  conditions : List (Nat × Nat) := []
  flags : Flags := {}
  deriving Inhabited

abbrev Read := StateT Scan (Except Failure)

/-- An element of a pattern: one character, or a backslash and one character. -/
abbrev Element := List Char

namespace Read

/-- The place of the next element. -/
def position : Read Nat := do
  let s ← get
  return s.size - s.rest.length

def failAt {α : Type} (flaw : Flaw) (position : Nat) : Read α :=
  throw (.malformed flaw (some position))

/-- Reports a flaw `back` characters before the next element. -/
def failBack {α : Type} (flaw : Flaw) (back : Nat) : Read α := do
  failAt flaw ((← position) - back)

def peek : Read (Option Element) := do
  match (← get).rest with
  | [] => return none
  | '\\' :: c :: _ => return some ['\\', c]
  | c :: _ => return some [c]

/-- Goes on behind the next element. A backslash that ends the pattern is refused as soon as it
comes into view. -/
def moveTo (rest : List Char) : Read Unit := do
  if rest = ['\\'] then failAt .danglingBackslash ((← get).size - 1)
  modify fun s ↦ { s with rest }

/-- Takes the next element. -/
def next : Read (Option Element) := do
  let e ← peek
  match e with
  | none => return none
  | some e =>
    moveTo ((← get).rest.drop e.length)
    return some e

/-- Takes the next element if it is the given character. -/
def accept (c : Char) : Read Bool := do
  if (← peek) = some [c] then
    let _ ← next
    return true
  else return false

/-- Takes at most `n` elements that are single characters satisfying the condition. -/
def takeUpTo (p : Char → Bool) : Nat → Read (List Char)
  | 0 => return []
  | n + 1 => do
    match ← peek with
    | some [c] =>
      if p c then
        let _ ← next
        return c :: (← takeUpTo p n)
      else return []
    | _ => return []

/-- Takes the elements up to a terminator, which is taken too. -/
def takeName (terminator : Char) (what : String) : Nat → List Char → Read (List Char)
  | 0, read => failBack (.unterminatedName terminator) read.length
  | fuel + 1, read => do
    match ← next with
    | none =>
      if read.isEmpty then failBack (.missingName what) 0
      else failBack (.unterminatedName terminator) read.length
    | some e =>
      if e = [terminator] then
        if read.isEmpty then failBack (.missingName what) 1 else return read
      else takeName terminator what fuel (read ++ e)

end Read

open Read

/-! ## Escapes -/

def isOctal (c : Char) : Bool :=
  '0' ≤ c && c ≤ '7'

def isDecimal (c : Char) : Bool :=
  '0' ≤ c && c ≤ '9'

def isHex (c : Char) : Bool :=
  isDecimal c || ('a' ≤ c && c ≤ 'f') || ('A' ≤ c && c ≤ 'F')

def isAsciiLetter (c : Char) : Bool :=
  ('a' ≤ c && c ≤ 'z') || ('A' ≤ c && c ≤ 'Z')

def digitValue (c : Char) : Nat :=
  if isDecimal c then c.toNat - 0x30
  else if 'a' ≤ c then c.toNat - 0x57
  else c.toNat - 0x37

/-- The number written by the digits in the given base. -/
def numberValue (base : Nat) (ds : List Char) : Nat :=
  ds.foldl (fun n d ↦ n * base + digitValue d) 0

/-- The character of an escape that stands for a control character or the backslash. -/
def controlEscape? : Char → Option Nat
  | 'a' => some 7
  | 'b' => some 8
  | 'f' => some 12
  | 'n' => some 10
  | 'r' => some 13
  | 't' => some 9
  | 'v' => some 11
  | '\\' => some 0x5c
  | _ => none

def categoryEscape? : Char → Option SetItem
  | 'd' => some (.category false .digit)
  | 'D' => some (.category true .digit)
  | 's' => some (.category false .space)
  | 'S' => some (.category true .space)
  | 'w' => some (.category false .word)
  | 'W' => some (.category true .word)
  | _ => none

def anchorEscape? : Char → Option Anchor
  | 'A' => some .textStart
  | 'b' => some .wordBoundary
  | 'B' => some .notWordBoundary
  | 'Z' => some .textEnd
  | _ => none

/-- The number of hexadecimal digits that an escape letter asks for. -/
def hexEscapeWidth? : Char → Option Nat
  | 'x' => some 2
  | 'u' => some 4
  | 'U' => some 8
  | _ => none

/-- A character given by its code point or by its name. -/
def readCodedChar (c : Char) (width : Nat) : Read Nat := do
  let digits ← takeUpTo isHex width
  let escape := '\\' :: c :: digits
  if digits.length < width then failBack (.incompleteEscape escape) escape.length
  let n := numberValue 16 digits
  if 0x10ffff < n then failBack (.badEscape escape) escape.length
  return n

def readNamedChar : Read Nat := do
  if !(← accept '\x7b') then failBack .missingBrace 0
  let name ← takeName '\x7d' "character name" ((← get).rest.length + 1) []
  match Text.charNamed? name with
  | some n => return n
  | none => failBack (.unknownCharacterName name) (name.length + 4)

/-- An escape inside a set of characters, from behind its letter. -/
def readSetEscape (c : Char) : Read SetItem := do
  if let some n := controlEscape? c then return .char n
  if let some item := categoryEscape? c then return item
  if let some width := hexEscapeWidth? c then return .char (← readCodedChar c width)
  if c = 'N' then return .char (← readNamedChar)
  if isOctal c then
    let escape := '\\' :: c :: (← takeUpTo isOctal 2)
    let n := numberValue 8 (escape.drop 1)
    if 0o377 < n then failBack (.octalRange escape) escape.length
    return .char n
  if isDecimal c || isAsciiLetter c then failBack (.badEscape ['\\', c]) 2
  return .char c.toNat

/-- A group may be referred to once it is closed, unless it belongs to the look-behind being
read. -/
def checkBehind (index : Nat) : Read Unit := do
  let s ← get
  if let some opened := s.behind then
    if (s.widths.lookup index).isNone then failBack .openGroup 0
    if opened ≤ index then failBack .groupInLookbehind 0

/-- A reference to an earlier group, or a character given by three octal digits. -/
def readNumberEscape (c : Char) : Read Regex := do
  let second ← takeUpTo isDecimal 1
  let escape := '\\' :: c :: second
  if isOctal c && second.any isOctal then
    let third ← takeUpTo isOctal 1
    if !third.isEmpty then
      let escape := escape ++ third
      let n := numberValue 8 (escape.drop 1)
      if 0o377 < n then failBack (.octalRange escape) escape.length
      return .char n
  let index := numberValue 10 (escape.drop 1)
  let s ← get
  if index < s.groups then
    if (s.widths.lookup index).isNone then failBack .openGroup escape.length
    checkBehind index
    return .backReference index
  failBack (.groupReference index) (escape.length - 1)

/-- An escape outside sets, from behind its letter. -/
def readEscape (c : Char) : Read Regex := do
  if let some a := anchorEscape? c then return .anchor a
  if let some item := categoryEscape? c then return .set false [item]
  if let some n := controlEscape? c then return .char n
  if let some width := hexEscapeWidth? c then return .char (← readCodedChar c width)
  if c = 'N' then return .char (← readNamedChar)
  if c = '0' then return .char (numberValue 8 (← takeUpTo isOctal 2))
  if isDecimal c then return ← readNumberEscape c
  if isAsciiLetter c then failBack (.badEscape ['\\', c]) 2
  return .char c.toNat

/-! ## Sets -/

def readSetElement (e : Element) : Read SetItem :=
  match e with
  | ['\\', c] => readSetEscape c
  | c :: _ => return .char c.toNat
  | [] => return .char 0

/-- The items of a set whose opening bracket stands at `here`, up to its closing bracket. -/
def readSet (here : Nat) : Nat → List SetItem → Read (List SetItem)
  | 0, _ => failAt .unterminatedSet here
  | fuel + 1, read => do
    match ← next with
    | none => failAt .unterminatedSet here
    | some this =>
      if this = [']'] && !read.isEmpty then return read
      let first ← readSetElement this
      if ← accept '-' then
        match ← next with
        | none => failAt .unterminatedSet here
        | some that =>
          if that = [']'] then return read ++ [first, .char '-'.toNat]
          let last ← readSetElement that
          match first, last with
          | .char lo, .char hi =>
            if hi < lo then failBack (.badRange this that) (this.length + 1 + that.length)
            readSet here fuel (read ++ [.range lo hi])
          | _, _ => failBack (.badRange this that) (this.length + 1 + that.length)
      else readSet here fuel (read ++ [first])

/-! ## Flags -/

/-- Sets the flag of a letter. -/
def Flags.set? (flags : Flags) : Char → Option Flags
  | 'i' => some { flags with ignoreCase := true }
  | 'm' => some { flags with multiline := true }
  | 's' => some { flags with dotAll := true }
  | 'x' => some { flags with verbose := true }
  | 'a' => some { flags with ascii := true }
  | 'u' => some { flags with unicode := true }
  | 't' => some { flags with template := true }
  | _ => none

def isFlagLetter (c : Char) : Bool :=
  c == 'L' || (Flags.set? {} c).isSome

/-- The flags of the first record together with those of the second. -/
def Flags.union (f g : Flags) : Flags :=
  { ignoreCase := f.ignoreCase || g.ignoreCase
    multiline := f.multiline || g.multiline
    dotAll := f.dotAll || g.dotAll
    verbose := f.verbose || g.verbose
    ascii := f.ascii || g.ascii
    unicode := f.unicode || g.unicode
    template := f.template || g.template }

/-- The flags of the first record that are not in the second. -/
def Flags.without (f g : Flags) : Flags :=
  { ignoreCase := f.ignoreCase && !g.ignoreCase
    multiline := f.multiline && !g.multiline
    dotAll := f.dotAll && !g.dotAll
    verbose := f.verbose && !g.verbose
    ascii := f.ascii && !g.ascii
    unicode := f.unicode && !g.unicode
    template := f.template && !g.template }

/-- The letter that an element consists of, if it is one of any script. -/
def isLetterElement (e : Element) : Bool :=
  match e with
  | [c] => Text.isLetter c
  | _ => false

/-- What a group of flags asks for. -/
inductive FlagGroup
  /-- The flags hold for the whole pattern. -/
  | global (on : Flags)
  /-- The flags hold, or do not hold, inside this group. -/
  | scoped (on off : Flags)

/-- The flags to be turned on, from the first of their letters; the element that ends them is
returned too. -/
def readFlagsOn : Nat → Flags → Char → Read (Flags × Char)
  | 0, _, _ => failBack .missingFlagEnd 0
  | fuel + 1, on, letter => do
    if letter = 'L' then failBack .localeFlag 0
    let on := (on.set? letter).getD on
    if on.ascii && on.unicode then failBack .flagKinds 0
    match ← next with
    | none => failBack .missingFlagEnd 0
    | some e =>
      match e with
      | [c] =>
        if c = ')' ∨ c = '-' ∨ c = ':' then return (on, c)
        if isFlagLetter c then readFlagsOn fuel on c
        else failBack (if isLetterElement e then .unknownFlag else .missingFlagEnd) e.length
      | _ => failBack .missingFlagEnd e.length

/-- The flags to be turned off, from the first of their letters, up to the colon. -/
def readFlagsOff : Nat → Flags → Char → Read Flags
  | 0, _, _ => failBack .missingColon 0
  | fuel + 1, off, letter => do
    if letter = 'a' ∨ letter = 'u' ∨ letter = 'L' then failBack .flagKindOff 0
    let off := (off.set? letter).getD off
    match ← next with
    | none => failBack .missingColon 0
    | some e =>
      match e with
      | [c] =>
        if c = ':' then return off
        if isFlagLetter c then readFlagsOff fuel off c
        else failBack (if isLetterElement e then .unknownFlag else .missingColon) e.length
      | _ => failBack .missingColon e.length

/-- A group of flags, from behind its first letter or minus sign. -/
def readFlags (letter : Char) : Read FlagGroup := do
  let fuel := (← get).rest.length + 1
  let (on, close) ← if letter = '-' then pure (({} : Flags), '-') else readFlagsOn fuel {} letter
  if close = ')' then return .global on
  if on.template then failBack .globalFlagOn 1
  let off ←
    if close = '-' then do
      match ← next with
      | none => failBack .missingFlag 0
      | some e =>
        match e with
        | [c] =>
          if isFlagLetter c then readFlagsOff fuel {} c
          else failBack (if isLetterElement e then .unknownFlag else .missingFlag) e.length
        | _ => failBack .missingFlag e.length
    else pure ({} : Flags)
  if off.template then failBack .globalFlagOff 1
  if on.without off ≠ on then failBack .flagOnAndOff 1
  return .scoped on off

/-! ## Widths -/

/-- Repeat counts from this number on are refused. -/
def repeatLimit : Nat := Nat.pow 2 32 - 1

/-- Widths that are too large are not told apart, and such an expression has no fixed width: its
least width is kept below the limit and its greatest width at the limit. -/
def boundWidth (width : Nat × Nat) : Nat × Nat :=
  (min width.1 (repeatLimit - 1), min width.2 repeatLimit)

/-- The least and the greatest number of characters that an expression matches. -/
def Regex.width (groups : List (Nat × Nat × Nat)) : Regex → Nat × Nat
  | .empty | .anchor _ | .look _ _ _ _ => (0, 0)
  | .char _ | .any _ | .set _ _ => (1, 1)
  | .seq r s =>
    let (a, b) := r.width groups
    let (c, d) := s.width groups
    boundWidth (a + c, b + d)
  | .alt r s =>
    let (a, b) := r.width groups
    let (c, d) := s.width groups
    (min a c, max b d)
  | .rep _ lo hi r =>
    let (a, b) := r.width groups
    boundWidth (a * lo, b * hi.getD repeatLimit)
  | .group _ r | .atomic r => r.width groups
  | .backReference i => (groups.lookup i).getD (0, 0)
  | .ifGroup _ r s =>
    let (a, b) := r.width groups
    let (c, d) := s.width groups
    (min a c, max b d)

/-! ## Expressions -/

/-- No pattern has a group with this number. -/
def groupLimit : Nat := Nat.pow 2 30 - 1

def readCount (ds : List Char) : Read Nat := do
  if Text.digitLimit < ds.length then throw (.longNumber ds.length)
  let n := numberValue 10 ds
  if repeatLimit ≤ n then throw .hugeRepeat
  return n

/-- The bounds in braces, from behind the opening brace, or nothing if the brace is an ordinary
character here. -/
def readBraces : Read (Option (Nat × Option Nat)) := do
  if (← peek) = some ['\x7d'] then return none
  let start := (← get).rest
  let here ← position
  let lo ← takeUpTo isDecimal start.length
  let hi ← if ← accept ',' then takeUpTo isDecimal start.length else pure lo
  if !(← accept '\x7d') then
    modify fun s ↦ { s with rest := start }
    return none
  let least ← if lo.isEmpty then pure 0 else readCount lo
  if hi.isEmpty then return some (least, none)
  let most ← readCount hi
  if most < least then failAt .repeatOrder here
  return some (least, some most)

/-- Repeats the last expression read, as a quantifier that began at `start` asks for. -/
def repeatLast (start least : Nat) (most : Option Nat) (read : List Regex) : Read (List Regex) := do
  match read with
  | [] => failAt .nothingToRepeat start
  | .anchor _ :: _ => failAt .nothingToRepeat start
  | .rep _ _ _ _ :: _ => failAt .multipleRepeat start
  | r :: earlier =>
    if ← accept '?' then return .rep .lazy least most r :: earlier
    if ← accept '+' then return .rep .possessive least most r :: earlier
    return .rep .greedy least most r :: earlier

/-- One expression after the other. -/
def Regex.sequence : List Regex → Regex
  | [] => .empty
  | [r] => r
  | r :: rest => .seq r (Regex.sequence rest)

/-- The number of the group with a name. -/
def groupNamed (name : List Char) : Read Nat := do
  match (← get).names.lookup name with
  | some index => return index
  | none => failBack (.unknownGroup name) (name.length + 1)

def takeGroupName (terminator : Char) : Read (List Char) := do
  takeName terminator "group name" ((← get).rest.length + 1) []

/-- A name that can be given to a group, with its terminator. -/
def readGroupName (terminator : Char) : Read (List Char) := do
  let name ← takeGroupName terminator
  if !Text.isIdentifier name then failBack (.badGroupName name) (name.length + 1)
  return name

/-- Opens a group that keeps what it matches. -/
def openGroup (name : Option (List Char)) : Read Nat := do
  let s ← get
  let index := s.groups
  set { s with groups := index + 1 }
  if let some name := name then
    if let some earlier := s.names.lookup name then
      failBack (.groupRedefined name index earlier) (name.length + 1)
    modify fun s ↦ { s with names := (name, index) :: s.names }
  return index

/-- Skips a comment up to its closing parenthesis. -/
def skipComment (start : Nat) : Nat → Read Unit
  | 0 => failAt .unterminatedComment start
  | fuel + 1 => do
    match ← peek with
    | none => failAt .unterminatedComment start
    | some e =>
      let _ ← next
      if e = [')'] then return () else skipComment start fuel

/-- Skips the rest of a line. -/
def skipLine : Nat → Read Unit
  | 0 => return ()
  | fuel + 1 => do
    match ← next with
    | none => return ()
    | some e => if e = ['\n'] then return () else skipLine fuel

def isVerboseSpace (c : Char) : Bool :=
  c == ' ' || (9 ≤ c.toNat && c.toNat ≤ 13)

/-- The group that a condition tests. -/
def readCondition : Read Nat := do
  let name ← takeGroupName ')'
  let index ←
    if Text.isIdentifier name then groupNamed name
    else do
      let index ←
        match Text.readInteger? name with
        | some (.ofNat n) => pure n
        | _ => failBack (.badGroupName name) (name.length + 1)
      if index = 0 then failBack .badGroupNumber (name.length + 1)
      if groupLimit ≤ index then failBack (.groupReference index) (name.length + 1)
      let here := (← position) - name.length - 1
      modify fun s ↦
        if (s.conditions.lookup index).isSome then s
        else { s with conditions := s.conditions ++ [(index, here)] }
      pure index
  checkBehind index
  return index

/-- What the opening of a group announces. -/
inductive Opening
  | keep (name : Option (List Char))
  | plain
  | only
  | flags (on off : Flags)
  | look (ahead negated : Bool)
  | condition (index : Nat)
  | reference (index : Nat)
  /-- The group is complete and stands for nothing. -/
  | nothing
  /-- The group sets flags for the whole pattern. -/
  | globalFlags

/-- Reads what follows an opening parenthesis at `start`, up to the contents of the group. -/
def readOpening (start : Nat) : Read Opening := do
  if !(← accept '?') then return .keep none
  match ← next with
  | none => failBack .unexpectedEnd 0
  | some ['P'] =>
    if ← accept '<' then return .keep (some (← readGroupName '>'))
    if ← accept '=' then
      let name ← readGroupName ')'
      let index ← groupNamed name
      if ((← get).widths.lookup index).isNone then failBack .openGroup (name.length + 1)
      checkBehind index
      return .reference index
    match ← next with
    | none => failBack .unexpectedEnd 0
    | some e => failBack (.unknownExtension ('P' :: e)) (e.length + 2)
  | some [':'] => return .plain
  | some ['#'] =>
    skipComment start ((← get).rest.length + 1)
    return .nothing
  | some ['='] => return .look true false
  | some ['!'] => return .look true true
  | some ['<'] =>
    match ← next with
    | none => failBack .unexpectedEnd 0
    | some ['='] => return .look false false
    | some ['!'] => return .look false true
    | some e => failBack (.unknownExtension ('<' :: e)) (e.length + 2)
  | some ['('] => return .condition (← readCondition)
  | some ['>'] => return .only
  | some e =>
    match e with
    | [c] =>
      if isFlagLetter c || c = '-' then
        match ← readFlags c with
        | .global on =>
          modify fun s ↦ { s with flags := s.flags.union on }
          return .globalFlags
        | .scoped on off => return .flags on off
      else failBack (.unknownExtension e) (e.length + 1)
    | _ => failBack (.unknownExtension e) (e.length + 1)

/-- Takes the parenthesis that closes a group opened at `start`. -/
def closeGroup (start : Nat) : Read Unit := do
  if !(← accept ')') then failAt .unterminatedGroup start

/-- Runs a reader with other flags in force. -/
def withFlags {α : Type} (flags : Flags) (read : Read α) : Read α := do
  let before := (← get).flags
  modify fun s ↦ { s with flags }
  let a ← read
  modify fun s ↦ { s with flags := before }
  return a

/-- A single character that has no special meaning, or one of the simplest special ones. -/
def plainElement (flags : Flags) (c : Char) : Regex :=
  if c = '.' then .any flags.dotAll
  else if c = '^' then .anchor (if flags.multiline then .lineStart else .textStart)
  else if c = '$' then .anchor (if flags.multiline then .lineEnd else .lastLineEnd)
  else .char c.toNat

mutual

/-- Reads expressions up to the end of the alternative, behind those already read, last one first.
`first` holds in the first alternative of the whole pattern. -/
def readItems : Nat → Bool → List Regex → Read (List Regex)
  | 0, _, read => return read
  | fuel + 1, first, read => do
    match ← peek with
    | none => return read
    | some this =>
      if this = ['|'] || this = [')'] then return read
      let _ ← next
      match this with
      -- Only an escape has two characters.
      | [_, c] => readItems fuel first ((← readEscape c) :: read)
      | ['['] =>
        let here := (← position) - 1
        let negated ← accept '^'
        let items ← readSet here ((← get).rest.length + 1) []
        readItems fuel first (.set negated items :: read)
      | ['('] =>
        let start := (← position) - 1
        match ← readGroup fuel first read.isEmpty start with
        | some r => readItems fuel first (r :: read)
        | none => readItems fuel first read
      | ['*'] => readItems fuel first (← repeatLast ((← position) - 1) 0 none read)
      | ['+'] => readItems fuel first (← repeatLast ((← position) - 1) 1 none read)
      | ['?'] => readItems fuel first (← repeatLast ((← position) - 1) 0 (some 1) read)
      | ['\x7b'] =>
        let start := (← position) - 1
        match ← readBraces with
        | some (least, most) => readItems fuel first (← repeatLast start least most read)
        | none => readItems fuel first (.char '\x7b'.toNat :: read)
      | [c] =>
        let flags := (← get).flags
        if flags.verbose && isVerboseSpace c then readItems fuel first read
        else if flags.verbose && c == '#' then
          skipLine ((← get).rest.length + 1)
          readItems fuel first read
        else readItems fuel first (plainElement flags c :: read)
      | _ => readItems fuel first read

/-- Reads a group from behind its opening parenthesis. -/
def readGroup : Nat → Bool → Bool → Nat → Read (Option Regex)
  | 0, _, _, start => failAt .unterminatedGroup start
  | fuel + 1, first, atStart, start => do
    match ← readOpening start with
    | .nothing => return none
    | .globalFlags =>
      if !(first && atStart) then failAt .flagsNotFirst start
      return none
    | .reference index => return some (.backReference index)
    | .keep name =>
      let index ← openGroup name
      let body ← readAlternatives fuel false
      closeGroup start
      modify fun s ↦ { s with widths := (index, body.width s.widths) :: s.widths }
      return some (.group (some index) body)
    | .plain =>
      let body ← readAlternatives fuel false
      closeGroup start
      return some (.group none body)
    | .only =>
      let body ← readAlternatives fuel false
      closeGroup start
      return some (.atomic body)
    | .flags on off =>
      let inner := ((← get).flags.union on).without off
      let body ← withFlags inner (readAlternatives fuel false)
      closeGroup start
      return some (.group none body)
    | .look ahead negated =>
      let outer := (← get).behind
      if !ahead then modify fun s ↦ { s with behind := some (s.behind.getD s.groups) }
      let body ← readAlternatives fuel false
      if !ahead then modify fun s ↦ { s with behind := outer }
      closeGroup start
      let (least, _) := body.width (← get).widths
      return some (.look ahead negated least body)
    | .condition index =>
      let yes ← readItems fuel false []
      let no ←
        if ← accept '|' then do
          let no ← readItems fuel false []
          if (← peek) = some ['|'] then failBack .conditionBranches 0
          pure no
        else pure []
      closeGroup start
      return some (.ifGroup index (Regex.sequence yes.reverse) (Regex.sequence no.reverse))

/-- Reads alternatives up to the end of the group or of the pattern. -/
def readAlternatives : Nat → Bool → Read Regex
  | 0, _ => return .empty
  | fuel + 1, first => do
    let items ← readItems fuel first []
    let r := Regex.sequence items.reverse
    if ← accept '|' then return .alt r (← readAlternatives fuel false)
    else return r

end

/-- What cannot be matched in an expression that is written correctly: a look-behind without a fixed
width, and in a template any repeat. The outermost of the first ones is found. -/
def Regex.defect? (template : Bool) (groups : List (Nat × Nat × Nat)) : Regex → Option Flaw
  | .empty | .char _ | .any _ | .set _ _ | .anchor _ | .backReference _ => none
  | .seq r s | .alt r s | .ifGroup _ r s =>
    (r.defect? template groups).or (s.defect? template groups)
  | .rep greed _ _ r =>
    if template then some (.repeatInTemplate greed) else r.defect? template groups
  | .group _ r | .atomic r | .look true _ _ r => r.defect? template groups
  | .look false _ _ r =>
    let (least, most) := r.width groups
    if least = most then r.defect? template groups else some .lookbehindWidth

/-- Reads a whole pattern. -/
def readPattern (fuel : Nat) : Read Regex := do
  moveTo (← get).rest
  let r ← readAlternatives fuel true
  let s ← get
  if s.flags.ascii && s.flags.unicode then throw .flagClash
  if (← peek).isSome then failBack .unbalancedParenthesis 0
  match s.conditions.find? fun c ↦ s.groups ≤ c.1 with
  | some (index, here) => failAt (.groupReference index) here
  | none => pure ()
  match r.defect? s.flags.template s.widths with
  | some flaw => throw (.malformed flaw none)
  | none => return r

/-- The expression that a text denotes, and the flags that hold for all of it. At most three nested
calls are made for each character read. -/
def compileRegex (source : List Char) : Except Failure (Regex × Flags) := do
  let (r, s) ← (readPattern (3 * source.length + 4)).run { size := source.length, rest := source }
  return (r, s.flags)

/-- The names of the flags that are set. That letters are those of all scripts goes without
saying. -/
def Flags.names (flags : Flags) : List String :=
  [(flags.template, "TEMPLATE"), (flags.ignoreCase, "IGNORECASE"), (flags.multiline, "MULTILINE"),
   (flags.dotAll, "DOTALL"), (flags.verbose, "VERBOSE"), (flags.ascii, "ASCII")].filterMap
    fun (on, name) ↦ if on then some name else none

end TagTree.Pattern

namespace TagTree

/-- The pattern that a text denotes. -/
def Pattern.compile (source : String) : Except Pattern.Failure Pattern := do
  let (regex, flags) ← Pattern.compileRegex source.toList
  return { source, regex, options := flags.names }

end TagTree
