import TagTree.Text.Quoted

/-!
# Bytes and text

Texts are stored as UTF-8. Decoding stops at the first sequence of bytes that is not UTF-8 and says
where it is and what is wrong with it. Bytes are natural numbers, and each form of sequence is
described by the ranges its bytes come from.
-/

namespace TagTree.Text

/-- Why a sequence of bytes is not UTF-8. -/
inductive Utf8Fault
  /-- A byte that begins no character. -/
  | start
  /-- The character breaks off before it is complete. -/
  | continuation
  /-- The text ends inside a character. -/
  | truncated
  deriving DecidableEq, Repr

/-- The bytes `first` up to, not including, `stop` are not UTF-8. -/
structure Utf8Error where
  fault : Utf8Fault
  first : Nat
  stop : Nat
  byte : Nat
  deriving DecidableEq, Repr

/-- The explanation of a decoding failure. -/
def Utf8Error.message (e : Utf8Error) : String :=
  let place :=
    if e.stop = e.first + 1 then
      "byte 0x" ++ String.ofList (hexDigits 2 e.byte) ++ " in position " ++ toString e.first
    else
      "bytes in position " ++ toString e.first ++ "-" ++ toString (e.stop - 1)
  let reason :=
    match e.fault with
    | .start => "invalid start byte"
    | .continuation => "invalid continuation byte"
    | .truncated => "unexpected end of data"
  "'utf-8' codec can't decode " ++ place ++ ": " ++ reason

/-- The bytes of one character. -/
def encodeChar (c : Char) : List Nat :=
  let n := c.toNat
  if n < 0x80 then [n]
  else if n < 0x800 then [0xc0 + n / 0x40, 0x80 + n % 0x40]
  else if n < 0x10000 then [0xe0 + n / 0x1000, 0x80 + n / 0x40 % 0x40, 0x80 + n % 0x40]
  else
    [0xf0 + n / 0x40000, 0x80 + n / 0x1000 % 0x40, 0x80 + n / 0x40 % 0x40, 0x80 + n % 0x40]

/-- The bytes of a text. -/
def encodeUtf8 (cs : List Char) : List Nat :=
  cs.flatMap encodeChar

/-- Bytes that can stand after the first one of a character. -/
def isContinuation (b : Nat) : Bool :=
  0x80 ≤ b && b < 0xc0

/-- The second bytes that can follow the first byte of a longer character: overlong forms,
surrogates and numbers beyond the last code point are excluded here. -/
def isSecond (first b : Nat) : Bool :=
  if first = 0xe0 then 0xa0 ≤ b && b < 0xc0
  else if first = 0xed then 0x80 ≤ b && b < 0xa0
  else if first = 0xf0 then 0x90 ≤ b && b < 0xc0
  else if first = 0xf4 then 0x80 ≤ b && b < 0x90
  else isContinuation b

/-- What a text begins with. -/
inductive Utf8Head
  | char (c : Char) (rest : List Nat)
  | bad (fault : Utf8Fault) (width : Nat)

/-- The first character of a nonempty sequence of bytes. -/
def decodeHead (b : Nat) (rest : List Nat) : Utf8Head :=
  if b < 0x80 then .char (Char.ofNat b) rest
  else if b < 0xc2 ∨ 0xf5 ≤ b then .bad .start 1
  else
    match rest with
    | [] => .bad .truncated 1
    | b₂ :: rest =>
      if !isSecond b b₂ then .bad .continuation 1
      else if b < 0xe0 then .char (Char.ofNat ((b - 0xc0) * 0x40 + (b₂ - 0x80))) rest
      else
        match rest with
        | [] => .bad .truncated 2
        | b₃ :: rest =>
          if !isContinuation b₃ then .bad .continuation 2
          else if b < 0xf0 then
            .char (Char.ofNat ((b - 0xe0) * 0x1000 + (b₂ - 0x80) * 0x40 + (b₃ - 0x80))) rest
          else
            match rest with
            | [] => .bad .truncated 3
            | b₄ :: rest =>
              if !isContinuation b₄ then .bad .continuation 3
              else
                .char (Char.ofNat ((b - 0xf0) * 0x40000 + (b₂ - 0x80) * 0x1000 +
                  (b₃ - 0x80) * 0x40 + (b₄ - 0x80))) rest

/-- Decodes at most `fuel` characters, the first of them at byte `position`. -/
def decodeFrom : Nat → Nat → List Nat → Except Utf8Error (List Char)
  | _, _, [] => .ok []
  | 0, _, _ => .ok []
  | fuel + 1, position, b :: rest =>
    match decodeHead b rest with
    | .bad fault width => .error ⟨fault, position, position + width, b⟩
    | .char c tail => do
      let cs ← decodeFrom fuel (position + (rest.length + 1 - tail.length)) tail
      return c :: cs

/-- The text of a sequence of bytes. Every character takes at least one byte, so their number
bounds the number of characters. -/
def decodeUtf8 (bytes : List Nat) : Except Utf8Error (List Char) :=
  decodeFrom bytes.length 0 bytes

end TagTree.Text
