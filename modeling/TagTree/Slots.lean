import TagTree.Equality

/-!
# The order of sets

The elements of a set are kept in slots, whose number is a power of two, and a set is gone through
slot by slot. A number has a code by which it is placed: in the first free slot of a short row, and
if that is full in a row that starts elsewhere. So has the empty text. A set with anything else in
it is gone through in the order in which its elements came.
-/

namespace TagTree

/-- A table of slots, each empty or with an element and its code. -/
abbrev Slots := Array (Option (Nat × Value))

namespace Slots

/-- Codes are remainders by this prime. -/
def modulus : Nat := Nat.pow 2 61 - 1

/-- The code of a number with the given magnitude, as an unsigned number of 64 bits. The code of
minus one is taken by something else. -/
def signedCode (negative : Bool) (magnitude : Nat) : Nat :=
  let rest := magnitude % modulus
  if !negative || rest = 0 then rest else Nat.pow 2 64 - (if rest = 1 then 2 else rest)

/-- The code of a floating point number. Modulo the prime, `2 ^ 61` is one, so that powers of two
below one are powers of two again. -/
def floatCode (x : Binary64) : Option Nat :=
  if x.isNan then none
  else if x.isInfinite then some (if x.isNegative then Nat.pow 2 64 - 314159 else 314159)
  else some (signedCode x.isNegative (x.significand * Nat.pow 2 (x.scale % 61).toNat))

/-- The code of a value, if it has one. -/
def code? : Value → Option Nat
  | .bool b => some (if b then 1 else 0)
  | .int n => some (signedCode (n < 0) n.natAbs)
  | .float x => floatCode x
  | .str s => if s.isEmpty then some 0 else none
  | _ => none

/-- The slots of a row that starts at a slot. A row that would not fit is cut to one slot. -/
def row (size start : Nat) : List Nat :=
  if start + 9 < size then (List.range 10).map (start + ·) else [start]

/-- The first free slot for a code: rows are tried one after the other, and what is left of the code
helps to choose the next. -/
def freeSlot (slots : Slots) : Nat → Nat → Nat → Option Nat
  | 0, _, _ => none
  | fuel + 1, start, code =>
    match (row slots.size start).find? fun i ↦ slots[i]? == some none with
    | some i => some i
    | none =>
      let code := code / 32
      freeSlot slots fuel ((start * 5 + 1 + code) % slots.size) code

/-- Places an element. -/
def place (slots : Slots) (element : Nat × Value) : Slots :=
  match freeSlot slots (slots.size + 64) (element.1 % slots.size) element.1 with
  | some i => slots.setIfInBounds i (some element)
  | none => slots

/-- The elements in the order of their slots. -/
def elements (slots : Slots) : List (Nat × Value) :=
  slots.toList.filterMap id

def ofSize (size : Nat) : Slots :=
  Array.replicate size none

/-- The least power of two from `size` on that is greater than a number. -/
def sizeAbove : Nat → Nat → Nat → Nat
  | 0, size, _ => size
  | fuel + 1, size, n => if n < size then size else sizeAbove fuel (2 * size) n

/-- Adds an element. A table in which three fifths of the slots are taken gives way to a larger
one. -/
def add (slots : Slots) (element : Nat × Value) : Slots :=
  let slots := place slots element
  let placed := elements slots
  if placed.length * 5 < (slots.size - 1) * 3 then slots
  else placed.foldl place (ofSize (sizeAbove placed.length 8 (4 * placed.length)))

/-- Different elements in the order in which a set of them is gone through. -/
def order (items : List Value) : List Value :=
  match items.mapM fun v ↦ (code? v).map (·, v) with
  | some coded => (elements (coded.foldl add (ofSize 8))).map Prod.snd
  | none => items

end Slots

end TagTree
