/-!
# Binary floating point

Numbers in the 64-bit binary format, kept as their bit pattern so that two of them can be told apart
exactly.
-/

namespace TagTree

/-- A 64-bit binary floating point number. -/
structure Binary64 where
  bits : UInt64
  deriving DecidableEq, Repr, Inhabited

namespace Binary64

def toFloat (x : Binary64) : Float :=
  Float.ofBits x.bits

def ofFloat (x : Float) : Binary64 :=
  ⟨x.toBits⟩

def isNegative (x : Binary64) : Bool :=
  Nat.pow 2 63 ≤ x.bits.toNat

/-- The eleven bits of the exponent. -/
def exponentBits (x : Binary64) : Nat :=
  x.bits.toNat / Nat.pow 2 52 % Nat.pow 2 11

/-- The fifty-two stored bits of the significand. -/
def fractionBits (x : Binary64) : Nat :=
  x.bits.toNat % Nat.pow 2 52

def isNan (x : Binary64) : Bool :=
  x.exponentBits == 2047 && x.fractionBits != 0

def isInfinite (x : Binary64) : Bool :=
  x.exponentBits == 2047 && x.fractionBits == 0

def isZero (x : Binary64) : Bool :=
  x.exponentBits == 0 && x.fractionBits == 0

/-- The integer whose product with `2 ^ scale` is the magnitude of a finite number. -/
def significand (x : Binary64) : Nat :=
  if x.exponentBits = 0 then x.fractionBits else Nat.pow 2 52 + x.fractionBits

/-- The power of two that the significand counts. -/
def scale (x : Binary64) : Int :=
  (max x.exponentBits 1 : Nat) - 1075

/-- Whether the number below this one is only half as far away as the number above. -/
def belowIsNearer (x : Binary64) : Bool :=
  x.fractionBits == 0 && 1 < x.exponentBits

/-- The value of a decimal numeral: `digits · 10 ^ exponent`, rounded to the nearest number. -/
def ofDecimal (negative : Bool) (digits : Nat) (exponent : Int) : Binary64 :=
  let magnitude :=
    match exponent with
    | .ofNat e => Float.ofScientific digits false e
    | .negSucc e => Float.ofScientific digits true (e + 1)
  ofFloat (if negative then -magnitude else magnitude)

/-- The greatest integer that is not greater than a finite number. -/
def floor? (x : Binary64) : Option Int :=
  if x.exponentBits = 2047 then none
  else
    let signed : Int := if x.isNegative then -(x.significand : Int) else x.significand
    match x.scale with
    | .ofNat e => some (signed * Int.pow 2 e)
    | .negSucc e => some (signed.fdiv (Int.pow 2 (e + 1)))

/-- The integer with the value of a finite number, if it has one. -/
def toInt? (x : Binary64) : Option Int :=
  if x.exponentBits = 2047 then none
  else
    let magnitude : Option Nat :=
      match x.scale with
      | .ofNat e => some (x.significand * Nat.pow 2 e)
      | .negSucc e =>
        let unit := Nat.pow 2 (e + 1)
        if x.significand % unit = 0 then some (x.significand / unit) else none
    magnitude.map fun n ↦ if x.isNegative then -(n : Int) else n

end Binary64

end TagTree
