import TagTree.Decimal.Binary64

/-!
# Shortest decimals

A floating point number is written with the fewest digits that read back as the same number, and
among those with the digits nearest to its value. The candidates are the two neighbours of the
value on the grid of one digit, then of two digits, and so on; seventeen digits always suffice.
-/

namespace TagTree.Decimal

/-- The nonnegative rational `num / den`. -/
structure Ratio where
  num : Nat
  den : Nat

/-- The number `n · 10 ^ e`. -/
def tenTimes (n : Nat) (e : Int) : Ratio :=
  match e with
  | .ofNat k => ⟨n * Nat.pow 10 k, 1⟩
  | .negSucc k => ⟨n, Nat.pow 10 (k + 1)⟩

/-- The number `n · 2 ^ e`. -/
def twoTimes (n : Nat) (e : Int) : Ratio :=
  match e with
  | .ofNat k => ⟨n * Nat.pow 2 k, 1⟩
  | .negSucc k => ⟨n, Nat.pow 2 (k + 1)⟩

namespace Ratio

def le (a b : Ratio) : Bool :=
  a.num * b.den ≤ b.num * a.den

def lt (a b : Ratio) : Bool :=
  a.num * b.den < b.num * a.den

/-- The distance between two numbers. -/
def dist (a b : Ratio) : Ratio :=
  ⟨a.num * b.den - b.num * a.den + (b.num * a.den - a.num * b.den), a.den * b.den⟩

def floor (a : Ratio) : Nat :=
  a.num / a.den

def quotient (a b : Ratio) : Ratio :=
  ⟨a.num * b.den, a.den * b.num⟩

end Ratio

/-- The number of decimal digits of a natural number; zero has one. -/
def digitCount (n : Nat) : Nat :=
  (Nat.toDigits 10 n).length

/-- The power of ten of the leading digit of a positive number. -/
def leadingPower (v : Ratio) : Int :=
  if v.den ≤ v.num then digitCount v.floor - 1
  else
    -- `v < 1`: one of two powers, by the lengths of numerator and denominator
    let guess := digitCount v.den - digitCount v.num
    if Ratio.le (tenTimes 1 (-(guess : Int))) v then -(guess : Int) else -(guess : Int) - 1

/-- The numbers that read back as a given one lie between two bounds. -/
structure Window where
  low : Ratio
  value : Ratio
  high : Ratio
  closed : Bool

def Window.contains (w : Window) (v : Ratio) : Bool :=
  if w.closed then w.low.le v && v.le w.high else w.low.lt v && v.lt w.high

/-- The half-way points around a positive finite number, in quarters of its last place. -/
def Window.around (x : Binary64) : Window :=
  let q := x.scale - 2
  let m := x.significand
  { low := twoTimes (4 * m - if x.belowIsNearer then 1 else 2) q
    value := twoTimes (4 * m) q
    high := twoTimes (4 * m + 2) q
    closed := m % 2 == 0 }

/-- The decimal `digits · 10 ^ exponent`. -/
structure Numeral where
  digits : Nat
  exponent : Int
  deriving DecidableEq, Repr

/-- The better of the two neighbours of the value on the grid of `10 ^ exponent` that read back,
if one does. A tie goes to the even neighbour. -/
def Window.neighbour? (w : Window) (exponent : Int) : Option Numeral :=
  let below := (w.value.quotient (tenTimes 1 exponent)).floor
  let low := tenTimes below exponent
  let high := tenTimes (below + 1) exponent
  let takeLow : Bool :=
    let dLow := w.value.dist low
    let dHigh := w.value.dist high
    dLow.lt dHigh || (!dHigh.lt dLow && below % 2 == 0)
  match w.contains low && below != 0, w.contains high with
  | true, true => some ⟨if takeLow then below else below + 1, exponent⟩
  | true, false => some ⟨below, exponent⟩
  | false, true => some ⟨below + 1, exponent⟩
  | false, false => none

/-- The shortest decimal that reads back as the given positive finite number. -/
def shortest (x : Binary64) : Numeral :=
  let w := Window.around x
  let top := leadingPower w.value
  let candidates := (List.range 17).filterMap fun (n : Nat) ↦ w.neighbour? (top - n)
  candidates.head?.getD ⟨0, 0⟩

/-- The digits of a numeral without trailing zeros, and the power of ten of the first of them. -/
def Numeral.scientific (d : Numeral) : List Char × Int :=
  let digits := Nat.toDigits 10 d.digits
  let kept := (digits.reverse.dropWhile (· == '0')).reverse
  (if kept.isEmpty then ['0'] else kept, d.exponent + (digits.length : Int) - 1)

/-! ## Layout -/

/-- Positional notation of digits whose first one counts `10 ^ power`; a fraction digit is always
written. -/
def positional (digits : List Char) (power : Int) : List Char :=
  match power with
  | .ofNat p =>
    let whole := digits.take (p + 1)
    let fraction := digits.drop (p + 1)
    whole ++ List.replicate (p + 1 - whole.length) '0' ++ '.' ::
      (if fraction.isEmpty then ['0'] else fraction)
  | .negSucc p => '0' :: '.' :: List.replicate p '0' ++ digits

/-- Exponent notation; the exponent has a sign and at least two digits. -/
def exponential (digits : List Char) (power : Int) : List Char :=
  let mantissa :=
    match digits with
    | first :: second :: rest => first :: '.' :: second :: rest
    | few => few
  let exponent := Nat.toDigits 10 power.natAbs
  mantissa ++ 'e' :: (if power < 0 then '-' else '+') ::
    (List.replicate (2 - exponent.length) '0' ++ exponent)

/-- The text of a floating point number: shortest digits, positional from `10 ^ -4` up to
`10 ^ 16`, with the sign of zero kept. -/
def render (x : Binary64) : String :=
  if x.isNan then "nan"
  else
    let sign := if x.isNegative then ['-'] else []
    let magnitude :=
      if x.isInfinite then "inf".toList
      else if x.isZero then "0.0".toList
      else
        let (digits, power) := (shortest x).scientific
        if -4 ≤ power ∧ power < 16 then positional digits power else exponential digits power
    String.ofList (sign ++ magnitude)

end TagTree.Decimal
