import TagTree.Decimal.Shortest

/-!
# Rounded decimals

Writing a number with a given number of digits: so many places behind the point, or so many digits
in all and a power of ten. The last digit is rounded, and a half goes to the even neighbour.
-/

namespace TagTree.Decimal

/-- The nearest whole number; a half goes to the even neighbour. -/
def Ratio.round (a : Ratio) : Nat :=
  let q := a.num / a.den
  let twice := 2 * (a.num % a.den)
  if twice < a.den || (twice == a.den && q % 2 == 0) then q else q + 1

/-- The magnitude of a finite number. -/
def magnitude (x : Binary64) : Ratio :=
  twoTimes x.significand x.scale

/-- The digits of a number before and behind the point. -/
def fixedDigits (v : Ratio) (places : Nat) : List Char × List Char :=
  let digits := Nat.toDigits 10 (v.quotient (tenTimes 1 (-(places : Int)))).round
  let digits := List.replicate (places + 1 - digits.length) '0' ++ digits
  digits.splitAt (digits.length - places)

/-- So many digits of a number behind its first one, and the power of ten of the first. -/
def scientificDigits (v : Ratio) (places : Nat) : List Char × Int :=
  if v.num = 0 then (List.replicate (places + 1) '0', 0)
  else
    let power := leadingPower v
    let n := (v.quotient (tenTimes 1 (power - places))).round
    -- Rounding up may have made one digit more.
    if places + 1 < digitCount n then (Nat.toDigits 10 (n / 10), power + 1)
    else (Nat.toDigits 10 n, power)

/-- Digits before and behind a point, which is left out if nothing follows, unless it is kept. -/
def pointed (keepPoint : Bool) (whole fraction : List Char) : List Char :=
  if fraction.isEmpty && !keepPoint then whole else whole ++ '.' :: fraction

def withoutTrailingZeros (digits : List Char) : List Char :=
  (digits.reverse.dropWhile (· == '0')).reverse

/-- A power of ten behind digits, with its sign and at least two digits. -/
def powerText (power : Int) : List Char :=
  let digits := Nat.toDigits 10 power.natAbs
  'e' :: (if power < 0 then '-' else '+') :: (List.replicate (2 - digits.length) '0' ++ digits)

/-- A number with so many places behind the point. -/
def fixed (v : Ratio) (places : Nat) (keepPoint : Bool) : List Char :=
  let (whole, fraction) := fixedDigits v places
  pointed keepPoint whole fraction

/-- A number as a digit with so many places behind it, and a power of ten. -/
def scientific (v : Ratio) (places : Nat) (keepPoint : Bool) : List Char :=
  let (digits, power) := scientificDigits v places
  pointed keepPoint (digits.take 1) (digits.drop 1) ++ powerText power

/-- A number with so many digits, with a power of ten only if it is very small or has more digits
before the point. Zeros at the end are left out, unless all digits are kept. -/
def general (v : Ratio) (size : Nat) (keepAll : Bool) : List Char :=
  let size := max size 1
  let (digits, power) := scientificDigits v (size - 1)
  let shorten (fraction : List Char) : List Char :=
    if keepAll then fraction else withoutTrailingZeros fraction
  if -4 ≤ power ∧ power < size then
    let (whole, fraction) := fixedDigits v (size - 1 - power).toNat
    pointed keepAll whole (shorten fraction)
  else pointed keepAll (digits.take 1) (shorten (digits.drop 1)) ++ powerText power

end TagTree.Decimal
