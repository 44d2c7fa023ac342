import TagTree.Text.Blank
import TagTree.Text.Digit

/-!
# Written integers

An integer is written as decimal digits of any script, between which single low lines may stand,
with an optional sign in front of them and blanks around.
-/

namespace TagTree.Text

/-- The longest run of digits that is read or written as a number. -/
def digitLimit : Nat := 4300

/-- The blanks that may stand around a number: of the control characters only those that move the
place of writing. -/
def surroundsNumber (c : Char) : Bool :=
  c = ' ' || (9 ≤ c.toNat && c.toNat ≤ 13) || (127 ≤ c.toNat && isBlank c)

/-- The values of digits, of which a low line may stand in front of all but the first. -/
def digitValues? : List Char → Option (List Nat)
  | [] => some []
  | '_' :: c :: rest => do return (← digitValue? c) :: (← digitValues? rest)
  | c :: rest => do return (← digitValue? c) :: (← digitValues? rest)

/-- The number that digits stand for. -/
def readDigits? (text : List Char) : Option Nat := do
  if text.isEmpty || text.head? == some '_' then none
  let digits ← digitValues? text
  if digitLimit < digits.length then none
  return digits.foldl (fun n d ↦ 10 * n + d) 0

/-- A text without what may surround a number. -/
def bareNumber (text : List Char) : List Char :=
  ((text.dropWhile surroundsNumber).reverse.dropWhile surroundsNumber).reverse

/-- The integer that a text stands for. -/
def readInteger? (text : List Char) : Option Int :=
  match bareNumber text with
  | '-' :: digits => (readDigits? digits).map fun n ↦ -(n : Int)
  | '+' :: digits => (readDigits? digits).map fun n ↦ (n : Int)
  | digits => (readDigits? digits).map fun n ↦ (n : Int)

end TagTree.Text
