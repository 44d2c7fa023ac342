import TagTree.Text.Ranges

/-!
# Decimal digits

The characters of Unicode 14 that stand for one of the ten decimal digits in some script.
-/

namespace TagTree.Text

/-- The code points of decimal digits, as ascending runs. -/
def digitRanges : List (Nat × Nat) :=
  [ (0x30, 10), (0x660, 10), (0x6f0, 10), (0x7c0, 10), (0x966, 10), (0x9e6, 10), (0xa66, 10),
    (0xae6, 10), (0xb66, 10), (0xbe6, 10), (0xc66, 10), (0xce6, 10), (0xd66, 10), (0xde6, 10),
    (0xe50, 10), (0xed0, 10), (0xf20, 10), (0x1040, 10), (0x1090, 10), (0x17e0, 10), (0x1810, 10),
    (0x1946, 10), (0x19d0, 10), (0x1a80, 10), (0x1a90, 10), (0x1b50, 10), (0x1bb0, 10),
    (0x1c40, 10), (0x1c50, 10), (0xa620, 10), (0xa8d0, 10), (0xa900, 10), (0xa9d0, 10),
    (0xa9f0, 10), (0xaa50, 10), (0xabf0, 10), (0xff10, 10), (0x104a0, 10), (0x10d30, 10),
    (0x11066, 10), (0x110f0, 10), (0x11136, 10), (0x111d0, 10), (0x112f0, 10), (0x11450, 10),
    (0x114d0, 10), (0x11650, 10), (0x116c0, 10), (0x11730, 10), (0x118e0, 10), (0x11950, 10),
    (0x11c50, 10), (0x11d50, 10), (0x11da0, 10), (0x16a60, 10), (0x16ac0, 10), (0x16b50, 10),
    (0x1d7ce, 50), (0x1e140, 10), (0x1e2f0, 10), (0x1e950, 10), (0x1fbf0, 10) ]

/-- The decimal digits of every script. -/
def isDigit (c : Char) : Bool :=
  inRanges digitRanges c

/-- The number that a decimal digit stands for. Every run begins with a zero, and the digits of a
script follow each other. -/
def digitValue? (c : Char) : Option Nat :=
  (digitRanges.find? (inRun c)).map fun run ↦ (c.toNat - run.1) % 10

end TagTree.Text
