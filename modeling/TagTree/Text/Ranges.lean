/-!
# Runs of code points

Character classes are kept as ascending lists of runs of code points, each given by the first one
and by their number.
-/

namespace TagTree.Text

/-- Whether a character lies in a run. -/
def inRun (c : Char) (run : Nat × Nat) : Bool :=
  run.1 ≤ c.toNat && c.toNat < run.1 + run.2

/-- Whether a character lies in one of the runs. -/
def inRanges (ranges : List (Nat × Nat)) (c : Char) : Bool :=
  ranges.any (inRun c)

end TagTree.Text
