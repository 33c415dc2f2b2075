import CandidatePool.Text.Invisible
import CandidatePool.Text.Mark
/-!
Which characters a reader cannot tell when they are shown as they are: those that show nothing, and
the marks, which merge with their neighbours.
-/

namespace CandidatePool.Text.Hidden

/-- Whether a number lies in one of some ranges, which are in ascending order. -/
def inRanges (ranges : List (Nat × Nat)) (n : Nat) : Bool :=
  (ranges.takeWhile (·.1 ≤ n)).any (n ≤ ·.2)

/-- Whether a reader could not tell a character. -/
def isHidden (c : Char) : Bool :=
  inRanges invisible c.toNat || inRanges marks c.toNat

end CandidatePool.Text.Hidden
