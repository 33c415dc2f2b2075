/-!
What has happened to sessions since an allocator was made: how many were created, claimed and
destroyed, and how many wait in the pool.  The counters are machine words of 64 bits.  They wrap
around and never fail, so a count is right modulo 2^64; the number of waiting sessions is not
counted up and down but set to what it is.
-/

namespace CandidatePool

/-- The four counters of an allocator. -/
structure Statistics where
  created : UInt64 := 0
  claimed : UInt64 := 0
  destroyed : UInt64 := 0
  pooled : UInt64 := 0
deriving DecidableEq

namespace Statistics

def addCreated (s : Statistics) (n : Nat) : Statistics :=
  { s with created := s.created + .ofNat n }

def addClaimed (s : Statistics) : Statistics :=
  { s with claimed := s.claimed + 1 }

def addDestroyed (s : Statistics) (n : Nat) : Statistics :=
  { s with destroyed := s.destroyed + .ofNat n }

def setPooled (s : Statistics) (n : Nat) : Statistics :=
  { s with pooled := .ofNat n }

theorem addDestroyed_zero (s : Statistics) : s.addDestroyed 0 = s := by
  simp [addDestroyed]

theorem addDestroyed_add (s : Statistics) (m n : Nat) :
    s.addDestroyed (m + n) = (s.addDestroyed m).addDestroyed n := by
  simp only [addDestroyed, UInt64.ofNat_add, UInt64.add_assoc]

end Statistics

end CandidatePool
