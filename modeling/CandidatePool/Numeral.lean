/-!
Positional numerals over characters.  Addresses, ports, escapes and the integers of a settings text
are all runs of digits in some base; what differs is how long a run may be and which leading zeros
it may have, and that is said where each of them is read.  Here stand only the worth of a digit, the
longest run of digits at the front of a text, and the number that a run stands for.
-/

namespace CandidatePool.Numeral

/-! ### Digits -/

/-- The worth of a character as a digit: the ten digits, then the first six letters in either case. -/
def digitValue? (c : Char) : Option Nat :=
  if '0' ≤ c ∧ c ≤ '9' then some (c.toNat - '0'.toNat)
  else if 'a' ≤ c ∧ c ≤ 'f' then some (c.toNat - 'a'.toNat + 10)
  else if 'A' ≤ c ∧ c ≤ 'F' then some (c.toNat - 'A'.toNat + 10)
  else none

def isDigit (base : Nat) (c : Char) : Bool :=
  (digitValue? c).any (· < base)

/-! ### Runs of digits -/

/-- The digits at the front of a text: as many as there are. -/
def leading (base : Nat) (text : List Char) : List Char :=
  text.takeWhile (isDigit base)

def afterLeading (base : Nat) (text : List Char) : List Char :=
  text.dropWhile (isDigit base)

/-- The number that a run of digits stands for when it goes on from a number already read. -/
def extend (base n : Nat) (digits : List Char) : Nat :=
  digits.foldl (fun n c => base * n + (digitValue? c).getD 0) n

/-- The number that a run of digits stands for, the first digit weighing most. -/
def ofDigits (base : Nat) (digits : List Char) : Nat :=
  extend base 0 digits

/-- A whole text read as a numeral: at least one character, and each of them a digit. -/
def value? (base : Nat) (text : List Char) : Option Nat :=
  if text ≠ [] ∧ text.all (isDigit base) then some (ofDigits base text) else none

end CandidatePool.Numeral
