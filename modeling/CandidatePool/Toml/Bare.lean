import CandidatePool.Toml.DateTime
import CandidatePool.Toml.Node
/-!
Values without quotes or brackets: booleans, numbers, dates and times.  None of the characters that
may follow a value can stand inside one of these, so such a value ends where the run of characters
that it can be made of ends, with one exception: a blank may stand between a date and a time.  The
run is taken first and then has to be one of them as a whole.
-/

namespace CandidatePool.Toml.Bare

open Numeral

/-! ### Integers -/

/-- Digits without the underscores that group them.  Each underscore stands between two digits. -/
def ungroup? (base : Nat) : List Char → Option (List Char)
  | [] => none
  | [c] => if isDigit base c then some [c] else none
  | c :: '_' :: rest =>
    if isDigit base c then (ungroup? base rest).map (c :: ·) else none
  | c :: rest =>
    if isDigit base c then (ungroup? base rest).map (c :: ·) else none

/-- Decimal digits in groups, without a zero in front of another digit. -/
def wholePart? (text : List Char) : Option Nat := do
  let digits ← ungroup? 10 text
  if digits.head? = some '0' ∧ 1 < digits.length then none else some (ofDigits 10 digits)

/-- A sign, where there is one, and the rest; no sign counts as plus. -/
def splitSign : List Char → Bool × List Char
  | '-' :: rest => (true, rest)
  | '+' :: rest => (false, rest)
  | text => (false, text)

/-- An integer of any size: in decimal with a sign, or without one in base 16, 8 or 2. -/
def anyInteger? : List Char → Option Int
  | '0' :: 'x' :: rest => (ungroup? 16 rest).map fun digits => ofDigits 16 digits
  | '0' :: 'o' :: rest => (ungroup? 8 rest).map fun digits => ofDigits 8 digits
  | '0' :: 'b' :: rest => (ungroup? 2 rest).map fun digits => ofDigits 2 digits
  | text =>
    let (negative, rest) := splitSign text
    (wholePart? rest).map fun n => if negative then -(n : Int) else n

/-- An integer that a signed word of 64 bits can hold. -/
def integer? (text : List Char) : Option Int :=
  (anyInteger? text).filter fun n =>
    decide (-9223372036854775808 ≤ n ∧ n ≤ 9223372036854775807)

/-! ### Floating-point numbers -/

/-- Whether `m · 10^e` is so large that the nearest floating-point number of 64 bits is infinite:
    whether it lies at least half a unit above the largest finite one.  Sizes that the number of
    digits decides are decided by it, so that no huge power is computed. -/
def roundsToInfinity (m : Nat) (e : Int) : Bool :=
  let bound := (Nat.pow 2 54 - 1) * Nat.pow 2 970
  let width : Int := (Nat.toDigits 10 m).length
  if m = 0 then false
  else if 400 < width + e then true
  else if width + e < 300 then false
  else if 0 ≤ e then bound ≤ m * Nat.pow 10 e.toNat
  else bound * Nat.pow 10 (-e).toNat ≤ m

/-- Whether a character may stand in a part of a number: a digit or an underscore. -/
def isGrouped (c : Char) : Bool := isDigit 10 c || c = '_'

/-- A fraction at the front of a text, as its digits; none where there is no point. -/
def readFraction? : Text.Reader (List Char)
  | '.' :: text => do
    return (← ungroup? 10 (text.takeWhile isGrouped), text.dropWhile isGrouped)
  | text => some ([], text)

/-- An exponent as all that is left of a text; 0 where nothing is left. -/
def exponent? : List Char → Option Int
  | [] => some 0
  | c :: text =>
    if c = 'e' ∨ c = 'E' then
      let (negative, rest) := splitSign text
      (ungroup? 10 rest).map fun digits =>
        if negative then -(ofDigits 10 digits : Int) else ofDigits 10 digits
    else none

/-- Whether a text without its sign is a number with a fraction, an exponent, or both.  One that is
    not negative must not be too large; a negative one may. -/
def isDecimalFloat (negative : Bool) (text : List Char) : Bool :=
  Option.isSome do
    let whole ← wholePart? (text.takeWhile isGrouped)
    let tail := text.dropWhile isGrouped
    let (fraction, rest) ← readFraction? tail
    let e ← exponent? rest
    let m := extend 10 whole fraction
    if tail = [] ∨ (!negative && roundsToInfinity m (e - fraction.length)) then none else some ()

/-- Whether a text is a floating-point number, infinity or the indefinite number. -/
def isFloat (text : List Char) : Bool :=
  let (negative, rest) := splitSign text
  rest = "inf".toList || rest = "nan".toList || isDecimalFloat negative rest

/-! ### All of them -/

/-- Whether a character can be part of a value without quotes or brackets. -/
def isBare (c : Char) : Bool :=
  c.isAlphanum || c = '_' || c = '+' || c = '-' || c = '.' || c = ':'

def ofRun? (run : List Char) : Option Node :=
  if run = "true".toList then some (.boolean true)
  else if run = "false".toList then some (.boolean false)
  else if DateTime.isDateTime run then some (.dateTime (String.ofList run))
  else
    match integer? run with
    | some n => some (.integer n)
    | none => if isFloat run then some (.float (String.ofList run)) else none

/-- Where a blank and a digit follow a date, the run goes on behind the blank. -/
def readRun (text : List Char) : List Char × List Char :=
  let run := text.takeWhile isBare
  let rest := text.dropWhile isBare
  match rest with
  | ' ' :: c :: more =>
    if DateTime.isDate run && isDigit 10 c then
      (run ++ ' ' :: (c :: more).takeWhile isBare, (c :: more).dropWhile isBare)
    else (run, rest)
  | _ => (run, rest)

def read? : Text.Reader Node := fun text =>
  let (run, rest) := readRun text
  (ofRun? run).map fun node => (node, rest)

end CandidatePool.Toml.Bare
