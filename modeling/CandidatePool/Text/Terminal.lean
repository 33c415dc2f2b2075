/-!
Texts without the control sequences of terminals.  A control sequence starts with the escape
character, and what follows decides of which kind it is and so where it ends.  None of it is shown,
whether it ends or not.  Outside of sequences the control characters are left out as well, except
those that move to another place in the text: tab, line feed, form feed and carriage return.

Those four can also stand in the middle of most sequences.  There one of them is shown, and with it
what follows it up to the next character that is not shown anywhere.  Only behind that does the
sequence go on, unless a character beyond ASCII has stood in between.

A text is read one character after the other, in a mode that says how much of a sequence has been
read.
-/

namespace CandidatePool.Text.Terminal

/-- What has been read of a control sequence. -/
inductive Sequence where
  /-- The escape character alone. -/
  | escape
  /-- The escape character and punctuation.  A letter or a digit ends the sequence. -/
  | selection
  /-- The start of a sequence with parameters, which a letter ends. -/
  | control
  /-- The start of a string for the device, and nothing that comes before the string. -/
  | device
  /-- The same with parameters of the string. -/
  | parameters
  /-- The same with punctuation. -/
  | punctuation
  /-- The start of a string that ends with the terminator. -/
  | string
  /-- The start of a command to the window, which the bell ends. -/
  | command
deriving DecidableEq, Repr

/-- Where reading a text has come to. -/
inductive Mode where
  | outside
  | inside (q : Sequence)
  /-- In a part that is shown, in the middle of a sequence. -/
  | paused (q : Sequence)
deriving DecidableEq, Repr

/-! ### Characters -/

/-- The control characters that stay in the text. -/
def isSpacing (c : Char) : Bool :=
  c = '\t' || c = '\n' || c = '\x0c' || c = '\r'

/-- Whether a character is shown outside of sequences. -/
def isShown (c : Char) : Bool :=
  isSpacing c || (0x20 ≤ c.toNat && c.toNat ≠ 0x7f)

/-- Whether a character holds the terminator of strings, the octet 9c.  An octet of an encoded
    character behind its first is 80 and six bits of its number. -/
def holdsTerminator (c : Char) : Bool :=
  let n := c.toNat
  (0x80 ≤ n && n % 64 = 28) || (0x800 ≤ n && n / 64 % 64 = 28)
    || (0x10000 ≤ n && n / 4096 % 64 = 28)

/-! ### Sequences -/

namespace Sequence

/-- The sequences that spacing can interrupt. -/
def pausable : Sequence → Bool
  | escape | selection | control => true
  | device | parameters | punctuation | string | command => false

/-- Where a sequence has come to with one more character, which is not shown. -/
def advance (q : Sequence) (c : Char) : Mode :=
  let n := c.toNat
  match q with
  | escape =>
    if n = 0x50 then .inside device
    else if n = 0x58 ∨ n = 0x5e ∨ n = 0x5f then .inside string
    else if n = 0x5b then .inside control
    else if n = 0x5d then .inside command
    else if 0x20 ≤ n ∧ n ≤ 0x2f then .inside selection
    else if 0x30 ≤ n ∧ n ≤ 0x7e then .outside
    else .inside escape
  | selection => if 0x30 ≤ n ∧ n ≤ 0x7e then .outside else .inside selection
  | control => if 0x40 ≤ n ∧ n ≤ 0x7e then .outside else .inside control
  | device =>
    if 0x20 ≤ n ∧ n ≤ 0x2f then .inside punctuation
    else if 0x30 ≤ n ∧ n ≤ 0x3f then .inside parameters
    else if 0x40 ≤ n ∧ n ≤ 0x7e then .inside string
    else .inside device
  | parameters =>
    if 0x20 ≤ n ∧ n ≤ 0x2f then .inside punctuation
    else if 0x3c ≤ n ∧ n ≤ 0x7e then .inside string
    else .inside parameters
  | punctuation => if 0x30 ≤ n ∧ n ≤ 0x7e then .inside string else .inside punctuation
  | string => if holdsTerminator c then .outside else .inside string
  | command => if n = 0x07 then .outside else .inside command

end Sequence

/-! ### Reading -/

namespace Mode

/-- The mode behind a character that neither starts nor breaks off a sequence, and whether the
    character is shown. -/
def read (m : Mode) (c : Char) : Mode × Bool :=
  match m with
  | outside => (outside, isShown c)
  | inside q => if isSpacing c && q.pausable then (paused q, true) else (q.advance c, false)
  | paused q =>
    if isShown c then (if c.toNat < 0x80 then paused q else outside, true)
    else (q.advance c, false)

/-- The mode behind any character, and whether the character is shown.  The escape character starts
    a new sequence anywhere, and two characters break one off. -/
def step (m : Mode) (c : Char) : Mode × Bool :=
  if c = '\x1b' then (inside .escape, false)
  else if c = '\x18' ∨ c = '\x1a' then (outside, false)
  else m.read c

/-- What is shown of a text that starts in a mode. -/
def shown (m : Mode) : List Char → List Char
  | [] => []
  | c :: rest =>
    if (m.step c).2 then c :: (m.step c).1.shown rest else (m.step c).1.shown rest

end Mode

/-- A text without control sequences. -/
def strip (s : String) : String :=
  String.ofList (Mode.outside.shown s.toList)

end CandidatePool.Text.Terminal
