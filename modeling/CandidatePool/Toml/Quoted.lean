import CandidatePool.Numeral
import CandidatePool.Text.Front
/-!
Strings in quotes.  There are four kinds: between double quotes with escapes, between single quotes
without, and each of the two also between triple quotes, over several lines.  The readers here start
behind the opening quote and end behind the closing one; they return the characters that the string
stands for and the rest of the text.

They go through the text one character at a time, and what they have seen so far is in a `Stage`.
-/

namespace CandidatePool.Toml.Quoted

/-! ### Characters -/

/-- Whether a character may stand in a comment, or as itself in a string: a tab, or anything but a
    control character. -/
def isPlain (c : Char) : Bool :=
  c = '\t' || (' ' ≤ c && c ≠ '\x7f')

def letterEscape? : Char → Option Char
  | 'b' => some '\x08'
  | 't' => some '\t'
  | 'n' => some '\n'
  | 'f' => some '\x0c'
  | 'r' => some '\r'
  | '"' => some '"'
  | '\\' => some '\\'
  | _ => none

/-- How many digits follow the letter of a numeric escape. -/
def escapeWidth? : Char → Option Nat
  | 'u' => some 4
  | 'U' => some 8
  | _ => none

/-- The character with a number, if there is one: surrogates and what lies beyond the last plane
    are none. -/
def character? (code : Nat) : Option Char :=
  if code.isValidChar then some (Char.ofNat code) else none

/-- Where the reader of a string with escapes stands. -/
inductive Stage where
  /-- Among the characters; blanks are left out while `skipping`. -/
  | text (skipping : Bool)
  | escape
  /-- Behind a backslash and blanks, before the end of the line. -/
  | lineEnd
  /-- Inside a numeric escape: the digits still to come, and the number so far. -/
  | code (left : Nat) (number : Nat)

def Stage.start : Stage := .text false

def cons (c : Char) : Option (List Char × List Char) → Option (List Char × List Char) :=
  Option.map fun (read, rest) => (c :: read, rest)

/-! ### Strings on one line -/

/-- A string between double quotes. -/
def basic? : Stage → Text.Reader (List Char)
  | _, [] => none
  | .text _, c :: rest =>
    if c = '"' then some ([], rest)
    else if c = '\\' then basic? .escape rest
    else if isPlain c then cons c (basic? .start rest)
    else none
  | .escape, c :: rest =>
    match escapeWidth? c with
    | some width => basic? (.code width 0) rest
    | none =>
      match letterEscape? c with
      | some d => cons d (basic? .start rest)
      | none => none
  | .lineEnd, _ => none
  | .code left number, c :: rest =>
    match (Numeral.digitValue? c).map (16 * number + ·) with
    | none => none
    | some number =>
      if 1 < left then basic? (.code (left - 1) number) rest
      else
        match character? number with
        | some d => cons d (basic? .start rest)
        | none => none

/-- A string between single quotes. -/
def literal? : Text.Reader (List Char)
  | [] => none
  | c :: rest =>
    if c = '\'' then some ([], rest)
    else if isPlain c then cons c (literal? rest)
    else none

/-! ### Strings over several lines -/

/-- The end of a string between triple quotes: three quotes, and up to two more in front of them,
    which belong to the string. -/
def closing? (quote : Char) : Text.Reader (List Char) := fun text =>
  let count := min 5 (text.takeWhile (· = quote)).length
  if count < 3 then none else some (List.replicate (count - 3) quote, text.drop count)

/-- A line break straight behind the opening quotes does not belong to the string. -/
def dropLineBreak : List Char → List Char
  | '\n' :: rest => rest
  | '\r' :: '\n' :: rest => rest
  | text => text

/-- A string between triple double quotes.  A carriage return stands only before a line feed and
    does not count; a backslash at the end of a line leaves out all blanks and line breaks up to the
    next character. -/
def multilineBasic? : Stage → Text.Reader (List Char)
  | _, [] => none
  | .text skipping, c :: rest =>
    match closing? '"' (c :: rest) with
    | some closed => some closed
    | none =>
      if c = '\\' then multilineBasic? .escape rest
      else if c = '\r' then
        if rest.head? = some '\n' then multilineBasic? (.text skipping) rest else none
      else if skipping && (c = ' ' || c = '\t' || c = '\n') then
        multilineBasic? (.text true) rest
      else if c = '\n' || isPlain c then cons c (multilineBasic? .start rest)
      else none
  | .escape, c :: rest =>
    if c = '\n' then multilineBasic? (.text true) rest
    else if c = ' ' || c = '\t' then multilineBasic? .lineEnd rest
    else if c = '\r' then
      if rest.head? = some '\n' then multilineBasic? .lineEnd rest else none
    else
      match escapeWidth? c with
      | some width => multilineBasic? (.code width 0) rest
      | none =>
        match letterEscape? c with
        | some d => cons d (multilineBasic? .start rest)
        | none => none
  | .lineEnd, c :: rest =>
    if c = '\n' then multilineBasic? (.text true) rest
    else if c = ' ' || c = '\t' then multilineBasic? .lineEnd rest
    else if c = '\r' then
      if rest.head? = some '\n' then multilineBasic? .lineEnd rest else none
    else none
  | .code left number, c :: rest =>
    match (Numeral.digitValue? c).map (16 * number + ·) with
    | none => none
    | some number =>
      if 1 < left then multilineBasic? (.code (left - 1) number) rest
      else
        match character? number with
        | some d => cons d (multilineBasic? .start rest)
        | none => none

/-- A string between triple single quotes. -/
def multilineLiteral? : Text.Reader (List Char)
  | [] => none
  | c :: rest =>
    match closing? '\'' (c :: rest) with
    | some closed => some closed
    | none =>
      if c = '\r' then
        if rest.head? = some '\n' then multilineLiteral? rest else none
      else if c = '\n' || isPlain c then cons c (multilineLiteral? rest)
      else none

/-! ### Strings of every kind -/

/-- A string of the kind that its opening quotes say. -/
def read? : Text.Reader String
  | '"' :: '"' :: '"' :: rest =>
    (multilineBasic? .start (dropLineBreak rest)).map fun (s, rest) => (String.ofList s, rest)
  | '"' :: rest => (basic? .start rest).map fun (s, rest) => (String.ofList s, rest)
  | '\'' :: '\'' :: '\'' :: rest =>
    (multilineLiteral? (dropLineBreak rest)).map fun (s, rest) => (String.ofList s, rest)
  | '\'' :: rest => (literal? rest).map fun (s, rest) => (String.ofList s, rest)
  | _ => none

end CandidatePool.Toml.Quoted
