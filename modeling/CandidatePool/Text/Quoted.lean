import CandidatePool.Text.Hidden
/-!
Texts in quotes, for messages: a reader sees where the text starts and ends and which characters are
in it.  A double quote and a backslash have a backslash in front, four control characters have short
escapes, and what could not be seen is written as a number.
-/

namespace CandidatePool.Text.Quoted

/-- The short escapes, each with the character that it stands for. -/
def shortEscapes : List (Char × Char) :=
  [('\x00', '0'), ('\t', 't'), ('\n', 'n'), ('\r', 'r'), ('"', '"'), ('\\', '\\')]

/-- A character as it stands between the quotes. -/
def escape (c : Char) : List Char :=
  match shortEscapes.lookup c with
  | some letter => ['\\', letter]
  | none =>
    if Hidden.isHidden c then ['\\', 'u', '{'] ++ Nat.toDigits 16 c.toNat ++ ['}'] else [c]

def quote (s : String) : String :=
  String.ofList ('"' :: s.toList.flatMap escape ++ ['"'])

end CandidatePool.Text.Quoted
