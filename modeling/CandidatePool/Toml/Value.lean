import CandidatePool.Toml.Bare
import CandidatePool.Toml.Quoted
/-!
Keys and values.  A key has one or more parts with points between them; a value is a string, a bare
value, an array in square brackets or an inline table in braces.

Nesting is bounded: a value may hold arrays and tables within each other to a depth of 79, and a key
may have as many parts.  The reader of values takes the depth that is left as an argument and hands
the reader for one level less to the loops over the items, which are bounded by the length of the
text, as each item takes at least one character.
-/

namespace CandidatePool.Toml

open Text (Reader)

/-- How deep values may nest, and how many parts a key may have. -/
def maxDepth : Nat := 79

/-! ### Blanks, comments and line breaks -/

def isBlank (c : Char) : Bool := c = ' ' || c = '\t'

def skipBlanks (text : List Char) : List Char := text.dropWhile isBlank

/-- The text behind a comment, where one starts.  The line break is left. -/
def skipComment : List Char → List Char
  | '#' :: rest => rest.dropWhile Quoted.isPlain
  | text => text

/-- What follows a line break, where there is one. -/
def afterLineBreak? : List Char → Option (List Char)
  | '\n' :: rest => some rest
  | '\r' :: '\n' :: rest => some rest
  | _ => none

/-- The text behind blanks, comments and line breaks, of which there are at most `fuel`. -/
def skipLines : (fuel : Nat) → List Char → List Char
  | 0, text => text
  | fuel + 1, text =>
    let text := skipBlanks text
    match afterLineBreak? (skipComment text) with
    | some rest => skipLines fuel rest
    | none => text

/-! ### Keys -/

/-- Whether a character may stand in a key without quotes. -/
def isKeyChar (c : Char) : Bool := c.isAlphanum || c = '_' || c = '-'

/-- One part of a key: in quotes on one line, or bare. -/
def readKey? : Reader String
  | '"' :: rest => (Quoted.basic? .start rest).map fun (s, rest) => (String.ofList s, rest)
  | '\'' :: rest => (Quoted.literal? rest).map fun (s, rest) => (String.ofList s, rest)
  | text =>
    let key := text.takeWhile isKeyChar
    if key = [] then none else some (String.ofList key, text.dropWhile isKeyChar)

/-- A key of at most `parts` parts, with the blanks around each of them. -/
def readPath? : (parts : Nat) → Reader (List String)
  | 0, _ => none
  | parts + 1, text => do
    let (key, rest) ← readKey? (skipBlanks text)
    match skipBlanks rest with
    | '.' :: rest =>
      let (path, rest) ← readPath? parts rest
      return (key :: path, rest)
    | rest => return ([key], rest)

/-! ### Values -/

def readPair? (value : Reader Node) : Reader (List String × Node) := fun text => do
  let (path, rest) ← readPath? maxDepth text
  match rest with
  | '=' :: rest =>
    let (node, rest) ← value (skipBlanks rest)
    return ((path, node), rest)
  | _ => none

/-- The items of an array, behind its opening bracket.  A comma may follow the last one. -/
def readItems? (value : Reader Node) : (fuel : Nat) → Reader (List Node)
  | 0, _ => none
  | fuel + 1, text =>
    match skipLines text.length text with
    | ']' :: rest => some ([], rest)
    | text => do
      let (item, rest) ← value text
      match skipLines rest.length rest with
      | ',' :: rest =>
        let (items, rest) ← readItems? value fuel rest
        return (item :: items, rest)
      | ']' :: rest => return ([item], rest)
      | _ => none

/-- The pairs of an inline table that is not empty.  No comma may follow the last one. -/
def readPairs? (value : Reader Node) : (fuel : Nat) → Reader (List (List String × Node))
  | 0, _ => none
  | fuel + 1, text => do
    let (pair, rest) ← readPair? value text
    match skipBlanks rest with
    | ',' :: rest =>
      let (pairs, rest) ← readPairs? value fuel rest
      return (pair :: pairs, rest)
    | '}' :: rest => return ([pair], rest)
    | _ => none

/-- An inline table, behind its opening brace. -/
def readInline? (value : Reader Node) : Reader Node := fun text =>
  match skipBlanks text with
  | '}' :: rest => some (.table .inline [], rest)
  | _ => do
    let (pairs, rest) ← readPairs? value text.length text
    let entries ← Table.insertAll? [] pairs
    return (.table .inline entries, rest)

def readFlat? : Reader Node
  | '"' :: rest => (Quoted.read? ('"' :: rest)).map fun (s, rest) => (.string s, rest)
  | '\'' :: rest => (Quoted.read? ('\'' :: rest)).map fun (s, rest) => (.string s, rest)
  | text => Bare.read? text

/-- A value in which brackets open at most `depth` deep. -/
def readValue? : (depth : Nat) → Reader Node
  | 0, text => readFlat? text
  | depth + 1, text =>
    match text with
    | '[' :: rest =>
      (readItems? (readValue? depth) (rest.length + 1) rest).map fun (items, rest) =>
        (.array items, rest)
    | '{' :: rest => readInline? (readValue? depth) rest
    | text => readFlat? text

end CandidatePool.Toml
