import CandidatePool.Toml.Value
/-!
Whole TOML texts.  A text is read line by line, where a line may go on inside the brackets of its
value.  Lines make up a document: the pairs before the first header, then one section for each
header with the pairs below it.  A document denotes a table; it denotes none when it says the same
thing twice or says what two of its parts contradict.
-/

namespace CandidatePool.Toml

open Text (Reader)

/-! ### Lines -/

/-- What a header announces. -/
inductive Header where
  /-- A table, `[a.b]`. -/
  | table (path : List String)
  /-- One more of a list of tables, `[[a.b]]`. -/
  | element (path : List String)

inductive Line where
  | blank
  | pair (path : List String) (value : Node)
  | header (header : Header)

/-- What follows the end of a line: blanks, a comment, and a line break or the end of the text. -/
def afterLine? (text : List Char) : Option (List Char) :=
  match skipComment (skipBlanks text) with
  | [] => some []
  | text => afterLineBreak? text

/-- A header, behind its first bracket. -/
def readHeader? : Reader Header
  | '[' :: text => do
    let (path, rest) ← readPath? maxDepth text
    match rest with
    | ']' :: ']' :: rest => return (.element path, rest)
    | _ => none
  | text => do
    let (path, rest) ← readPath? maxDepth text
    match rest with
    | ']' :: rest => return (.table path, rest)
    | _ => none

/-- What stands in a line, without its end. -/
def readBody? : Reader Line := fun text =>
  match text with
  | [] => some (.blank, text)
  | '#' :: _ | '\n' :: _ | '\r' :: _ => some (.blank, text)
  | '[' :: rest => (readHeader? rest).map fun (header, rest) => (.header header, rest)
  | _ => (readPair? (readValue? maxDepth) text).map fun ((path, value), rest) =>
    (.pair path value, rest)

def readLine? : Reader Line := fun text => do
  let (line, rest) ← readBody? (skipBlanks text)
  return (line, ← afterLine? rest)

/-- All lines of a text; no text has more lines than characters. -/
def readLines? : (fuel : Nat) → List Char → Option (List Line)
  | _, [] => some []
  | 0, _ => none
  | fuel + 1, text => do
    let (line, rest) ← readLine? text
    return line :: (← readLines? fuel rest)

/-! ### Documents -/

structure Section where
  header : Header
  pairs : List (List String × Node)

structure Document where
  preamble : List (List String × Node)
  sections : List Section

namespace Document

def ofLines : List Line → Document
  | [] => ⟨[], []⟩
  | .blank :: lines => ofLines lines
  | .pair path value :: lines =>
    let later := ofLines lines
    { later with preamble := (path, value) :: later.preamble }
  | .header header :: lines =>
    let later := ofLines lines
    ⟨[], ⟨header, later.preamble⟩ :: later.sections⟩

/-- The document of a text.  A byte order mark in front does not count. -/
def ofText? (text : List Char) : Option Document :=
  let text := match text with
    | '\ufeff' :: rest => rest
    | text => text
  (readLines? text.length text).map ofLines

end Document

/-! ### What a document denotes -/

/-- Adds a section to a table.  A table may be announced if it is new or only implied; one more of a
    list of tables may be announced if the list is new or was announced in the same way. -/
def Table.addSection? (t : Table) (s : Section) : Option Table :=
  match s.header with
  | .table path =>
    t.alter? (fun
      | none => (Table.insertAll? [] s.pairs).map (.table .declared)
      | some (.table .implied entries) => (Table.insertAll? entries s.pairs).map (.table .declared)
      | some _ => none) path
  | .element path =>
    t.alter? (fun
      | none => (Table.insertAll? [] s.pairs).map fun element => .tables [element]
      | some (.tables elements) =>
        (Table.insertAll? [] s.pairs).map fun element => .tables (elements ++ [element])
      | some _ => none) path

def Document.table? (d : Document) : Option Table := do
  d.sections.foldlM Table.addSection? (← Table.insertAll? [] d.preamble)

def Table.ofText? (text : String) : Option Table := do
  (← Document.ofText? text.toList).table?

end CandidatePool.Toml
