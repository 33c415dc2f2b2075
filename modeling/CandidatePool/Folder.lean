import CandidatePool.File
/-!
A folder of files, as a reader standing in it sees it.  The folder is flat: it holds files and no
other folders.  A path is followed part by part.  Empty parts and single points stay where one is,
two points go up, and what is not in the folder is not there.  Of what lies outside nothing is known
but that one can be there.
-/

namespace CandidatePool

/-- The files of a folder, each with its bytes. -/
abbrev Folder := List (String × ByteArray)

namespace Folder

/-- Where following a path has led. -/
inductive Place where
  /-- In the folder. -/
  | here
  /-- In a folder above it, or at the root. -/
  | outside
  | file (bytes : ByteArray)

def maxName : Nat := 255

def maxPath : Nat := 4095

/-- One step along a path.  From a file no step leads on, not even to itself. -/
def step (f : Folder) (place : Place) (part : String) : Except ReadFailure Place :=
  match place with
  | .file _ => .error .notDirectory
  | .here =>
    if part = "" ∨ part = "." then .ok .here
    else if part = ".." then .ok .outside
    else if maxName < part.utf8ByteSize then .error .nameTooLong
    else
      match f.lookup part with
      | some bytes => .ok (.file bytes)
      | none => .error .notFound
  | .outside =>
    if part = "" ∨ part = "." ∨ part = ".." then .ok .outside
    else if maxName < part.utf8ByteSize then .error .nameTooLong
    else .error .notFound

def read (f : Folder) : ReadFile := fun path =>
  let start : Place := if path.startsWith "/" then .outside else .here
  if path.contains '\x00' then .error .nulInName
  else if path = "" then .error .notFound
  else if maxPath < path.utf8ByteSize then .error .nameTooLong
  else
    match (path.splitOn "/").foldlM (step f) start with
    | .error e => .error e
    | .ok (.file bytes) => .ok bytes
    | .ok .here | .ok .outside => .error .isDirectory

end Folder

end CandidatePool
