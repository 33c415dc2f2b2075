/-!
Reading files.  What a path gives is a function of the path, so that whatever is said about a program
that reads can be said without a disk.
-/

namespace CandidatePool

/-- Why a file cannot be read as text. -/
inductive ReadFailure where
  | notFound
  | isDirectory
  | notDirectory
  | nameTooLong
  /-- The path has a character that no file name can have. -/
  | nulInName
  /-- The bytes of the file are not UTF-8. -/
  | notText
  /-- Anything else, in the system's words. -/
  | other (text : String)
deriving DecidableEq

def ReadFailure.message : ReadFailure → String
  | .notFound => "No such file or directory (os error 2)"
  | .isDirectory => "Is a directory (os error 21)"
  | .notDirectory => "Not a directory (os error 20)"
  | .nameTooLong => "File name too long (os error 36)"
  | .nulInName => "file name contained an unexpected NUL byte"
  | .notText => "stream did not contain valid UTF-8"
  | .other text => text

/-- What reading a path gives: the bytes of a file, or why there are none. -/
abbrev ReadFile := (path : String) → Except ReadFailure ByteArray

end CandidatePool
