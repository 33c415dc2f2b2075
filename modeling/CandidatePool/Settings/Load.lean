import CandidatePool.Error
import CandidatePool.File
import CandidatePool.Settings.Reader
import CandidatePool.Text.Quoted
/-!
Settings from a file.  Three things can go wrong, one after the other: the file cannot be read as
text, the text is no settings text, or a relay in it makes no sense.  The first that does is the
error.  What reading a path gives is a parameter, so that all of this can be said without a disk.
-/

namespace CandidatePool

inductive LoadError where
  | unreadable (path : String) (cause : ReadFailure)
  | malformed
  | invalid (path : String) (fault : RelayFault)
deriving DecidableEq

namespace LoadError

def message : LoadError → String
  | .unreadable path _ => "Failed to read config file: " ++ Text.Quoted.quote path
  | .malformed => "Failed to parse configuration"
  | .invalid path _ => "Invalid config file: " ++ Text.Quoted.quote path

/-- The wording of the cause.  What is wrong with a malformed text, and where, is left out. -/
def cause? : LoadError → Option String
  | .unreadable _ cause => some cause.message
  | .malformed => none
  | .invalid _ fault => some (PoolError.config fault.message).message

/-- The wording of an error and its cause, from the outside in. -/
def chain (e : LoadError) : List String :=
  e.message :: e.cause?.toList

end LoadError

namespace Settings

def readText (read : ReadFile) (path : String) : Except LoadError String :=
  match read path with
  | .error cause => .error (.unreadable path cause)
  | .ok bytes =>
    match String.fromUTF8? bytes with
    | some text => .ok text
    | none => .error (.unreadable path .notText)

/-- Settings that are refused if a relay in them has a fault. -/
def checked (path : String) (s : Settings) : Except LoadError Settings :=
  match s.fault? with
  | some fault => .error (.invalid path fault)
  | none => .ok s

def load (read : ReadFile) (path : String) : Except LoadError Settings := do
  let text ← readText read path
  match parse? text with
  | none => .error .malformed
  | some s => checked path s

end Settings

end CandidatePool
