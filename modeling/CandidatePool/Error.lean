/-!
Why an operation of the library can fail.  A session may not come into being (`SessionError`), and
whatever fails further out is wrapped by its kind (`PoolError`).  Each error is a cause; its wording
is in one function, and an error that wraps another one names it as its source.
-/

namespace CandidatePool

/-- Why a factory made no session. -/
inductive SessionError where
  /-- The session could not be set up. -/
  | create (reason : String)
  /-- Something that the session needs has run out. -/
  | resource (reason : String)
deriving DecidableEq

def SessionError.message : SessionError → String
  | .create reason => "Failed to create session: " ++ reason
  | .resource reason => "Resource exhausted: " ++ reason

/-- What can go wrong, by where it went wrong. -/
inductive PoolError where
  /-- Reading or writing failed, with the system's own text. -/
  | io (text : String)
  /-- Settings that can be read and make no sense. -/
  | config (text : String)
  | session (cause : SessionError)
  /-- A text is not in the format it should be in. -/
  | serialization (text : String)
deriving DecidableEq

namespace PoolError

def message : PoolError → String
  | .io text => "IO error: " ++ text
  | .config text => "Configuration error: " ++ text
  | .session cause => "Session error: " ++ cause.message
  | .serialization text => "Serialization error: " ++ text

/-- The wording of the error that this one wraps, if it wraps one. -/
def source? : PoolError → Option String
  | .io text => some text
  | .session cause => some cause.message
  | .config _ | .serialization _ => none

end PoolError

end CandidatePool
