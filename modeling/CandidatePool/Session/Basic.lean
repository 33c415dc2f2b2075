import CandidatePool.Servers
/-!
Sessions gather network candidates; what they do on the network is not known here.  A session is
known by what it was made for, an identifier and servers, and by the hooks called on it, which it
remembers in order: it is told to start gathering, it is given the identity of the connection that
it will serve, it is told to stop.

A session is held in one of two ways.  In the pool it is a `PooledSession`; the caller who claims it
gets a `ClaimedSession`, which carries the identity given at the claim.  Both name the session's
identifier and servers beside the session itself, and nothing done to the session changes those.
-/

namespace CandidatePool

/-! ### Identifiers and identities -/

/-- The number of a session, a word of 64 bits. -/
structure SessionId where
  value : UInt64
deriving DecidableEq

namespace SessionId

def first : SessionId := ⟨1⟩

def next (id : SessionId) : SessionId := ⟨id.value + 1⟩

def label (id : SessionId) : String :=
  "session-" ++ toString id.value.toNat

def sort (ids : List SessionId) : List SessionId :=
  ids.mergeSort fun a b => decide (a.value ≤ b.value)

end SessionId

/-- What a connection is known by when candidates are gathered for it. -/
structure Identity where
  contentName : String
  component : UInt32
  ufrag : String
  password : String
deriving DecidableEq

/-! ### Sessions and their hooks -/

inductive Hook where
  | start
  | assign (identity : Identity)
  | stop
deriving DecidableEq

def Hook.identity? : Hook → Option Identity
  | .assign identity => some identity
  | .start | .stop => none

/-- What a session shows of the calls on it. -/
inductive SessionKind where
  /-- Shows every call, logs its starts, and tells the factory that made it when it stops. -/
  | recording
  /-- Shows and logs the same and belongs to no factory. -/
  | detached
  /-- Shows how often it was started, and nothing else. -/
  | plain
deriving DecidableEq

namespace SessionKind

def logsStart : SessionKind → Bool
  | .recording | .detached => true
  | .plain => false

def reportsStop : SessionKind → Bool
  | .recording => true
  | .detached | .plain => false

end SessionKind

/-- A session, with the calls on it, the oldest first. -/
structure Session where
  id : SessionId
  servers : Servers
  kind : SessionKind
  calls : List Hook := []
deriving DecidableEq

namespace Session

def call (s : Session) (h : Hook) : Session :=
  { s with calls := s.calls ++ [h] }

def starts (s : Session) : Nat := s.calls.count .start

/-- The identities that the session was given, the first first. -/
def identities (s : Session) : List Identity := s.calls.filterMap Hook.identity?

/-- How many stops a call reports to the session's factory: one or none. -/
def stopsReportedBy (s : Session) (h : Hook) : Nat :=
  if s.kind.reportsStop ∧ h = .stop then 1 else 0

end Session

/-! ### Sessions in the pool and sessions claimed -/

/-- A session that waits in the pool. -/
structure PooledSession where
  id : SessionId
  servers : Servers
  session : Session
deriving DecidableEq

/-- A session that belongs to the caller who claimed it. -/
structure ClaimedSession where
  id : SessionId
  servers : Servers
  identity : Identity
  session : Session
deriving DecidableEq

namespace PooledSession

/-- A new session, told to start gathering at once. -/
def warm (id : SessionId) (servers : Servers) (kind : SessionKind) : PooledSession :=
  ⟨id, servers, Session.call { id, servers, kind } .start⟩

/-- Hands the session over, with the identity that the claim gives it. -/
def claim (p : PooledSession) (identity : Identity) : ClaimedSession :=
  ⟨p.id, p.servers, identity, p.session.call (.assign identity)⟩

def stop (p : PooledSession) : PooledSession :=
  { p with session := p.session.call .stop }

end PooledSession

/-- A call by the caller on a session that it claimed.  Only the session notices. -/
def ClaimedSession.call (c : ClaimedSession) (h : Hook) : ClaimedSession :=
  { c with session := c.session.call h }

end CandidatePool
