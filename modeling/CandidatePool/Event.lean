import CandidatePool.Log
import CandidatePool.Error
import CandidatePool.Session.Basic
/-!
What a pool tells while it works.  Every operation yields its events in order; each event is written
as one line of the log.  An event carries what its line says and nothing more, and no event carries
the credentials of a relay or of an identity.
-/

namespace CandidatePool

/-- Something worth a line in the log. -/
inductive Event where
  /-- A negative size was asked for. -/
  | sizeClamped (requested : Int32)
  /-- Other servers came into effect, and the pool was cleared. -/
  | serversChanged (stun relays destroyed : Nat)
  /-- A session that logs its starts was started. -/
  | started (id : SessionId)
  /-- A session was made and put into the pool, which then held `size`. -/
  | created (id : SessionId) (size : Nat)
  | creationFailed (id : SessionId) (cause : SessionError)
  /-- The pool was to shrink by `wanted` and shrank by `removed`. -/
  | shrunk (removed wanted : Nat)
  | claiming (id : SessionId) (contentName : String) (component : UInt32)
  | discarded (destroyed : Nat)
  /-- How the pool stands: the target and the created count, then the four counters. -/
  | health (target current : Nat) (pooled total claimed destroyed : UInt64)
deriving DecidableEq

namespace Event

def level : Event → Level
  | .started _ => .trace
  | .serversChanged _ _ _ => .info
  | .creationFailed _ _ => .warn
  | .sizeClamped _ | .created _ _ | .shrunk _ _ | .claiming _ _ _ | .discarded _
  | .health _ _ _ _ _ _ => .debug

/-- Who speaks: a session that starts speaks for itself, and the allocator says the rest. -/
def target : Event → String
  | .started _ => "icepool::session::fake"
  | _ => "icepool::allocator"

def message : Event → String
  | .sizeClamped requested =>
    "Clamped candidate pool size " ++ toString requested.toInt ++ " to 0"
  | .serversChanged stun relays destroyed =>
    "ICE servers changed: " ++ toString stun ++ " stun, " ++ toString relays
      ++ " turn; destroyed " ++ toString destroyed ++ " pooled sessions"
  | .started id => id.label ++ " started getting ports"
  | .created id size => "Created pooled " ++ id.label ++ ", pool size: " ++ toString size
  | .creationFailed id cause =>
    "Failed to create pooled session " ++ id.label ++ ": " ++ cause.message
  | .shrunk removed wanted =>
    "Shrunk candidate pool by " ++ toString removed ++ " sessions (wanted " ++ toString wanted
      ++ ")"
  | .claiming id contentName component =>
    "Claiming pooled " ++ id.label ++ " for " ++ contentName ++ "/" ++ toString component.toNat
  | .discarded destroyed => "Discarded " ++ toString destroyed ++ " pooled sessions"
  | .health target current pooled total claimed destroyed =>
    "Pool health: target=" ++ toString target ++ ", created=" ++ toString current
      ++ ", pooled=" ++ toString pooled.toNat ++ ", total_created=" ++ toString total.toNat
      ++ ", claimed=" ++ toString claimed.toNat ++ ", destroyed=" ++ toString destroyed.toNat

def line (e : Event) : LogLine :=
  ⟨e.level, e.target, e.message⟩

/-- What is told when a hook is called on a session. -/
def ofCall (s : Session) (h : Hook) : List Event :=
  if s.kind.logsStart ∧ h = .start then [.started s.id] else []

end Event

end CandidatePool
