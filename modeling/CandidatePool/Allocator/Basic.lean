import CandidatePool.Event
import CandidatePool.Pool
import CandidatePool.Session.Factory
import CandidatePool.Statistics
/-!
The allocator holds the servers in effect, the size that the pool should have, and the pool, and it
brings the three into line whenever it is asked to.

`reconcile` works in two parts.  First the allocator adopts what is asked for: other servers clear
the pool, equal servers leave it alone or shrink it from the back.  Then it fills the pool until the
created count has reached the target.  An attempt that fails ends the filling; what was made before
it stays, so the same request made again goes on where the first one stopped.

No operation of an allocator touches a session that was claimed.
-/

namespace CandidatePool

/-- The size that a request stands for: a negative one means no pooling. -/
def clampSize (requested : Int32) : Nat :=
  requested.toInt.toNat

/-- An allocator.  A new one has no servers, wants no sessions and holds none. -/
structure Allocator where
  servers : Servers := .empty
  target : Nat := 0
  pool : Pool := {}
  nextId : SessionId := .first
  statistics : Statistics := {}
deriving DecidableEq

namespace Allocator

/-! ### Looking -/

def front? (a : Allocator) : Option PooledSession := a.pool.front?

def health (a : Allocator) : Event :=
  .health a.target a.pool.created a.statistics.pooled a.statistics.created a.statistics.claimed
    a.statistics.destroyed

/-! ### Adopting a request -/

/-- What adopting a request came to: the sessions stopped, in order, and what was told. -/
structure Adoption where
  allocator : Allocator
  stopped : List PooledSession
  events : List Event

/-- The target and the servers become those asked for, and sessions that no longer fit go. -/
def adopt (a : Allocator) (servers : Servers) (target : Nat) : Adoption :=
  if servers = a.servers then
    let surplus := a.pool.created - target
    let (pool, stopped) := a.pool.shrink surplus
    { allocator :=
        { a with target, pool, statistics := a.statistics.addDestroyed stopped.length }
      stopped
      events := if target < a.pool.created then [.shrunk stopped.length surplus] else [] }
  else
    let (pool, stopped) := a.pool.clear
    { allocator :=
        { a with servers, target, pool,
                 statistics := a.statistics.addDestroyed stopped.length }
      stopped
      events := [.serversChanged servers.stun.size servers.relays.length stopped.length] }

/-! ### Filling the pool -/

/-- What is told of new sessions that join a pool of the given size. -/
def eventsOfMade : (size : Nat) → List PooledSession → List Event
  | _, [] => []
  | size, s :: later =>
    Event.ofCall s.session .start ++ .created s.id (size + 1) :: eventsOfMade (size + 1) later

def eventsOfSeries {σ : Type} (size : Nat) (series : Series σ) : List Event :=
  eventsOfMade size series.made ++
    match series.failure with
    | none => []
    | some (id, cause) => [.creationFailed id cause]

/-- The attempts that bring the created count up to the target, or end at an error. -/
def attempts {σ : Type} (F : Factory σ) (a : Allocator) (state : σ) : Series σ :=
  Series.make F a.servers (a.target - a.pool.created) a.nextId state

def absorb {σ : Type} (a : Allocator) (series : Series σ) : Allocator :=
  { a with
    pool := a.pool.pushAll series.made
    nextId := series.nextId
    statistics := a.statistics.addCreated series.made.length }

/-- Brings the counted number of waiting sessions up to date. -/
def settle (a : Allocator) : Allocator :=
  { a with statistics := a.statistics.setPooled a.pool.size }

/-! ### Reconciling -/

structure Reconciliation (σ : Type) where
  allocator : Allocator
  factory : σ
  failure : Option PoolError
  /-- The sessions that came into being, in order. -/
  made : List PooledSession
  /-- The sessions stopped, in order. -/
  stopped : List PooledSession
  events : List Event

def reconcile {σ : Type} (F : Factory σ) (a : Allocator) (state : σ) (servers : Servers)
    (requested : Int32) : Reconciliation σ :=
  let clamping := if requested < 0 then [Event.sizeClamped requested] else []
  let adoption := a.adopt servers (clampSize requested)
  let series := adoption.allocator.attempts F state
  let after := (adoption.allocator.absorb series).settle
  { allocator := after
    factory := series.factory
    failure := series.failure.map fun (_, cause) => .session cause
    made := series.made
    stopped := adoption.stopped
    events := clamping ++ adoption.events
      ++ eventsOfSeries adoption.allocator.pool.size series ++ [after.health] }

/-! ### Claiming and discarding -/

/-- Hands over the oldest waiting session, with an identity; nothing if none waits. -/
def claim (a : Allocator) (identity : Identity) :
    Allocator × Option ClaimedSession × List Event :=
  match a.pool.popFront? with
  | none => (a, none, [])
  | some (s, pool) =>
    (settle { a with pool, statistics := a.statistics.addClaimed }, some (s.claim identity),
      [.claiming s.id identity.contentName identity.component])

/-- Stops all waiting sessions.  The created count stays, so the pool fills again only when the
    target grows beyond it or other servers come into effect. -/
def discard (a : Allocator) : Allocator × List PooledSession × List Event :=
  let (pool, stopped) := a.pool.drain
  (settle { a with pool, statistics := a.statistics.addDestroyed stopped.length }, stopped,
    [.discarded stopped.length])

/-- Gives the allocator up: what still waits is stopped, and nothing is counted or told. -/
def close (a : Allocator) : Allocator × List PooledSession :=
  let (pool, stopped) := a.pool.drain
  ({ a with pool }, stopped)

end Allocator

end CandidatePool
