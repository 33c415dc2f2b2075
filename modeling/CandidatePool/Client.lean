import CandidatePool.Allocator.Request
import CandidatePool.Settings.Reader
/-!
A client of an allocator: it holds the allocator, whose sessions come from the factory of a plan, and
the sessions that it has claimed.  It may do with its claims what it likes, and nothing that it does
with them reaches the allocator.

Claims are numbered from 0 in the order in which they were made.  A claim that was released leaves
its place empty, and the place is not used again.
-/

namespace CandidatePool

/-- An allocator, its factory's counters, and the claims. -/
structure Client where
  allocator : Allocator := {}
  counters : FactoryCounters := {}
  claims : List (Option ClaimedSession) := []

namespace Client

inductive Command where
  | configure (servers : Servers) (size : Int32)
  /-- Apply a size and leave the servers. -/
  | resize (size : Int32)
  /-- Apply the settings that a text says, without looking for faults in them. -/
  | applyText (text : String)
  | peek
  | take (identity : Identity)
  /-- Claim until nothing is left. -/
  | drain
  | discard
  | health
  | servers
  | inspect (claim : Nat)
  | call (claim : Nat) (hook : Hook)
  /-- Let go of a claim. -/
  | release (claim : Nat)
  /-- Let go of a claim and keep its session and identity. -/
  | unwrap (claim : Nat)

inductive Reply where
  | done
  /-- The pool could not be filled. -/
  | failed (cause : PoolError)
  /-- The text was no settings text, and nothing was applied. -/
  | malformed
  | peeked (session : Option PooledSession)
  | claimed (session : Option ClaimedSession)
  | drained (ids : List SessionId)
  | servers (servers : Servers)
  /-- A claim, and whether its servers are those in effect. -/
  | inspected (claim : ClaimedSession) (current : Bool)
  | unwrapped (session : Session) (identity : Identity)
  | noSuchClaim

structure Effect where
  client : Client
  reply : Reply
  events : List Event := []

/-- The claim at a place, if it was made and not let go of. -/
def claim? (c : Client) (claim : Nat) : Option ClaimedSession :=
  (c.claims[claim]?).join

/-- Lets the allocator serve a request.  The factory hears of the sessions stopped. -/
def ask (plan : FactoryPlan) (c : Client) (request : Request) : Client × Answer × List Event :=
  let outcome := c.allocator.serve plan.factory c.counters request
  ({ c with
      allocator := outcome.allocator
      counters := outcome.factory.noteStopped outcome.stopped },
    outcome.answer, outcome.events)

def configure (plan : FactoryPlan) (c : Client) (servers : Servers) (size : Int32) : Effect :=
  match c.ask plan (.reconcile servers size) with
  | (after, .reconciled (some cause), events) => ⟨after, .failed cause, events⟩
  | (after, _, events) => ⟨after, .done, events⟩

/-- Claims the oldest session and keeps it. -/
def take (plan : FactoryPlan) (c : Client) (identity : Identity) :
    Client × Option ClaimedSession × List Event :=
  match c.ask plan (.claim identity) with
  | (after, .claimed (some session), events) =>
    ({ after with claims := after.claims ++ [some session] }, some session, events)
  | (after, _, events) => (after, none, events)

/-- The identity under which a pool is drained. -/
def drainIdentity : Identity := ⟨"drain", 0, "u", "p"⟩

/-- Claims at most `count` sessions and keeps them. -/
def drain (plan : FactoryPlan) : (count : Nat) → Client → Client × List SessionId × List Event
  | 0, c => (c, [], [])
  | count + 1, c =>
    match c.take plan drainIdentity with
    | (after, none, events) => (after, [], events)
    | (after, some session, events) =>
      let (last, ids, later) := drain plan count after
      (last, session.id :: ids, events ++ later)

def withClaim (c : Client) (claim : Nat) (use : ClaimedSession → Effect) : Effect :=
  match c.claim? claim with
  | some session => use session
  | none => ⟨c, .noSuchClaim, []⟩

def step (plan : FactoryPlan) (c : Client) : Command → Effect
  | .configure servers size => c.configure plan servers size
  | .resize size => c.configure plan c.allocator.servers size
  | .applyText text =>
    match Settings.parse? text with
    | none => ⟨c, .malformed, []⟩
    | some s => c.configure plan s.servers s.poolSize
  | .peek => ⟨c, .peeked c.allocator.front?, []⟩
  | .take identity =>
    let (after, session, events) := c.take plan identity
    ⟨after, .claimed session, events⟩
  | .drain =>
    let (after, ids, events) := drain plan c.allocator.pool.size c
    ⟨after, .drained ids, events⟩
  | .discard =>
    let (after, _, events) := c.ask plan .discard
    ⟨after, .done, events⟩
  | .health =>
    let (after, _, events) := c.ask plan .health
    ⟨after, .done, events⟩
  | .servers => ⟨c, .servers c.allocator.servers, []⟩
  | .inspect claim =>
    c.withClaim claim fun s => ⟨c, .inspected s (s.servers = c.allocator.servers), []⟩
  | .call claim hook =>
    c.withClaim claim fun s =>
      let after := s.call hook
      ⟨{ c with
          claims := c.claims.set claim (some after)
          counters := c.counters.noteCall s.session hook },
        .claimed (some after), Event.ofCall s.session hook⟩
  | .release claim =>
    c.withClaim claim fun _ => ⟨{ c with claims := c.claims.set claim none }, .done, []⟩
  | .unwrap claim =>
    c.withClaim claim fun s =>
      ⟨{ c with claims := c.claims.set claim none }, .unwrapped s.session s.identity, []⟩

/-- Gives the allocator up.  The claims stay. -/
def close (c : Client) : Client :=
  let (allocator, stopped) := c.allocator.close
  { c with allocator, counters := c.counters.noteStopped stopped }

end Client

end CandidatePool
