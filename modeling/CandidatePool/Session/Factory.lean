import CandidatePool.Error
import CandidatePool.Session.Basic
/-!
Where sessions come from.  A factory is asked with an identifier and servers, and either a session
comes into being or there is an error; the factory has a state of its own, which says how it goes
on.  Nothing is asked of factories here, so what is shown of a pool holds whatever its factory does.

`Series.make` asks a factory for several sessions in a row and ends at the first error.  A
`FactoryPlan` describes the factories that tests and dry runs use: they make sessions that do no
work, fail at the attempts they are told to, and run out after a number of sessions.
-/

namespace CandidatePool

/-- What a factory does when it is asked for a session: it names the kind of the session that it
    made, or the error, and goes on in another state. -/
abbrev Factory (σ : Type) := SessionId → Servers → σ → Except SessionError SessionKind × σ

/-! ### Several sessions in a row -/

/-- What asking a factory several times in a row came to. -/
structure Series (σ : Type) where
  /-- The new sessions, the oldest first. -/
  made : List PooledSession
  /-- The error that ended the series, with the identifier that was tried. -/
  failure : Option (SessionId × SessionError)
  /-- The identifier for the next attempt.  One that was tried is not tried again. -/
  nextId : SessionId
  factory : σ

/-- Asks for `count` sessions with consecutive identifiers, and for none after an error. -/
def Series.make {σ : Type} (F : Factory σ) (servers : Servers) :
    (count : Nat) → SessionId → σ → Series σ
  | 0, id, state => ⟨[], none, id, state⟩
  | count + 1, id, state =>
    match F id servers state with
    | (.error e, state) => ⟨[], some (id, e), id.next, state⟩
    | (.ok kind, state) =>
      let later := make F servers count id.next state
      { later with made := .warm id servers kind :: later.made }

/-! ### Factories for tests and dry runs -/

/-- How a factory that does no work behaves. -/
structure FactoryPlan where
  /-- How many sessions it can make in its life, if there is a limit. -/
  limit : Option Nat := none
  /-- The attempts that fail, counted from 1, each with its error. -/
  failures : List (Nat × SessionError) := []
  kind : SessionKind := .recording

structure FactoryCounters where
  attempts : Nat := 0
  made : Nat := 0
  /-- The stops that its sessions have reported. -/
  stopped : Nat := 0
deriving DecidableEq

namespace FactoryCounters

def noteCall (c : FactoryCounters) (s : Session) (h : Hook) : FactoryCounters :=
  { c with stopped := c.stopped + s.stopsReportedBy h }

/-- The counters after sessions of a pool were stopped. -/
def noteStopped (c : FactoryCounters) (stopped : List PooledSession) : FactoryCounters :=
  { c with stopped := c.stopped + stopped.countP (·.session.kind.reportsStop) }

end FactoryCounters

namespace FactoryPlan

def exhausted (limit : Nat) : SessionError :=
  .resource ("fake factory limit of " ++ toString limit ++ " sessions reached")

/-- The factory of a plan.  An attempt that is to fail fails before the limit is looked at. -/
def factory (plan : FactoryPlan) : Factory FactoryCounters := fun _ _ counters =>
  let counters := { counters with attempts := counters.attempts + 1 }
  match plan.failures.lookup counters.attempts with
  | some e => (.error e, counters)
  | none =>
    match plan.limit.filter (· ≤ counters.made) with
    | some limit => (.error (exhausted limit), counters)
    | none => (.ok plan.kind, { counters with made := counters.made + 1 })

end FactoryPlan

end CandidatePool
