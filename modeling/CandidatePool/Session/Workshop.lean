import CandidatePool.Session.Factory
/-!
A workshop drives a factory and its sessions by hand, without a pool between them: it asks for
sessions, keeps what it gets in the order in which it came, and calls hooks on it.  It may also put
up a session of its own, which no factory counts.
-/

namespace CandidatePool

/-- A factory's counters and the sessions at hand. -/
structure Workshop where
  counters : FactoryCounters := {}
  sessions : List Session := []

namespace Workshop

inductive Task where
  | make (id : SessionId) (servers : Servers)
  /-- Put up a session that belongs to no factory. -/
  | putUp (id : SessionId) (servers : Servers)
  | call (place : Nat) (hook : Hook)

inductive Result where
  | session (s : Session)
  /-- A session that was given an identity, and whether that is the one it had before. -/
  | assigned (identity : Identity) (repeated : Bool) (s : Session)
  | failed (e : SessionError)
  | noSuchSession

def perform (plan : FactoryPlan) (w : Workshop) : Task → Workshop × Result
  | .make id servers =>
    match plan.factory id servers w.counters with
    | (.error e, counters) => ({ w with counters }, .failed e)
    | (.ok kind, counters) =>
      let s : Session := { id, servers, kind }
      ({ counters, sessions := w.sessions ++ [s] }, .session s)
  | .putUp id servers =>
    let s : Session := { id, servers, kind := .detached }
    ({ w with sessions := w.sessions ++ [s] }, .session s)
  | .call place hook =>
    match w.sessions[place]? with
    | none => (w, .noSuchSession)
    | some s =>
      let after := s.call hook
      let result := match hook with
        | .assign identity => .assigned identity (s.identities.getLast? = some identity) after
        | .start | .stop => .session after
      ({ counters := w.counters.noteCall s hook, sessions := w.sessions.set place after }, result)

end Workshop

end CandidatePool
