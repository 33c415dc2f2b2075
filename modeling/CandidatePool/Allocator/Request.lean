import CandidatePool.Allocator.Basic
/-!
The operations of an allocator as data.  A request says what is asked, an answer what the one who
asked gets to see, and an outcome holds the answer together with all that happened: the allocator
and the factory as they are afterwards, the sessions made and stopped, and the events.  A history is
a list of requests served one after the other.
-/

namespace CandidatePool

inductive Request where
  | reconcile (servers : Servers) (size : Int32)
  | claim (identity : Identity)
  | discard
  | peek
  | health
deriving DecidableEq

inductive Answer where
  /-- The request was applied; if the filling ended early, with the error that ended it. -/
  | reconciled (failure : Option PoolError)
  | claimed (session : Option ClaimedSession)
  | discarded
  | peeked (session : Option PooledSession)
  | told
deriving DecidableEq

/-- All that serving a request came to. -/
structure Outcome (σ : Type) where
  allocator : Allocator
  factory : σ
  answer : Answer
  made : List PooledSession := []
  stopped : List PooledSession := []
  events : List Event := []

namespace Allocator

def serve {σ : Type} (F : Factory σ) (a : Allocator) (state : σ) : Request → Outcome σ
  | .reconcile servers size =>
    let r := a.reconcile F state servers size
    ⟨r.allocator, r.factory, .reconciled r.failure, r.made, r.stopped, r.events⟩
  | .claim identity =>
    let (after, session, events) := a.claim identity
    ⟨after, state, .claimed session, [], [], events⟩
  | .discard =>
    let (after, stopped, events) := a.discard
    ⟨after, state, .discarded, [], stopped, events⟩
  | .peek => ⟨a, state, .peeked a.front?, [], [], []⟩
  | .health => ⟨a, state, .told, [], [], [a.health]⟩

/-- The answer to a reconciliation is how its filling ended. -/
theorem answer_eq_reconciled_iff {σ : Type} (F : Factory σ) (a : Allocator) (state : σ)
    (servers : Servers) (size : Int32) (failure : Option PoolError) :
    (a.serve F state (.reconcile servers size)).answer = .reconciled failure ↔
      (a.reconcile F state servers size).failure = failure :=
  ⟨Answer.reconciled.inj, congrArg Answer.reconciled⟩

def serveAll {σ : Type} (F : Factory σ) (a : Allocator) (state : σ) :
    List Request → List (Outcome σ)
  | [] => []
  | request :: later =>
    let outcome := a.serve F state request
    outcome :: serveAll F outcome.allocator outcome.factory later

end Allocator

end CandidatePool
