import CandidatePool.Allocator.Request
import CandidatePool.Proofs.Reconciliation
/-!
The history of an allocator: what has come of the requests that it served so far.  A history holds
the allocator and the factory as they are now, and it keeps what the allocator itself forgets, all
answers, all sessions made, handed over and stopped.  A state can be reached when some list of
requests, served by a new allocator, leads to it, so that a fact about `History.of` for every list
of requests is a fact about every reachable state.

The history also counts the departed sessions.  These left the pool by a claim or a discard under
the servers in effect, and the allocator does not count them itself.
-/

namespace CandidatePool

variable {σ : Type}

/-! ### Serving and remembering -/

/-- An allocator and its factory, with what has come of all requests so far. -/
structure History (σ : Type) where
  factory : σ
  allocator : Allocator := {}
  answers : List Answer := []
  /-- The sessions that came into being, in order. -/
  made : List PooledSession := []
  /-- The sessions handed over, in order, each with the identity that the caller asked for. -/
  handed : List (Identity × ClaimedSession) := []
  /-- The sessions that the allocator stopped, in order, as they were then. -/
  stopped : List PooledSession := []
  /-- How many sessions left the pool by a claim or a discard under the servers in effect. -/
  departed : Nat := 0

/-- The session that an answer hands over, with the identity asked for; a list of at most one. -/
def Request.handed : Request → Answer → List (Identity × ClaimedSession)
  | .claim identity, .claimed (some session) => [(identity, session)]
  | _, _ => []

namespace History

def start (state : σ) : History σ := { factory := state }

/-- The count of departed sessions after a request.  Other servers start it anew. -/
def departedAfter (h : History σ) (outcome : Outcome σ) : Request → Nat
  | .reconcile servers _ => if servers = h.allocator.servers then h.departed else 0
  | .claim identity => h.departed + (Request.handed (.claim identity) outcome.answer).length
  | .discard => h.departed + outcome.stopped.length
  | .peek | .health => h.departed

def serve (F : Factory σ) (h : History σ) (request : Request) : History σ :=
  let outcome := h.allocator.serve F h.factory request
  { factory := outcome.factory
    allocator := outcome.allocator
    answers := h.answers ++ [outcome.answer]
    made := h.made ++ outcome.made
    handed := h.handed ++ request.handed outcome.answer
    stopped := h.stopped ++ outcome.stopped
    departed := h.departedAfter outcome request }

def serveAll (F : Factory σ) (h : History σ) (requests : List Request) : History σ :=
  requests.foldl (serve F) h

/-- The history of a new allocator that has served requests. -/
def of (F : Factory σ) (state : σ) (requests : List Request) : History σ :=
  (start state).serveAll F requests

/-- What comes of more requests, one by one. -/
def outcomes (F : Factory σ) (h : History σ) (requests : List Request) : List (Outcome σ) :=
  h.allocator.serveAll F h.factory requests

/-- The history after the allocator was given up. -/
def close (h : History σ) : History σ :=
  let (allocator, stopped) := h.allocator.close
  { h with allocator, stopped := h.stopped ++ stopped }

/-! ### Histories as runs -/

section Runs

variable (F : Factory σ) (h : History σ) (state : σ)

@[simp] theorem serveAll_nil : h.serveAll F [] = h := rfl

@[simp] theorem serveAll_cons (request : Request) (later : List Request) :
    h.serveAll F (request :: later) = (h.serve F request).serveAll F later := rfl

theorem serveAll_append (requests later : List Request) :
    h.serveAll F (requests ++ later) = (h.serveAll F requests).serveAll F later :=
  List.foldl_append ..

theorem of_concat (requests : List Request) (request : Request) :
    of F state (requests ++ [request]) = (of F state requests).serve F request :=
  serveAll_append F (start state) requests [request]

theorem outcomes_append (requests later : List Request) :
    h.outcomes F (requests ++ later) =
      h.outcomes F requests ++ (h.serveAll F requests).outcomes F later := by
  induction requests generalizing h with
  | nil => rfl
  | cons request requests ih =>
      exact congrArg (h.allocator.serve F h.factory request :: ·) (ih (h.serve F request))

theorem outcomes_take (requests : List Request) (n : Nat) :
    (h.outcomes F requests).take n = h.outcomes F (requests.take n) := by
  induction requests generalizing h n with
  | nil => simp [outcomes, Allocator.serveAll]
  | cons request requests ih =>
      cases n with
      | zero => rfl
      | succ n =>
          exact congrArg (h.allocator.serve F h.factory request :: ·) (ih (h.serve F request) n)

variable {F h state}

/-- What every request preserves holds after all of them. -/
theorem serveAll_induction {P : History σ → Prop} (hstep : ∀ h request, P h → P (h.serve F request))
    (hstart : P h) (requests : List Request) : P (h.serveAll F requests) := by
  induction requests generalizing h with
  | nil => exact hstart
  | cons request later ih => exact ih (hstep h request hstart)

end Runs

/-! ### What a request does to a history -/

section Steps

variable (F : Factory σ) {h : History σ}

theorem serve_claim_of_nil (identity : Identity) (hempty : h.allocator.pool.sessions = []) :
    h.serve F (.claim identity) = { h with answers := h.answers ++ [.claimed none] } := by
  simp [serve, Allocator.serve, Allocator.claim, Pool.popFront?, hempty, Request.handed,
    departedAfter]

theorem serve_claim_of_cons (identity : Identity) {s : PooledSession} {rest : List PooledSession}
    (hpool : h.allocator.pool.sessions = s :: rest) :
    h.serve F (.claim identity) =
      { h with
        allocator :=
          { h.allocator with
            pool := { h.allocator.pool with sessions := rest }
            statistics := h.allocator.statistics.addClaimed.setPooled rest.length }
        answers := h.answers ++ [.claimed (some (s.claim identity))]
        handed := h.handed ++ [(identity, s.claim identity)]
        departed := h.departed + 1 } := by
  simp [serve, Allocator.serve, Allocator.claim, Allocator.settle, Pool.popFront?, Pool.size, hpool,
    Request.handed, departedAfter]

/-- A claim that hands a session over hands over the one at the front. -/
theorem exists_front_of_claimed {identity : Identity} {session : ClaimedSession}
    (hanswer : (h.allocator.serve F h.factory (.claim identity)).answer = .claimed (some session)) :
    ∃ s rest, h.allocator.pool.sessions = s :: rest ∧ session = s.claim identity := by
  cases hpool : h.allocator.pool.sessions with
  | nil => simp [Allocator.serve, Allocator.claim, Pool.popFront?, hpool] at hanswer
  | cons s rest =>
      refine ⟨s, rest, rfl, ?_⟩
      simpa [Allocator.serve, Allocator.claim, Pool.popFront?, hpool, eq_comm] using hanswer

theorem serve_discard :
    h.serve F .discard =
      { h with
        allocator :=
          { h.allocator with
            pool := { h.allocator.pool with sessions := [] }
            statistics := (h.allocator.statistics.addDestroyed h.allocator.pool.size).setPooled 0 }
        answers := h.answers ++ [.discarded]
        stopped := h.stopped ++ h.allocator.pool.sessions.map (·.stop)
        departed := h.departed + h.allocator.pool.size } := by
  simp [serve, Allocator.serve, Allocator.discard, Allocator.settle, Pool.drain, Pool.size,
    Request.handed, departedAfter]

theorem serve_peek :
    h.serve F .peek = { h with answers := h.answers ++ [.peeked h.allocator.front?] } := by
  simp [serve, Allocator.serve, Request.handed, departedAfter]

theorem serve_health : h.serve F .health = { h with answers := h.answers ++ [.told] } := by
  simp [serve, Allocator.serve, Request.handed, departedAfter]

theorem serve_reconcile (servers : Servers) (size : Int32) :
    h.serve F (.reconcile servers size) =
      let r := h.allocator.reconcile F h.factory servers size
      { h with
        factory := r.factory
        allocator := r.allocator
        answers := h.answers ++ [.reconciled r.failure]
        made := h.made ++ r.made
        stopped := h.stopped ++ r.stopped
        departed := if servers = h.allocator.servers then h.departed else 0 } := by
  simp [serve, Allocator.serve, Request.handed, departedAfter]

/-- All that a request can do: nothing but answer, reconcile, hand over the oldest session, or stop
    those that wait. -/
theorem serve_cases (h : History σ) (request : Request) :
    (∃ answer, h.serve F request = { h with answers := h.answers ++ [answer] }) ∨
      (∃ servers size, request = .reconcile servers size) ∨
      (∃ identity s rest, request = .claim identity ∧ h.allocator.pool.sessions = s :: rest) ∨
      request = .discard := by
  cases request with
  | reconcile servers size => exact .inr (.inl ⟨servers, size, rfl⟩)
  | claim identity =>
      cases hpool : h.allocator.pool.sessions with
      | nil => exact .inl ⟨_, serve_claim_of_nil F identity hpool⟩
      | cons s rest => exact .inr (.inr (.inl ⟨identity, s, rest, rfl, rfl⟩))
  | discard => exact .inr (.inr (.inr rfl))
  | peek => exact .inl ⟨_, serve_peek F⟩
  | health => exact .inl ⟨_, serve_health F⟩

end Steps

/-! ### Listening to the factory -/

section Recorded

variable (F : Factory σ) (h : History σ) (state : σ)

def attempted : Request → List Attempt
  | .reconcile servers size =>
    let adopted := (h.allocator.adopt servers (clampSize size)).allocator
    Series.attempts F adopted.servers (adopted.target - adopted.pool.created) adopted.nextId
      h.factory
  | .claim _ | .discard | .peek | .health => []

/-- The same history over a factory that has been listened to. -/
def withLog (log : List Attempt) : History (σ × List Attempt) :=
  { h with factory := (h.factory, log) }

/-- A factory that is listened to makes no difference but to the list of attempts. -/
theorem outcome_recorded (log : List Attempt) (request : Request) :
    (h.withLog log).allocator.serve F.recorded (h.withLog log).factory request =
      let o := h.allocator.serve F h.factory request
      ⟨o.allocator, (o.factory, log ++ h.attempted F request), o.answer, o.made, o.stopped,
        o.events⟩ := by
  cases request with
  | reconcile servers size =>
      simp only [withLog, attempted, Allocator.serve, Allocator.reconcile, Allocator.attempts,
        Series.make_recorded]
      rfl
  | claim identity => simp [withLog, attempted, Allocator.serve]
  | discard => simp [withLog, attempted, Allocator.serve]
  | peek => simp [withLog, attempted, Allocator.serve]
  | health => simp [withLog, attempted, Allocator.serve]

theorem serve_recorded (log : List Attempt) (request : Request) :
    (h.withLog log).serve F.recorded request =
      (h.serve F request).withLog (log ++ h.attempted F request) := by
  rw [serve, outcome_recorded]
  cases request <;> rfl

theorem filterMap_attempted (request : Request) :
    (h.serve F request).made = h.made ++ (h.attempted F request).filterMap Attempt.session? := by
  cases request with
  | reconcile servers size =>
      simp only [serve_reconcile, attempted, Series.filterMap_attempts]
      rfl
  | claim identity => simp [serve, attempted, Allocator.serve]
  | discard => simp [serve_discard, attempted]
  | peek => simp [serve_peek, attempted]
  | health => simp [serve_health, attempted]

theorem exists_log_serveAll (log : List Attempt) (requests : List Request) :
    ∃ more, (h.withLog log).serveAll F.recorded requests =
        (h.serveAll F requests).withLog (log ++ more) ∧
      (h.serveAll F requests).made = h.made ++ more.filterMap Attempt.session? := by
  induction requests generalizing h log with
  | nil => exact ⟨[], by simp⟩
  | cons request later ih =>
      obtain ⟨more, hrun, hmade⟩ := ih (h.serve F request) (log ++ h.attempted F request)
      refine ⟨h.attempted F request ++ more, ?_, ?_⟩
      · rw [serveAll_cons, serve_recorded, hrun, serveAll_cons, List.append_assoc]
      · rw [serveAll_cons, hmade, filterMap_attempted, List.filterMap_append, List.append_assoc]

/-- The sessions made are those that the factory returned. -/
theorem filterMap_log (requests : List Request) :
    (of F.recorded (state, []) requests).factory.2.filterMap Attempt.session? =
      (of F state requests).made := by
  obtain ⟨more, hrun, hmade⟩ := exists_log_serveAll F (start state) [] requests
  have hlog : (of F.recorded (state, []) requests).factory.2 = more :=
    congrArg (·.factory.2) hrun
  rw [hlog, of, hmade]
  rfl

end Recorded

end History

end CandidatePool
