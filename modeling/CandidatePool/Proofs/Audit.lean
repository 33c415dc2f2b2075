import CandidatePool.Proofs.Conservation
import CandidatePool.Proofs.LogReading
import Mathlib.Algebra.Ring.Nat
/-!
The log as an audit trail.  Someone who has nothing but the log can follow the pool: a line that a
session was created puts its number at the back, a line that one is claimed takes it from the front,
and a line that sessions were destroyed says how many are missing at the back, or that all are.  Each
of these lines also says something that the follower knows already, such as the size of the pool, and
it is checked (`Notice.follow`).

The log bears this out whatever the factory does.  It also says of each failed attempt which one it was
and why it failed, and at the end of each reconciliation how the pool stands.
-/

namespace CandidatePool

variable {σ : Type}

/-! ### Following a log -/

/-- The numbers of the sessions that wait after a line was logged, or nothing if the line cannot be
    true of the sessions that waited before. -/
def Notice.follow (ids : List Nat) : Notice → Option (List Nat)
  | (.created, [id, size]) => if size = ids.length + 1 then some (ids ++ [id]) else none
  | (.claiming, [id]) => if ids.head? = some id then some ids.tail else none
  | (.shrunk, [removed, _]) =>
    if removed ≤ ids.length then some (ids.take (ids.length - removed)) else none
  | (.serversChanged, [_, _, destroyed]) => if destroyed = ids.length then some [] else none
  | (.discarded, [destroyed]) => if destroyed = ids.length then some [] else none
  | _ => some ids

/-- How many sessions a line says were destroyed. -/
def Notice.destroyed : Notice → Nat
  | (.shrunk, [removed, _]) => removed
  | (.serversChanged, [_, _, destroyed]) => destroyed
  | (.discarded, [destroyed]) => destroyed
  | _ => 0

namespace LogLine

/-- Follows a line, as far as it can be read. -/
def follow (ids : List Nat) (line : LogLine) : Option (List Nat) :=
  line.notice?.bind (Notice.follow ids)

def destroyed (line : LogLine) : Nat :=
  (line.notice?.map Notice.destroyed).getD 0

/-- The numbers of the sessions that wait after a log, if it is true. -/
def replay (ids : List Nat) (log : List LogLine) : Option (List Nat) :=
  log.foldlM follow ids

end LogLine

def Outcome.log (o : Outcome σ) : List LogLine := o.events.map Event.line

/-- The numbers of the sessions that wait, the oldest first. -/
def Pool.numbers (p : Pool) : List Nat := p.sessions.map (·.id.value.toNat)

/-- The numbers in a line about the pool's health. -/
def Allocator.healthNumbers (a : Allocator) : List Nat :=
  [a.target, a.pool.created, a.pool.size, a.statistics.created.toNat, a.statistics.claimed.toNat,
    a.statistics.destroyed.toNat]

/-- The line that warns of an attempt, if it failed. -/
def Attempt.warning? (attempt : Attempt) : Option LogLine :=
  match attempt.result with
  | .error e => some ⟨.warn, "icepool::allocator",
      "Failed to create pooled session " ++ attempt.id.label ++ ": " ++ e.message⟩
  | .ok _ => none

/-! ### Single lines -/

theorem LogLine.replay_append {ids next : List Nat} {log : List LogLine}
    (h : replay ids log = some next) (later : List LogLine) :
    replay ids (log ++ later) = replay next later := by
  rw [replay, List.foldlM_append, ← replay, h]
  rfl

namespace Event

variable (e : Event) (ids : List Nat)

theorem destroyed_line : e.line.destroyed = Notice.destroyed (e.phrase, e.numbers) := by
  rw [LogLine.destroyed, notice?_line]
  rfl

theorem replay_line (later : List Event) :
    LogLine.replay ids ((e :: later).map line) =
      (Notice.follow ids (e.phrase, e.numbers)).bind fun next =>
        LogLine.replay next (later.map line) := by
  rw [LogLine.replay, List.map_cons, List.foldlM_cons, LogLine.follow, notice?_line]
  rfl

/-- Starts are no news to one who follows the pool. -/
theorem replay_ofCall (s : Session) (hook : Hook) :
    LogLine.replay ids ((ofCall s hook).map line) = some ids := by
  unfold ofCall
  split
  · rw [replay_line]
    rfl
  · rfl

end Event

/-! ### The numbers in a pool -/

namespace Pool

variable (p : Pool)

@[simp] theorem length_numbers : p.numbers.length = p.size := by
  simp [numbers, size]

/-- What shrinking leaves is told by how many were removed. -/
theorem numbers_shrink (count : Nat) :
    (p.shrink count).2.length ≤ p.size ∧
      (p.shrink count).1.numbers = p.numbers.take (p.size - (p.shrink count).2.length) := by
  rw [p.length_shrink count]
  refine ⟨Nat.min_le_right .., ?_⟩
  have hleft : p.size - count = p.size - min count p.size := by omega
  simp only [shrink, numbers, List.map_take, hleft]

end Pool

/-! ### The events of one request -/

namespace Allocator

/-- New sessions are told of by their starts and by their places in the pool. -/
theorem cases_of_mem_eventsOfMade {size : Nat} {made : List PooledSession} {e : Event}
    (h : e ∈ eventsOfMade size made) : (∃ id, e = .started id) ∨ ∃ id n, e = .created id n := by
  induction made generalizing size with
  | nil => cases h
  | cons s made ih =>
      rw [eventsOfMade, List.mem_append, List.mem_cons] at h
      rcases h with hstart | rfl | hlater
      · unfold Event.ofCall at hstart
        split at hstart
        · exact .inl ⟨_, List.mem_singleton.mp hstart⟩
        · cases hstart
      · exact .inr ⟨_, _, rfl⟩
      · exact ih hlater

theorem eq_sizeClamped_of_mem {size : Int32} {e : Event}
    (h : e ∈ if size < 0 then [Event.sizeClamped size] else []) : e = .sizeClamped size := by
  split at h
  · exact List.mem_singleton.mp h
  · cases h

theorem cases_of_mem_events_adopt {a : Allocator} {servers : Servers} {target : Nat} {e : Event}
    (h : e ∈ (a.adopt servers target).events) :
    (∃ removed wanted, e = .shrunk removed wanted) ∨
      ∃ stun relays destroyed, e = .serversChanged stun relays destroyed := by
  unfold adopt at h
  split at h
  · simp only at h
    split at h
    · exact .inl ⟨_, _, List.mem_singleton.mp h⟩
    · cases h
  · exact .inr ⟨_, _, _, List.mem_singleton.mp h⟩

section Replay

variable (ids : List Nat)

/-- Each new session goes to the back, and the pool has the size that its line says. -/
theorem replay_eventsOfMade (made : List PooledSession) :
    LogLine.replay ids ((eventsOfMade ids.length made).map Event.line) =
      some (ids ++ made.map (·.id.value.toNat)) := by
  induction made generalizing ids with
  | nil => simp [eventsOfMade, LogLine.replay]
  | cons s made ih =>
      have hlater := ih (ids ++ [s.id.value.toNat])
      rw [List.length_append, List.length_singleton, List.append_assoc] at hlater
      rw [eventsOfMade, List.map_append, LogLine.replay_append (Event.replay_ofCall ..),
        Event.replay_line]
      have hcreated : Notice.follow ids ((Event.created s.id (ids.length + 1)).phrase,
          (Event.created s.id (ids.length + 1)).numbers) = some (ids ++ [s.id.value.toNat]) :=
        if_pos rfl
      rw [hcreated]
      exact hlater

theorem replay_eventsOfSeries (series : Series σ) :
    LogLine.replay ids ((eventsOfSeries ids.length series).map Event.line) =
      some (ids ++ series.made.map (·.id.value.toNat)) := by
  rw [eventsOfSeries, List.map_append, LogLine.replay_append (replay_eventsOfMade ids series.made)]
  cases series.failure with
  | none => rfl
  | some failed =>
      rw [Event.replay_line]
      rfl

end Replay

/-- What adopting a request removes is missing at the back, as its line says, or is all there was. -/
theorem replay_events_adopt (a : Allocator) (servers : Servers) (target : Nat) :
    LogLine.replay a.pool.numbers ((a.adopt servers target).events.map Event.line) =
      some (a.adopt servers target).allocator.pool.numbers := by
  unfold adopt
  split
  · obtain ⟨hle, hnumbers⟩ := a.pool.numbers_shrink (a.pool.created - target)
    simp only
    split
    · rw [Event.replay_line]
      simp only [Event.phrase, Event.numbers, Notice.follow, Pool.length_numbers, if_pos hle,
        hnumbers]
      rfl
    · -- nothing is in excess, so no line is logged, and shrinking leaves the pool as it was
      rename_i hnot
      rw [Nat.sub_eq_zero_of_le (Nat.le_of_not_lt hnot), Pool.shrink_zero]
      rfl
  · have hall : a.pool.clear.2.length = a.pool.size := by
      simp [Pool.clear, Pool.drain, Pool.size]
    rw [Event.replay_line]
    simp only [Event.phrase, Event.numbers, Notice.follow, Pool.length_numbers, if_pos hall]
    rfl

section Serve

variable (F : Factory σ) (a : Allocator) (state : σ)

theorem replay_log_reconcile (servers : Servers) (size : Int32) :
    LogLine.replay a.pool.numbers (a.serve F state (.reconcile servers size)).log =
      some (a.serve F state (.reconcile servers size)).allocator.pool.numbers := by
  have hclamping : LogLine.replay a.pool.numbers
      ((if size < 0 then [Event.sizeClamped size] else []).map Event.line) =
        some a.pool.numbers := by
    split
    · rw [Event.replay_line]
      rfl
    · rfl
  have hadopt := a.replay_events_adopt servers (clampSize size)
  have hseries := replay_eventsOfSeries (a.adopt servers (clampSize size)).allocator.pool.numbers
    ((a.adopt servers (clampSize size)).allocator.attempts F state)
  rw [Pool.length_numbers] at hseries
  simp only [Outcome.log, serve, reconcile, List.map_append]
  rw [List.append_assoc, List.append_assoc, LogLine.replay_append hclamping,
    LogLine.replay_append hadopt, LogLine.replay_append hseries, Event.replay_line]
  simp only [Pool.numbers, settle, absorb, Pool.pushAll, List.map_append]
  rfl

/-- Whoever follows the log of a request ends with the sessions that wait then. -/
theorem replay_log_serve (request : Request) :
    LogLine.replay a.pool.numbers (a.serve F state request).log =
      some (a.serve F state request).allocator.pool.numbers := by
  cases request with
  | reconcile servers size => exact a.replay_log_reconcile F state servers size
  | claim identity =>
      rcases hpool : a.pool with ⟨sessions, created⟩
      cases sessions with
      | nil =>
          simp [serve, claim, Pool.popFront?, hpool, Outcome.log, LogLine.replay]
      | cons s rest =>
          simp only [serve, claim, Pool.popFront?, hpool, Outcome.log, settle]
          rw [Event.replay_line]
          simp [Event.phrase, Event.numbers, Notice.follow, Pool.numbers, LogLine.replay]
  | discard =>
      have hall : a.pool.drain.2.length = a.pool.size := by
        simp [Pool.drain, Pool.size]
      simp only [serve, discard, Outcome.log]
      rw [Event.replay_line]
      simp only [Event.phrase, Event.numbers, Notice.follow, Pool.length_numbers, if_pos hall]
      rfl
  | peek => rfl
  | health =>
      simp only [serve, Outcome.log]
      rw [Event.replay_line]
      rfl

end Serve

end Allocator

/-! ### What was destroyed -/

namespace Event

def destroyed (events : List Event) : Nat :=
  ((events.map line).map LogLine.destroyed).sum

theorem destroyed_append (events later : List Event) :
    destroyed (events ++ later) = destroyed events + destroyed later := by
  simp only [destroyed, List.map_append, List.sum_append]

theorem destroyed_singleton (e : Event) : destroyed [e] = Notice.destroyed (e.phrase, e.numbers) := by
  simp [destroyed, destroyed_line]

theorem destroyed_eq_zero {events : List Event}
    (h : ∀ e ∈ events, Notice.destroyed (e.phrase, e.numbers) = 0) : destroyed events = 0 := by
  rw [destroyed, List.sum_eq_zero_iff_forall_eq_nat]
  simp only [List.map_map, List.forall_mem_map, Function.comp_apply, destroyed_line]
  exact h

end Event

namespace Allocator

theorem destroyed_eventsOfSeries (size : Nat) (series : Series σ) :
    Event.destroyed (eventsOfSeries size series) = 0 := by
  rw [eventsOfSeries, Event.destroyed_append]
  have hmade : Event.destroyed (eventsOfMade size series.made) = 0 := by
    refine Event.destroyed_eq_zero ?_
    intro e he
    rcases cases_of_mem_eventsOfMade he with ⟨id, rfl⟩ | ⟨id, n, rfl⟩
    · rfl
    · rfl
  rw [hmade]
  cases series.failure with
  | none => rfl
  | some failed => rw [Event.destroyed_singleton]; rfl

theorem destroyed_events_adopt (a : Allocator) (servers : Servers) (target : Nat) :
    Event.destroyed (a.adopt servers target).events = (a.adopt servers target).stopped.length := by
  unfold adopt
  split
  · simp only
    split
    · rw [Event.destroyed_singleton]
      rfl
    · rename_i hnot
      rw [Nat.sub_eq_zero_of_le (Nat.le_of_not_lt hnot), Pool.shrink_zero]
      rfl
  · rw [Event.destroyed_singleton]
    rfl

/-- Each session that a request stops is in the count of one of its lines. -/
theorem destroyed_events_serve (F : Factory σ) (a : Allocator) (state : σ) (request : Request) :
    Event.destroyed (a.serve F state request).events =
      (a.serve F state request).stopped.length := by
  cases request with
  | reconcile servers size =>
      have hclamping : Event.destroyed (if size < 0 then [Event.sizeClamped size] else []) = 0 := by
        refine Event.destroyed_eq_zero ?_
        intro e he
        rw [eq_sizeClamped_of_mem he]
        rfl
      simp only [serve, reconcile, Event.destroyed_append, Event.destroyed_singleton, hclamping,
        destroyed_events_adopt, destroyed_eventsOfSeries, Nat.zero_add]
      rfl
  | claim identity =>
      simp only [serve, claim]
      cases a.pool.popFront? with
      | none => rfl
      | some taken => exact Event.destroyed_singleton _
  | discard => exact Event.destroyed_singleton _
  | peek => rfl
  | health => exact Event.destroyed_singleton _

end Allocator

/-! ### What failed -/

@[simp] theorem Attempt.warning?_error (id : SessionId) (servers : Servers) (e : SessionError) :
    warning? ⟨id, servers, .error e⟩ = some (Event.creationFailed id e).line := rfl

@[simp] theorem Attempt.warning?_ok (id : SessionId) (servers : Servers) (kind : SessionKind) :
    warning? ⟨id, servers, .ok kind⟩ = none := rfl

theorem Series.warnings_attempts (F : Factory σ) (servers : Servers) (count : Nat) (id : SessionId)
    (state : σ) :
    (attempts F servers count id state).filterMap Attempt.warning? =
      match (make F servers count id state).failure with
      | none => []
      | some (id, cause) => [(Event.creationFailed id cause).line] := by
  induction count generalizing id state with
  | zero => rfl
  | succ count ih =>
      rcases heq : F id servers state with ⟨result, next⟩
      cases result with
      | error e => simp [make, attempts, heq]
      | ok kind =>
          simp only [make, attempts, heq]
          rw [List.filterMap_cons_none (Attempt.warning?_ok ..)]
          exact ih ..

/-- The lines among those of events that warn. -/
def Event.warnings (events : List Event) : List LogLine :=
  (events.map line).filter (·.level = .warn)

namespace Event

theorem warnings_append (events later : List Event) :
    warnings (events ++ later) = warnings events ++ warnings later := by
  simp only [warnings, List.map_append, List.filter_append]

theorem warnings_eq_nil {events : List Event} (h : ∀ e ∈ events, e.level ≠ .warn) :
    warnings events = [] := by
  rw [warnings, List.filter_eq_nil_iff, List.forall_mem_map]
  intro e he
  simp [line, h e he]

end Event

namespace Allocator

/-- A series warns of nothing but the failure that ended it. -/
theorem warnings_eventsOfSeries (size : Nat) (series : Series σ) :
    Event.warnings (eventsOfSeries size series) =
      match series.failure with
      | none => []
      | some (id, cause) => [(Event.creationFailed id cause).line] := by
  have hmade : Event.warnings (eventsOfMade size series.made) = [] := by
    refine Event.warnings_eq_nil ?_
    intro e he
    rcases cases_of_mem_eventsOfMade he with ⟨id, rfl⟩ | ⟨id, n, rfl⟩
    · exact Level.noConfusion
    · exact Level.noConfusion
  rw [eventsOfSeries, Event.warnings_append, hmade]
  cases series.failure with
  | none => rfl
  | some failed => rfl

theorem warnings_events_adopt (a : Allocator) (servers : Servers) (target : Nat) :
    Event.warnings (a.adopt servers target).events = [] := by
  refine Event.warnings_eq_nil ?_
  intro e he
  rcases cases_of_mem_events_adopt he with ⟨removed, wanted, rfl⟩ | ⟨stun, relays, destroyed, rfl⟩
  · exact Level.noConfusion
  · exact Level.noConfusion

end Allocator

theorem History.warnings_serve (F : Factory σ) (h : History σ) (request : Request) :
    Event.warnings (h.allocator.serve F h.factory request).events =
      (h.attempted F request).filterMap Attempt.warning? := by
  cases request with
  | reconcile servers size =>
      have hclamping : Event.warnings (if size < 0 then [Event.sizeClamped size] else []) = [] := by
        refine Event.warnings_eq_nil ?_
        intro e he
        rw [Allocator.eq_sizeClamped_of_mem he]
        exact Level.noConfusion
      simp only [Allocator.serve, Allocator.reconcile, Event.warnings_append, hclamping,
        Allocator.warnings_events_adopt, Allocator.warnings_eventsOfSeries, attempted,
        Series.warnings_attempts, List.nil_append]
      exact List.append_nil _
  | claim identity =>
      simp only [Allocator.serve, Allocator.claim]
      cases h.allocator.pool.popFront? with
      | none => rfl
      | some taken => rfl
  | discard => rfl
  | peek => rfl
  | health => rfl

/-! ### The pool's health -/

/-- The line about the pool's health has the numbers of the pool, if the counted size is right. -/
theorem Allocator.notice?_health {a : Allocator} (h : a.statistics.pooled.toNat = a.pool.size) :
    a.health.line.notice? = some (.health, a.healthNumbers) := by
  rw [Event.notice?_line, health, healthNumbers, ← h]
  rfl

/-- A reconciliation ends with the only line about the pool's health, whether it fails or not. -/
theorem Allocator.exists_health_last (F : Factory σ) (a : Allocator) (state : σ) (servers : Servers)
    (size : Int32) :
    let o := a.serve F state (.reconcile servers size)
    ∃ earlier, o.events = earlier ++ [o.allocator.health] ∧ ∀ e ∈ earlier, e.phrase ≠ .health := by
  intro o
  refine ⟨_, rfl, ?_⟩
  intro e he
  rw [List.mem_append, List.mem_append] at he
  rcases he with (hclamped | hadopted) | hseries
  · rw [eq_sizeClamped_of_mem hclamped]
    exact Phrase.noConfusion
  · rcases cases_of_mem_events_adopt hadopted with ⟨removed, wanted, rfl⟩ |
      ⟨stun, relays, destroyed, rfl⟩
    · exact Phrase.noConfusion
    · exact Phrase.noConfusion
  · rw [eventsOfSeries, List.mem_append] at hseries
    rcases hseries with hmade | hfailed
    · rcases cases_of_mem_eventsOfMade hmade with ⟨id, rfl⟩ | ⟨id, n, rfl⟩
      · exact Phrase.noConfusion
      · exact Phrase.noConfusion
    · split at hfailed
      · cases hfailed
      · rw [List.mem_singleton.mp hfailed]
        exact Phrase.noConfusion

/-! ### Every run -/

namespace History

section Runs

variable (F : Factory σ) (h : History σ)

def log (requests : List Request) : List LogLine :=
  (h.outcomes F requests).flatMap Outcome.log

theorem log_cons (request : Request) (later : List Request) :
    h.log F (request :: later) =
      (h.allocator.serve F h.factory request).log ++ (h.serve F request).log F later :=
  rfl

theorem replay_log (requests : List Request) :
    LogLine.replay h.allocator.pool.numbers (h.log F requests) =
      some (h.serveAll F requests).allocator.pool.numbers := by
  induction requests generalizing h with
  | nil => rfl
  | cons request later ih =>
      rw [log_cons, LogLine.replay_append (h.allocator.replay_log_serve F h.factory request)]
      exact ih (h.serve F request)

theorem destroyed_log (requests : List Request) :
    (h.serveAll F requests).stopped.length =
      h.stopped.length + ((h.log F requests).map LogLine.destroyed).sum := by
  induction requests generalizing h with
  | nil => rfl
  | cons request later ih =>
      have hfirst : ((h.allocator.serve F h.factory request).log.map LogLine.destroyed).sum =
          (h.allocator.serve F h.factory request).stopped.length :=
        h.allocator.destroyed_events_serve F h.factory request
      rw [serveAll_cons, ih, log_cons, List.map_append, List.sum_append, hfirst]
      simp only [serve, List.length_append]
      omega

theorem warnings_log (requests : List Request) :
    (h.log F requests).filter (·.level = .warn) =
      (h.attemptedAll F requests).filterMap Attempt.warning? := by
  induction requests generalizing h with
  | nil => rfl
  | cons request later ih =>
      have hfirst : (h.allocator.serve F h.factory request).log.filter (·.level = .warn) =
          (h.attempted F request).filterMap Attempt.warning? :=
        h.warnings_serve F request
      rw [log_cons, List.filter_append, hfirst, ih, attemptedAll, List.filterMap_append]

end Runs

/-- Whatever fails, whoever follows the log knows after each request which sessions wait and in which
    order, and no line contradicts what is known by then.  The lines account for all sessions
    destroyed, and one warning stands for each failed attempt, with its number and its cause.  Each
    reconciliation ends with a line that gives the target, the created count, the size of the pool
    and the three totals as they are then, and so does asking for that line. -/
theorem log_accounts_for_run (F : Factory σ) (state : σ) (requests : List Request) :
    let h := of F state requests
    let log := (start state).log F requests
    (∀ n, LogLine.replay [] ((((start state).outcomes F requests).take n).flatMap Outcome.log) =
      some (of F state (requests.take n)).allocator.pool.numbers) ∧
    h.allocator.statistics.destroyed = .ofNat (log.map LogLine.destroyed).sum ∧
    log.filter (·.level = .warn) =
      (of F.recorded (state, []) requests).factory.2.filterMap Attempt.warning? ∧
    (∀ servers size,
      let o := h.allocator.serve F h.factory (.reconcile servers size)
      ∃ earlier last, o.log = earlier ++ [last] ∧
        last.notice? = some (.health, o.allocator.healthNumbers) ∧
        ∀ line ∈ earlier, ∀ numbers, line.notice? ≠ some (.health, numbers)) ∧
    ∃ line, (h.allocator.serve F h.factory .health).log = [line] ∧
      line.notice? = some (.health, h.allocator.healthNumbers) := by
  intro h log
  refine ⟨?_, ?_, ?_, ?_, ?_⟩
  · intro n
    rw [outcomes_take]
    exact replay_log F (start state) (requests.take n)
  · have hstopped := destroyed_log F (start state) requests
    have hcount : h.stopped.length = (log.map LogLine.destroyed).sum := by
      rw [show h.stopped.length = _ from hstopped]
      exact Nat.zero_add _
    rw [(counted_of F state requests).destroyed, hcount]
  · rw [log_eq_attemptedAll]
    exact warnings_log F (start state) requests
  · intro servers size o
    obtain ⟨earlier, hevents, hearlier⟩ :=
      h.allocator.exists_health_last F h.factory servers size
    refine ⟨earlier.map Event.line, o.allocator.health.line, ?_, ?_, ?_⟩
    · rw [Outcome.log, hevents, List.map_append]
      rfl
    · -- the reconciliation is the last request of a run, and the count is right after every run
      have hafter := toNat_pooled F state (requests ++ [.reconcile servers size])
      rw [of, serveAll_append] at hafter
      exact Allocator.notice?_health hafter
    · intro line hline numbers hnotice
      obtain ⟨e, he, rfl⟩ := List.mem_map.mp hline
      rw [Event.notice?_line, Option.some.injEq, Prod.mk.injEq] at hnotice
      exact hearlier e he hnotice.1
  · exact ⟨h.allocator.health.line, rfl, Allocator.notice?_health (toNat_pooled F state requests)⟩

end History

end CandidatePool
