import CandidatePool.Proofs.Audit
import CandidatePool.Proofs.Twin
import Mathlib.Logic.Relator
/-!
Two runs side by side that are asked for alike things.  What counts as alike is said beforehand, for
servers, for the identities of claims, and for the kinds of sessions and the errors that the factories
come up with (`Likeness`).  If alike servers are equal to alike servers at the same times, the two
allocators take the same decisions: their pools have sessions with the same numbers, one by one, and
both create and destroy as many.

If what is alike also looks alike in a log (`Likeness.Silent`), the two runs leave the same log.
-/

namespace CandidatePool

variable {σ τ : Type}

/-- What is alike in two runs. -/
structure Likeness where
  servers : Servers → Servers → Prop
  identities : Identity → Identity → Prop
  kinds : SessionKind → SessionKind → Prop
  errors : SessionError → SessionError → Prop

namespace Likeness

section Relations

variable (L : Likeness)

inductive Results : Except SessionError SessionKind → Except SessionError SessionKind → Prop where
  | ok {k l : SessionKind} (h : L.kinds k l) : Results (.ok k) (.ok l)
  | error {d e : SessionError} (h : L.errors d e) : Results (.error d) (.error e)

/-- The factories answer alike, whatever alike things they are asked from here on. -/
def Factories (F : Factory σ) (G : Factory τ) (state : σ) (state' : τ) : Prop :=
  ∀ asked asked', List.Forall₂ (fun p q => q.1 = p.1 ∧ L.servers p.2 q.2) asked asked' →
    ∀ id servers servers', L.servers servers servers' →
      L.Results (F id servers (F.after state asked)).1 (G id servers' (G.after state' asked')).1

structure Pooled (s t : PooledSession) : Prop where
  id : t.id = s.id
  servers : L.servers s.servers t.servers
  number : t.session.id = s.session.id
  bound : L.servers s.session.servers t.session.servers
  calls : t.session.calls = s.session.calls
  kind : L.kinds s.session.kind t.session.kind

structure Allocators (a b : Allocator) : Prop where
  servers : L.servers a.servers b.servers
  target : b.target = a.target
  created : b.pool.created = a.pool.created
  nextId : b.nextId = a.nextId
  sessions : List.Forall₂ L.Pooled a.pool.sessions b.pool.sessions

inductive Requests : Request → Request → Prop where
  | reconcile {s t : Servers} (h : L.servers s t) (size : Int32) :
      Requests (.reconcile s size) (.reconcile t size)
  | claim {i j : Identity} (h : L.identities i j) : Requests (.claim i) (.claim j)
  | discard : Requests .discard .discard
  | peek : Requests .peek .peek
  | health : Requests .health .health

/-- The series made as many sessions with the same numbers, or ended at the same attempt. -/
structure SeriesAlike (F : Factory σ) (G : Factory τ) (x : Series σ) (y : Series τ) : Prop where
  made : List.Forall₂ L.Pooled x.made y.made
  failure : Option.Rel (fun p q => q.1 = p.1 ∧ L.errors p.2 q.2) x.failure y.failure
  nextId : y.nextId = x.nextId
  factories : L.Factories F G x.factory y.factory

structure OutcomesAlike (F : Factory σ) (G : Factory τ) (o : Outcome σ) (p : Outcome τ) :
    Prop where
  allocators : L.Allocators o.allocator p.allocator
  factories : L.Factories F G o.factory p.factory
  made : List.Forall₂ L.Pooled o.made p.made
  stopped : List.Forall₂ L.Pooled o.stopped p.stopped

/-- What is alike is not told apart by a log. -/
structure Silent : Prop where
  counts : ∀ s t, L.servers s t → t.stun.size = s.stun.size ∧ t.relays.length = s.relays.length
  identities : ∀ i j, L.identities i j → j.contentName = i.contentName ∧ j.component = i.component
  starts : ∀ k l, L.kinds k l → l.logsStart = k.logsStart
  messages : ∀ d e, L.errors d e → e.message = d.message

end Relations

variable {L : Likeness} {F : Factory σ} {G : Factory τ}

/-! ### Filling -/

section Filling

variable {state : σ} {state' : τ} {servers servers' : Servers}

theorem Factories.result (h : L.Factories F G state state') (id : SessionId)
    (hservers : L.servers servers servers') :
    L.Results (F id servers state).1 (G id servers' state').1 :=
  h [] [] .nil id servers servers' hservers

theorem Factories.next (h : L.Factories F G state state') (id : SessionId)
    (hservers : L.servers servers servers') :
    L.Factories F G (F id servers state).2 (G id servers' state').2 := by
  intro asked asked' hasked
  exact h ((id, servers) :: asked) ((id, servers') :: asked') (.cons ⟨rfl, hservers⟩ hasked)

theorem Factories.series (h : L.Factories F G state state')
    (hservers : L.servers servers servers') (count : Nat) (id : SessionId) :
    L.SeriesAlike F G (Series.make F servers count id state)
      (Series.make G servers' count id state') := by
  induction count generalizing id state state' with
  | zero => exact ⟨.nil, .none, rfl, h⟩
  | succ count ih =>
      have hresult := h.result id hservers
      have hnext := h.next id hservers
      rcases hF : F id servers state with ⟨result, next⟩
      rcases hG : G id servers' state' with ⟨result', next'⟩
      rw [hF, hG] at hresult hnext
      simp only [Series.make, hF, hG]
      cases hresult with
      | ok hkinds =>
          obtain ⟨hmade, hfailure, hid, hfactories⟩ := ih hnext id.next
          exact ⟨.cons ⟨rfl, hservers, rfl, hservers, rfl, hkinds⟩ hmade, hfailure, hid, hfactories⟩
      | error herrors => exact ⟨.nil, .some ⟨rfl, herrors⟩, rfl, hnext⟩

end Filling

/-! ### Operations -/

theorem Pooled.stop {s t : PooledSession} (h : L.Pooled s t) : L.Pooled s.stop t.stop := by
  refine ⟨h.id, h.servers, h.number, h.bound, ?_, h.kind⟩
  simp only [PooledSession.stop, Session.call, h.calls]

namespace Allocators

variable {a b : Allocator} (h : L.Allocators a b)

include h

/-- Whether servers are those in effect must be the same question on both sides. -/
theorem adopt {servers servers' : Servers} (hservers : L.servers servers servers')
    (hsame : servers = a.servers ↔ servers' = b.servers) (target : Nat) :
    L.Allocators (a.adopt servers target).allocator (b.adopt servers' target).allocator ∧
      List.Forall₂ L.Pooled (a.adopt servers target).stopped (b.adopt servers' target).stopped := by
  unfold Allocator.adopt
  by_cases heq : servers = a.servers
  · obtain ⟨hcreated, hsessions, hstopped⟩ := Pool.forall₂_shrink (fun _ _ hst => Pooled.stop hst)
      h.created h.sessions (a.pool.created - target)
    rw [if_pos heq, if_pos (hsame.mp heq), h.created]
    exact ⟨⟨h.servers, rfl, hcreated, h.nextId, hsessions⟩, hstopped⟩
  · rw [if_neg heq, if_neg (mt hsame.mpr heq)]
    exact ⟨⟨hservers, rfl, rfl, h.nextId, .nil⟩, List.rel_map (fun _ _ hst => hst.stop) h.sessions⟩

theorem absorb {x : Series σ} {y : Series τ} (hmade : List.Forall₂ L.Pooled x.made y.made)
    (hid : y.nextId = x.nextId) : L.Allocators (a.absorb x).settle (b.absorb y).settle := by
  have hlength := hmade.length_eq
  refine ⟨h.servers, h.target, ?_, hid, List.rel_append h.sessions hmade⟩
  simp only [Allocator.settle, Allocator.absorb, Pool.pushAll, h.created, hlength]

/-- Both pools have a session at the front, or neither has. -/
theorem popFront? :
    Option.Rel (fun p q => L.Pooled p.1 q.1 ∧ q.2.created = p.2.created ∧
      List.Forall₂ L.Pooled p.2.sessions q.2.sessions) a.pool.popFront? b.pool.popFront? := by
  have hsessions := h.sessions
  have hcreated := h.created
  generalize a.pool = pool, b.pool = pool' at hsessions hcreated ⊢
  obtain ⟨sessions, created⟩ := pool
  obtain ⟨sessions', created'⟩ := pool'
  cases hsessions with
  | nil => exact .none
  | cons hst hrest => exact .some ⟨hst, hcreated, hrest⟩

theorem attempts {state : σ} {state' : τ} (hfactories : L.Factories F G state state') :
    L.SeriesAlike F G (a.attempts F state) (b.attempts G state') := by
  simp only [Allocator.attempts, h.target, h.created, h.nextId]
  exact hfactories.series h.servers _ _

theorem reconcile {state : σ} {state' : τ} (hfactories : L.Factories F G state state')
    {servers servers' : Servers} (hservers : L.servers servers servers')
    (hsame : servers = a.servers ↔ servers' = b.servers) (size : Int32) :
    L.OutcomesAlike F G (a.serve F state (.reconcile servers size))
      (b.serve G state' (.reconcile servers' size)) := by
  obtain ⟨hadopted, hstopped⟩ := h.adopt hservers hsame (clampSize size)
  have hseries := hadopted.attempts hfactories
  exact ⟨hadopted.absorb hseries.made hseries.nextId, hseries.factories, hseries.made, hstopped⟩

/-- Alike requests to alike allocators come to alike ends. -/
theorem serve (hunique : Relator.BiUnique L.servers) {state : σ} {state' : τ}
    (hfactories : L.Factories F G state state') {request request' : Request}
    (hrequest : L.Requests request request') :
    L.OutcomesAlike F G (a.serve F state request) (b.serve G state' request') := by
  cases hrequest with
  | reconcile hservers size =>
      exact h.reconcile hfactories hservers (Relator.rel_eq hunique hservers h.servers) size
  | claim hidentities =>
      have hfront := h.popFront?
      simp only [Allocator.serve, Allocator.claim]
      generalize a.pool.popFront? = found, b.pool.popFront? = found' at hfront ⊢
      cases hfront with
      | none => exact ⟨h, hfactories, .nil, .nil⟩
      | some hfound =>
          obtain ⟨-, hcreated, hrest⟩ := hfound
          exact ⟨⟨h.servers, h.target, hcreated, h.nextId, hrest⟩, hfactories, .nil, .nil⟩
  | discard =>
      have hstopped := List.rel_map (fun _ _ hst => Pooled.stop hst) h.sessions
      exact ⟨⟨h.servers, h.target, h.created, h.nextId, .nil⟩, hfactories, .nil, hstopped⟩
  | peek => exact ⟨h, hfactories, .nil, .nil⟩
  | health => exact ⟨h, hfactories, .nil, .nil⟩

end Allocators

/-! ### What is counted and told -/

theorem events_made {size : Nat} {made made' : List PooledSession} (hsilent : L.Silent)
    (h : List.Forall₂ L.Pooled made made') :
    Allocator.eventsOfMade size made' = Allocator.eventsOfMade size made := by
  induction h generalizing size with
  | nil => rfl
  | cons hhead htail ih =>
      simp only [Allocator.eventsOfMade, Event.ofCall, hsilent.starts _ _ hhead.kind, hhead.number,
        hhead.id, ih]

theorem line_creationFailed {id : SessionId} {d e : SessionError} (h : e.message = d.message) :
    (Event.creationFailed id e).line = (Event.creationFailed id d).line := by
  change LogLine.mk .warn "icepool::allocator"
    ("Failed to create pooled session " ++ id.label ++ ": " ++ e.message) = _
  rw [h]
  rfl

theorem lines_series (size : Nat) {x : Series σ} {y : Series τ} (hsilent : L.Silent)
    (h : L.SeriesAlike F G x y) :
    (Allocator.eventsOfSeries size y).map Event.line =
      (Allocator.eventsOfSeries size x).map Event.line := by
  simp only [Allocator.eventsOfSeries, List.map_append, events_made hsilent h.made]
  have hfailure := h.failure
  generalize x.failure = failed, y.failure = failed' at hfailure ⊢
  cases hfailure with
  | none => rfl
  | @some p q hpq =>
      obtain ⟨id, d⟩ := p
      obtain ⟨id', e⟩ := q
      obtain ⟨rfl, herrors⟩ := hpq
      simp only [List.map_cons, List.map_nil, line_creationFailed (hsilent.messages _ _ herrors)]

theorem Allocators.health_eq {a b : Allocator} (h : L.Allocators a b)
    (hstatistics : b.statistics = a.statistics) : b.health = a.health := by
  simp only [Allocator.health, h.target, h.created, hstatistics]

namespace Allocators

variable {a b : Allocator} (h : L.Allocators a b) (hsilent : L.Silent)

include h hsilent

theorem events_adopt {servers servers' : Servers} (hservers : L.servers servers servers')
    (hsame : servers = a.servers ↔ servers' = b.servers) (target : Nat) :
    (b.adopt servers' target).events = (a.adopt servers target).events := by
  have hstopped := (h.adopt hservers hsame target).2.length_eq
  obtain ⟨hstun, hrelays⟩ := hsilent.counts _ _ hservers
  revert hstopped
  unfold Allocator.adopt
  by_cases heq : servers = a.servers
  · rw [if_pos heq, if_pos (hsame.mp heq), h.created]
    intro hstopped
    simp only at hstopped ⊢
    rw [hstopped]
  · rw [if_neg heq, if_neg (mt hsame.mpr heq)]
    intro hstopped
    simp only at hstopped ⊢
    rw [hstopped, hstun, hrelays]

/-- Alike reconciliations count alike and leave the same log. -/
theorem log_reconcile (hstatistics : b.statistics = a.statistics) {state : σ} {state' : τ}
    (hfactories : L.Factories F G state state') {servers servers' : Servers}
    (hservers : L.servers servers servers')
    (hsame : servers = a.servers ↔ servers' = b.servers) (size : Int32) :
    let o := a.serve F state (.reconcile servers size)
    let p := b.serve G state' (.reconcile servers' size)
    p.allocator.statistics = o.allocator.statistics ∧ p.log = o.log := by
  intro o p
  have halike : L.OutcomesAlike F G o p := h.reconcile hfactories hservers hsame size
  have hmade : o.made.length = p.made.length := halike.made.length_eq
  have hstopped : o.stopped.length = p.stopped.length := halike.stopped.length_eq
  have hsize : o.allocator.pool.size = p.allocator.pool.size :=
    halike.allocators.sessions.length_eq
  -- the line about the pool's health is made at the end, so what is counted comes first
  have hcounts : p.allocator.statistics = o.allocator.statistics := by
    have hleft : o.allocator.statistics = _ := a.statistics_reconcile F state servers size
    have hright : p.allocator.statistics = _ := b.statistics_reconcile G state' servers' size
    rw [hright, hleft]
    change ((b.statistics.addDestroyed p.stopped.length).addCreated p.made.length).setPooled
      p.allocator.pool.size = _
    rw [hstatistics, ← hstopped, ← hmade, ← hsize]
    rfl
  refine ⟨hcounts, ?_⟩
  obtain ⟨hadopted, -⟩ := h.adopt hservers hsame (clampSize size)
  have hpooled : (a.adopt servers (clampSize size)).allocator.pool.size =
      (b.adopt servers' (clampSize size)).allocator.pool.size := hadopted.sessions.length_eq
  have hlines := lines_series (a.adopt servers (clampSize size)).allocator.pool.size hsilent
    (hadopted.attempts hfactories)
  have hhealth : p.allocator.health = o.allocator.health :=
    halike.allocators.health_eq hcounts
  simp only [o, p, Outcome.log, Allocator.serve, Allocator.reconcile, List.map_append] at hhealth ⊢
  rw [h.events_adopt hsilent hservers hsame, ← hpooled, hlines, hhealth]

theorem log_serve (hunique : Relator.BiUnique L.servers) (hstatistics : b.statistics = a.statistics)
    {state : σ} {state' : τ} (hfactories : L.Factories F G state state')
    {request request' : Request} (hrequest : L.Requests request request') :
    let o := a.serve F state request
    let p := b.serve G state' request'
    p.allocator.statistics = o.allocator.statistics ∧ p.log = o.log := by
  cases hrequest with
  | reconcile hservers size =>
      exact h.log_reconcile hsilent hstatistics hfactories hservers
        (Relator.rel_eq hunique hservers h.servers) size
  | @claim i j hidentities =>
      obtain ⟨hcontent, hcomponent⟩ := hsilent.identities _ _ hidentities
      have hfront := h.popFront?
      simp only [Allocator.serve, Allocator.claim]
      generalize a.pool.popFront? = found, b.pool.popFront? = found' at hfront ⊢
      cases hfront with
      | none => exact ⟨hstatistics, rfl⟩
      | some hfound =>
          obtain ⟨hst, -, hrest⟩ := hfound
          simp only [Outcome.log, Allocator.settle, Pool.size, hrest.length_eq, hstatistics, hst.id,
            hcontent, hcomponent, and_self]
  | discard =>
      have hlength := h.sessions.length_eq
      simp only [Allocator.serve, Allocator.discard, Pool.drain, Outcome.log, Allocator.settle,
        List.length_map, hlength, hstatistics, h.created, and_self]
  | peek => exact ⟨hstatistics, rfl⟩
  | health =>
      refine ⟨hstatistics, ?_⟩
      simp only [Allocator.serve, Outcome.log, h.health_eq hstatistics]

end Allocators

/-! ### Whole runs -/

/-- Alike requests, one after the other, leave the same log each. -/
theorem map_log_outcomes (hunique : Relator.BiUnique L.servers) (hsilent : L.Silent)
    {h : History σ} {k : History τ} (hallocators : L.Allocators h.allocator k.allocator)
    (hstatistics : k.allocator.statistics = h.allocator.statistics)
    (hfactories : L.Factories F G h.factory k.factory) {requests requests' : List Request}
    (hrequests : List.Forall₂ L.Requests requests requests') :
    (k.outcomes G requests').map Outcome.log = (h.outcomes F requests).map Outcome.log := by
  induction hrequests generalizing h k with
  | nil => rfl
  | @cons request request' later later' hrequest hlater ih =>
      have halike := hallocators.serve hunique hfactories hrequest
      obtain ⟨hcounts, hlog⟩ := hallocators.log_serve hsilent hunique hstatistics hfactories hrequest
      have hrest := ih (h := h.serve F request) (k := k.serve G request') halike.allocators hcounts
        halike.factories
      exact congrArg₂ List.cons hlog hrest

end Likeness

end CandidatePool
