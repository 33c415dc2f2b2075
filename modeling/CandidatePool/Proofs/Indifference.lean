import CandidatePool.Proofs.Likeness
import CandidatePool.Proofs.Order
/-!
What the decisions of an allocator depend on.  Of two servers it asks whether they are equal, and of
an attempt whether it failed; what is in the servers, who asks, and what has been counted so far are
never looked at.

So two runs decide alike if the servers of the second are those of the first under an injective
renaming and the attempts succeed and fail together.  Here nothing is asked of the factories beyond
the attempts that the two runs have made: as long as these agree, both runs make the same attempt
next.
-/

namespace CandidatePool

variable {σ τ : Type}

/-! ### Servers under a renaming -/

def PooledSession.mapServers (f : Servers → Servers) (s : PooledSession) : PooledSession :=
  { s with
    servers := f s.servers
    session := { s.session with servers := f s.session.servers } }

/-- The allocator with all servers that it holds under a renaming. -/
def Allocator.mapServers (f : Servers → Servers) (a : Allocator) : Allocator :=
  { a with
    servers := f a.servers
    pool := { a.pool with sessions := a.pool.sessions.map (·.mapServers f) } }

namespace Likeness

/-- Servers correspond by a renaming and errors as is said.  Identities and kinds of sessions may be
    any. -/
def renamed (f : Servers → Servers) (errors : SessionError → SessionError → Prop) : Likeness where
  servers s t := t = f s
  identities _ _ := True
  kinds _ _ := True
  errors

section Relations

variable (L : Likeness)

structure Claimed (s t : ClaimedSession) : Prop where
  id : t.id = s.id
  servers : L.servers s.servers t.servers
  identity : L.identities s.identity t.identity
  number : t.session.id = s.session.id
  bound : L.servers s.session.servers t.session.servers
  kind : L.kinds s.session.kind t.session.kind

inductive Failures : PoolError → PoolError → Prop where
  | session {d e : SessionError} (h : L.errors d e) : Failures (.session d) (.session e)

inductive Answers : Answer → Answer → Prop where
  | reconciled {x y : Option PoolError} (h : Option.Rel L.Failures x y) :
      Answers (.reconciled x) (.reconciled y)
  | claimed {s t : Option ClaimedSession} (h : Option.Rel L.Claimed s t) :
      Answers (.claimed s) (.claimed t)
  | discarded : Answers .discarded .discarded
  | peeked {s t : Option PooledSession} (h : Option.Rel L.Pooled s t) :
      Answers (.peeked s) (.peeked t)
  | told : Answers .told .told

structure Attempts (x y : Attempt) : Prop where
  id : y.id = x.id
  servers : L.servers x.servers y.servers
  result : L.Results x.result y.result

/-- As far as both lists go, attempts at the same place succeed or fail together. -/
def Fates (l m : List Attempt) : Prop :=
  ∀ (n : Nat) (x y : Attempt), l[n]? = some x → m[n]? = some y → L.Results x.result y.result

structure Outcomes (o : Outcome σ) (p : Outcome τ) : Prop where
  allocators : L.Allocators o.allocator p.allocator
  answers : L.Answers o.answer p.answer
  made : List.Forall₂ L.Pooled o.made p.made
  stopped : List.Forall₂ L.Pooled o.stopped p.stopped

/-- The totals have grown by the same numbers, the first from `s` and the second from `t`. -/
structure Grown (s t : Statistics) (s' t' : Statistics) : Prop where
  created : t'.created - t.created = s'.created - s.created
  claimed : t'.claimed - t.claimed = s'.claimed - s.claimed
  destroyed : t'.destroyed - t.destroyed = s'.destroyed - s.destroyed

/-- Two runs have come to the same, with all their attempts since they started with these
    statistics. -/
structure Abreast (s t : Statistics) (o : Outcome (σ × List Attempt))
    (p : Outcome (τ × List Attempt)) : Prop where
  outcomes : L.Outcomes o p
  attempts : List.Forall₂ L.Attempts o.factory.2 p.factory.2
  grown : Grown s t o.allocator.statistics p.allocator.statistics

end Relations

variable {L : Likeness} {F : Factory σ} {G : Factory τ}

/-! ### Attempts -/

theorem fates_cons {x y : Attempt} {l m : List Attempt} :
    L.Fates (x :: l) (y :: m) ↔ L.Results x.result y.result ∧ L.Fates l m := by
  constructor
  · intro h
    exact ⟨h 0 x y rfl rfl, fun n => h (n + 1)⟩
  · rintro ⟨hhead, htail⟩ n u v hu hv
    cases n with
    | zero =>
        cases hu
        cases hv
        exact hhead
    | succ n => exact htail n u v hu hv

/-- Series for servers that correspond go on alike for as long as their attempts do, and so they end
    alike.  What comes after them in the two runs is left as it is. -/
theorem series_of_fates {servers servers' : Servers} (hservers : L.servers servers servers')
    (count : Nat) (id : SessionId) {state : σ} {state' : τ} {more more' : List Attempt}
    (h : L.Fates (Series.attempts F servers count id state ++ more)
      (Series.attempts G servers' count id state' ++ more')) :
    let x := Series.make F servers count id state
    let y := Series.make G servers' count id state'
    List.Forall₂ L.Pooled x.made y.made ∧
      Option.Rel (fun p q => q.1 = p.1 ∧ L.errors p.2 q.2) x.failure y.failure ∧
      y.nextId = x.nextId ∧
      List.Forall₂ L.Attempts (Series.attempts F servers count id state)
        (Series.attempts G servers' count id state') ∧
      L.Fates more more' := by
  induction count generalizing id state state' with
  | zero => exact ⟨.nil, .none, rfl, .nil, h⟩
  | succ count ih =>
      rcases hF : F id servers state with ⟨result, next⟩
      rcases hG : G id servers' state' with ⟨result', next'⟩
      simp only [Series.make, Series.attempts, hF, hG] at h ⊢
      cases result with
      | error d =>
          cases result' with
          | error e =>
              obtain ⟨hresult, hmore⟩ := fates_cons.mp h
              cases hresult with
              | error herrors =>
                  exact ⟨.nil, .some ⟨rfl, herrors⟩, rfl,
                    .cons ⟨rfl, hservers, .error herrors⟩ .nil, hmore⟩
          | ok kind => cases (fates_cons.mp h).1
      | ok kind =>
          cases result' with
          | error e => cases (fates_cons.mp h).1
          | ok kind' =>
              obtain ⟨hresult, hlater⟩ := fates_cons.mp h
              cases hresult with
              | ok hkinds =>
                  obtain ⟨hmade, hfailure, hid, hattempts, hmore⟩ := ih id.next hlater
                  exact ⟨.cons ⟨rfl, hservers, rfl, hservers, rfl, hkinds⟩ hmade, hfailure, hid,
                    .cons ⟨rfl, hservers, .ok hkinds⟩ hattempts, hmore⟩

/-! ### Requests -/

theorem Pooled.claim {s t : PooledSession} (h : L.Pooled s t) {i j : Identity}
    (hidentities : L.identities i j) : L.Claimed (s.claim i) (t.claim j) :=
  ⟨h.id, h.servers, hidentities, h.number, h.bound, h.kind⟩

theorem Pooled.head? {l m : List PooledSession} (h : List.Forall₂ L.Pooled l m) :
    Option.Rel L.Pooled l.head? m.head? := by
  cases h with
  | nil => exact .none
  | cons hhead _ => exact .some hhead

/-- Alike requests come to alike ends, if the attempts that they make succeed and fail together. -/
theorem serve_of_fates (hunique : Relator.BiUnique L.servers) {h : History σ} {k : History τ}
    (hallocators : L.Allocators h.allocator k.allocator) {request request' : Request}
    (hrequest : L.Requests request request') {more more' : List Attempt}
    (hfates : L.Fates (h.attempted F request ++ more) (k.attempted G request' ++ more')) :
    L.Outcomes (h.allocator.serve F h.factory request) (k.allocator.serve G k.factory request') ∧
      List.Forall₂ L.Attempts (h.attempted F request) (k.attempted G request') ∧
      L.Fates more more' := by
  cases hrequest with
  | @reconcile servers servers' hservers size =>
      have hsame := Relator.rel_eq hunique hservers hallocators.servers
      obtain ⟨hadopted, hstopped⟩ := hallocators.adopt hservers hsame (clampSize size)
      simp only [History.attempted, hadopted.target, hadopted.created, hadopted.nextId] at hfates ⊢
      obtain ⟨hmade, hfailure, hid, hattempts, hmore⟩ :=
        series_of_fates hadopted.servers _ _ hfates
      refine ⟨⟨?_, .reconciled ?_, ?_, hstopped⟩, hattempts, hmore⟩
      · simp only [Allocator.serve, Allocator.reconcile, Allocator.attempts, hadopted.target,
          hadopted.created, hadopted.nextId]
        exact hadopted.absorb hmade hid
      · simp only [Allocator.reconcile, Allocator.attempts, hadopted.target, hadopted.created,
          hadopted.nextId]
        generalize (Series.make F _ _ _ _).failure = x, (Series.make G _ _ _ _).failure = y
          at hfailure ⊢
        cases hfailure with
        | none => exact .none
        | some hpq => exact .some (.session hpq.2)
      · simp only [Allocator.serve, Allocator.reconcile, Allocator.attempts, hadopted.target,
          hadopted.created, hadopted.nextId]
        exact hmade
  | claim hidentities =>
      refine ⟨?_, .nil, hfates⟩
      have hfront := hallocators.popFront?
      simp only [Allocator.serve, Allocator.claim]
      generalize h.allocator.pool.popFront? = found, k.allocator.pool.popFront? = found' at hfront ⊢
      cases hfront with
      | none => exact ⟨hallocators, .claimed .none, .nil, .nil⟩
      | some hfound =>
          obtain ⟨hst, hcreated, hrest⟩ := hfound
          exact ⟨⟨hallocators.servers, hallocators.target, hcreated, hallocators.nextId, hrest⟩,
            .claimed (.some (hst.claim hidentities)), .nil, .nil⟩
  | discard =>
      have hstopped := List.rel_map (fun _ _ hst => Pooled.stop hst) hallocators.sessions
      exact ⟨⟨⟨hallocators.servers, hallocators.target, hallocators.created, hallocators.nextId,
        .nil⟩, .discarded, .nil, hstopped⟩, .nil, hfates⟩
  | peek =>
      exact ⟨⟨hallocators, .peeked (Pooled.head? hallocators.sessions), .nil, .nil⟩, .nil, hfates⟩
  | health => exact ⟨⟨hallocators, .told, .nil, .nil⟩, .nil, hfates⟩

end Likeness

/-! ### Totals -/

section Totals

variable (F : Factory σ)

/-- Each request adds to the totals what was made, handed over and stopped for it. -/
theorem Allocator.totals_serve (a : Allocator) (state : σ) (request : Request) :
    let o := a.serve F state request
    o.allocator.statistics.created = a.statistics.created + .ofNat o.made.length ∧
      o.allocator.statistics.claimed =
        a.statistics.claimed + .ofNat (request.handed o.answer).length ∧
      o.allocator.statistics.destroyed = a.statistics.destroyed + .ofNat o.stopped.length := by
  have hzero : ∀ n : UInt64, n = n + .ofNat 0 := fun n => (UInt64.add_zero n).symm
  cases request with
  | reconcile servers size =>
      have hstatistics := a.statistics_reconcile F state servers size
      simp only [serve, hstatistics, Request.handed, List.length_nil]
      exact ⟨rfl, hzero _, rfl⟩
  | claim identity =>
      simp only [serve, claim, Pool.popFront?]
      cases a.pool.sessions with
      | nil => exact ⟨hzero _, hzero _, hzero _⟩
      | cons s rest => exact ⟨hzero _, rfl, hzero _⟩
  | discard => exact ⟨hzero _, hzero _, rfl⟩
  | peek => exact ⟨hzero _, hzero _, hzero _⟩
  | health => exact ⟨hzero _, hzero _, hzero _⟩

/-- The attempts of a run from any state, as a factory that is listened to writes them down. -/
theorem History.log_serveAll_from (a : Allocator) (state : σ) (requests : List Request) :
    (serveAll F.recorded { factory := (state, []), allocator := a } requests).factory.2 =
      attemptedAll F { factory := state, allocator := a } requests :=
  congrArg (·.factory.2) (serveAll_recorded F { factory := state, allocator := a } [] requests)

end Totals

namespace Likeness

variable {L : Likeness} {F : Factory σ} {G : Factory τ}

theorem Answers.length_handed {request request' : Request} (hrequest : L.Requests request request')
    {x y : Answer} (h : L.Answers x y) :
    (request'.handed y).length = (request.handed x).length := by
  cases hrequest with
  | claim hidentities =>
      cases h with
      | claimed h => cases h <;> rfl
      | _ => rfl
  | _ => rfl

theorem Grown.add {s t s' t' s'' t'' : Statistics} (h : Grown s t s' t') {made handed stopped : Nat}
    (hs : s''.created = s'.created + .ofNat made ∧ s''.claimed = s'.claimed + .ofNat handed ∧
      s''.destroyed = s'.destroyed + .ofNat stopped)
    (ht : t''.created = t'.created + .ofNat made ∧ t''.claimed = t'.claimed + .ofNat handed ∧
      t''.destroyed = t'.destroyed + .ofNat stopped) : Grown s t s'' t'' := by
  have hadd : ∀ {u v u' v' : UInt64} (n : UInt64), v' - v = u' - u → v' + n - v = u' + n - u := by
    intro u v u' v' n hsame
    grind
  constructor
  · rw [hs.1, ht.1]
    exact hadd _ h.created
  · rw [hs.2.1, ht.2.1]
    exact hadd _ h.claimed
  · rw [hs.2.2, ht.2.2]
    exact hadd _ h.destroyed

/-- Runs that start alike stay alike for as long as their attempts succeed and fail together. -/
theorem abreast_of_fates (hunique : Relator.BiUnique L.servers) {h : History σ} {k : History τ}
    (hallocators : L.Allocators h.allocator k.allocator) {log log' : List Attempt}
    (hlog : List.Forall₂ L.Attempts log log') {s t : Statistics}
    (hgrown : Grown s t h.allocator.statistics k.allocator.statistics)
    {requests requests' : List Request} (hrequests : List.Forall₂ L.Requests requests requests')
    (hfates : L.Fates (h.attemptedAll F requests) (k.attemptedAll G requests')) :
    List.Forall₂ (L.Abreast s t) ((h.withLog log).outcomes F.recorded requests)
      ((k.withLog log').outcomes G.recorded requests') := by
  induction hrequests generalizing h k log log' with
  | nil => exact .nil
  | @cons request request' later later' hrequest hlater ih =>
      obtain ⟨houtcomes, hattempts, hmore⟩ := serve_of_fates hunique hallocators hrequest hfates
      have hleft := h.outcome_recorded F log request
      have hright := k.outcome_recorded G log' request'
      have hlogs := List.rel_append hlog hattempts
      have htotals := h.allocator.totals_serve F h.factory request
      have htotals' := k.allocator.totals_serve G k.factory request'
      simp only [houtcomes.answers.length_handed hrequest, ← houtcomes.made.length_eq,
        ← houtcomes.stopped.length_eq] at htotals'
      have hnext := hgrown.add htotals htotals'
      refine .cons ?_ ?_
      · rw [hleft, hright]
        exact ⟨⟨houtcomes.allocators, houtcomes.answers, houtcomes.made, houtcomes.stopped⟩, hlogs,
          hnext⟩
      · have hrest := ih (h := h.serve F request) (k := k.serve G request') houtcomes.allocators
          hlogs hnext hmore
        rw [← History.serve_recorded, ← History.serve_recorded] at hrest
        exact hrest

/-! ### Factories that fail at the same attempts -/

section FailsExactly

variable {failing : Finset Nat} {before : Nat} {state : σ}

theorem error_attempts_iff (h : F.FailsExactly failing before state) (servers : Servers)
    (count : Nat) (id : SessionId) :
    (∀ (n : Nat) (x : Attempt), (Series.attempts F servers count id state)[n]? = some x →
        ((∃ e, x.result = .error e) ↔ before + n + 1 ∈ failing)) ∧
      F.FailsExactly failing (before + (Series.attempts F servers count id state).length)
        (Series.make F servers count id state).factory := by
  induction count generalizing id before state with
  | zero =>
      refine ⟨?_, h⟩
      intro n x hx
      cases hx
  | succ count ih =>
      have hnow := h [] id servers
      have hnext := h.next id servers
      rcases heq : F id servers state with ⟨result, next⟩
      simp only [Factory.after, List.foldl_nil, List.length_nil, heq] at hnow hnext
      cases result with
      | error e =>
          simp only [Series.attempts, Series.make, heq]
          refine ⟨?_, hnext⟩
          intro n x hx
          cases n with
          | zero =>
              cases hx
              exact hnow
          | succ n => cases hx
      | ok kind =>
          simp only [Series.attempts, Series.make, heq]
          obtain ⟨hlater, hlast⟩ := ih hnext id.next
          constructor
          · intro n x hx
            cases n with
            | zero =>
                cases hx
                exact hnow
            | succ n =>
                rw [hlater n x hx]
                simp only [Nat.add_assoc, Nat.add_comm 1]
          · rw [List.length_cons, ← Nat.add_assoc, Nat.add_right_comm]
            exact hlast

theorem error_attemptedAll_iff {h : History σ} (hfails : F.FailsExactly failing before h.factory)
    (requests : List Request) :
    ∀ (n : Nat) (x : Attempt), (h.attemptedAll F requests)[n]? = some x →
      ((∃ e, x.result = .error e) ↔ before + n + 1 ∈ failing) := by
  induction requests generalizing h before with
  | nil =>
      intro n x hx
      cases hx
  | cons request later ih =>
      have hnow : (∀ (n : Nat) (x : Attempt), (h.attempted F request)[n]? = some x →
          ((∃ e, x.result = .error e) ↔ before + n + 1 ∈ failing)) ∧
          F.FailsExactly failing (before + (h.attempted F request).length)
            (h.serve F request).factory := by
        cases request with
        | reconcile servers size => exact error_attempts_iff hfails _ _ _
        | _ =>
            refine ⟨?_, hfails⟩
            intro n x hx
            cases hx
      intro n x hx
      by_cases hlt : n < (h.attempted F request).length
      · rw [History.attemptedAll, List.getElem?_append_left hlt] at hx
        exact hnow.1 n x hx
      · rw [History.attemptedAll, List.getElem?_append_right (Nat.le_of_not_lt hlt)] at hx
        rw [ih hnow.2 _ x hx]
        have hplace : before + (h.attempted F request).length +
            (n - (h.attempted F request).length) = before + n := by omega
        rw [hplace]

/-- Whatever they are asked for, factories that fail at the same attempts bring the runs together. -/
theorem fates_of_failsExactly {f : Servers → Servers} {h : History σ} {k : History τ}
    (hF : F.FailsExactly failing before h.factory) (hG : G.FailsExactly failing before k.factory)
    (requests requests' : List Request) :
    (renamed f fun _ _ => True).Fates (h.attemptedAll F requests) (k.attemptedAll G requests') := by
  intro n x y hx hy
  have hiff := (error_attemptedAll_iff hF requests n x hx).trans
    (error_attemptedAll_iff hG requests' n y hy).symm
  generalize x.result = r, y.result = r' at hiff ⊢
  cases r with
  | ok kind =>
      cases r' with
      | ok kind' => exact .ok trivial
      | error e =>
          obtain ⟨d, hd⟩ := hiff.mpr ⟨e, rfl⟩
          cases hd
  | error d =>
      cases r' with
      | ok kind =>
          obtain ⟨e, he⟩ := hiff.mp ⟨d, rfl⟩
          cases he
      | error e => exact .error trivial

end FailsExactly

/-! ### Every two runs -/

/-- Servers count only by which of them are equal, and neither identities nor statistics count at
    all.  The second run starts with any statistics, under a renaming of the servers of the first,
    and its requests are those of the first under the renaming, with any identities.  If the attempts
    that the runs make succeed and fail together, then after each request the two have given the same
    answer, hold sessions with the same numbers for servers that correspond, have made the same
    attempts, and have counted as much. -/
theorem decisions_hang_on_equality (f : Servers → Servers) (hf : Function.Injective f)
    (errors : SessionError → SessionError → Prop) (F : Factory σ) (state : σ) (G : Factory τ)
    (state' : τ) (a : Allocator) (statistics : Statistics) (requests requests' : List Request)
    (hrequests : List.Forall₂ (renamed f errors).Requests requests requests') :
    let L := renamed f errors
    let h : History (σ × List Attempt) := { factory := (state, []), allocator := a }
    let k : History (τ × List Attempt) :=
      { factory := (state', []), allocator := { a.mapServers f with statistics } }
    L.Fates (h.serveAll F.recorded requests).factory.2
        (k.serveAll G.recorded requests').factory.2 →
      List.Forall₂ (L.Abreast a.statistics statistics) (h.outcomes F.recorded requests)
        (k.outcomes G.recorded requests') := by
  intro L h k hfates
  let first : History σ := { factory := state, allocator := a }
  let second : History τ :=
    { factory := state', allocator := { a.mapServers f with statistics } }
  have hunique : Relator.BiUnique L.servers := by
    constructor
    · intro s t u hs ht
      exact hf (hs.symm.trans ht)
    · intro s t u ht hu
      exact ht.trans hu.symm
  have hstart : L.Allocators first.allocator second.allocator := by
    refine ⟨rfl, rfl, rfl, rfl, ?_⟩
    change List.Forall₂ L.Pooled a.pool.sessions (a.pool.sessions.map (·.mapServers f))
    rw [List.forall₂_map_right_iff, List.forall₂_same]
    intro s hs
    exact ⟨rfl, rfl, rfl, rfl, rfl, trivial⟩
  have hgrown : Grown a.statistics statistics first.allocator.statistics
      second.allocator.statistics := by
    constructor <;> simp [first, second]
  have hlogs : L.Fates (first.attemptedAll F requests) (second.attemptedAll G requests') := by
    rwa [History.log_serveAll_from, History.log_serveAll_from] at hfates
  exact abreast_of_fates hunique hstart .nil hgrown hrequests hlogs

/-- No servers and a relay are swapped, the second attempt fails with different errors, and the
    second run starts with totals that are about to wrap around. -/
theorem decisions_alike_when_swapped :
    let plan : FactoryPlan := { failures := [(2, .create "no port")] }
    let plan' : FactoryPlan := { failures := [(2, .resource "busy")], kind := .plain }
    let relay : Servers := ⟨.empty, [{ address := "relay", port := 3478 }]⟩
    let f : Servers → Servers := Equiv.swap .empty relay
    let wrapping : Statistics := ⟨0xffffffffffffffff, 7, 0xffffffffffffffff, 3⟩
    let requests : List Request :=
      [.reconcile .empty 2, .claim ⟨"audio", 1, "u", "p"⟩, .reconcile relay 1, .reconcile .empty (-1)]
    let requests' : List Request :=
      [.reconcile relay 2, .claim ⟨"video", 2, "", ""⟩, .reconcile .empty 1, .reconcile relay (-1)]
    let L := renamed f fun _ _ => True
    let h : History (FactoryCounters × List Attempt) := { factory := ({}, []) }
    let k : History (FactoryCounters × List Attempt) :=
      { factory := ({}, []), allocator := { servers := relay, statistics := wrapping } }
    Function.Injective f ∧ List.Forall₂ L.Requests requests requests' ∧
      L.Fates (h.serveAll plan.factory.recorded requests).factory.2
        (k.serveAll plan'.factory.recorded requests').factory.2 ∧
      List.Forall₂ (L.Abreast {} wrapping) (h.outcomes plan.factory.recorded requests)
        (k.outcomes plan'.factory.recorded requests') ∧
      (k.serveAll plan'.factory.recorded requests').allocator.statistics = ⟨1, 8, 0, 0⟩ := by
  intro plan plan' relay f wrapping requests requests' L h k
  have hf : Function.Injective f := (Equiv.swap _ _).injective
  have hempty : relay = f .empty := (Equiv.swap_apply_left _ _).symm
  have hrelay : Servers.empty = f relay := (Equiv.swap_apply_right _ _).symm
  have hrequests : List.Forall₂ L.Requests requests requests' :=
    .cons (.reconcile hempty 2) (.cons (.claim trivial) (.cons (.reconcile hrelay 1)
      (.cons (.reconcile hempty (-1)) .nil)))
  have hfates : L.Fates (h.serveAll plan.factory.recorded requests).factory.2
      (k.serveAll plan'.factory.recorded requests').factory.2 := by
    have hF := Factory.failsExactly_plan plan rfl {}
    have hG := Factory.failsExactly_plan plan' rfl {}
    rw [History.log_serveAll_from, History.log_serveAll_from]
    exact fates_of_failsExactly hF hG requests requests'
  have hrenamed : { Allocator.mapServers f {} with statistics := wrapping } = k.allocator := by
    simp only [Allocator.mapServers, ← hempty]
    rfl
  have halike := decisions_hang_on_equality f hf (fun _ _ => True) plan.factory {} plan'.factory {}
    {} wrapping requests requests' hrequests
  rw [hrenamed] at halike
  exact ⟨hf, hrequests, hfates, halike hfates, by decide +kernel⟩

end Likeness

end CandidatePool
