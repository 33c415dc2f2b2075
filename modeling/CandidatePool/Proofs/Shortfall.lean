import CandidatePool.Proofs.Conservation
import CandidatePool.Proofs.Order
/-!
Reconciliations that fall short.  A factory has an answer in store for every attempt, and the answers
to a row of attempts are known without any allocator, as if none of them mattered to whoever asks
(`Factory.answers`).  A reconciliation goes through this list as far as the first failure, and asks
for nothing behind it.

A failure leaves the pool half full on purpose, so that the same request made again can go on from
there.  What it leaves is known in full: the request is adopted, what stays in the pool has not been
touched, and behind it stand the sessions that came before the failure.
-/

namespace CandidatePool

variable {σ : Type}

/-! ### Answers in store -/

/-- What a factory answers to attempts with consecutive identifiers, when all of them are made
    whatever becomes of the others. -/
def Factory.answers (F : Factory σ) (servers : Servers) : (count : Nat) → SessionId → σ → List Attempt
  | 0, _, _ => []
  | count + 1, id, state =>
    let (result, next) := F id servers state
    ⟨id, servers, result⟩ :: answers F servers count id.next next

theorem Factory.map_id_answers (F : Factory σ) (servers : Servers) (count : Nat) (id : SessionId)
    (state : σ) :
    (F.answers servers count id state).map (·.id) = List.iterate SessionId.next id count := by
  induction count generalizing id state with
  | zero => rfl
  | succ count ih => simp only [answers, List.map_cons, List.iterate, ih]

theorem Factory.length_answers (F : Factory σ) (servers : Servers) (count : Nat) (id : SessionId)
    (state : σ) : (F.answers servers count id state).length = count := by
  rw [← List.length_map (·.id), map_id_answers, List.length_iterate]

namespace Attempt

def Succeeded (attempt : Attempt) : Prop := ∃ kind, attempt.result = .ok kind

theorem not_succeeded {attempt : Attempt} {e : SessionError} (h : attempt.result = .error e) :
    ¬ attempt.Succeeded := by
  rintro ⟨kind, hkind⟩
  rw [h] at hkind
  cases hkind

theorem length_filterMap_session? {made : List Attempt} (h : ∀ x ∈ made, x.Succeeded) :
    (made.filterMap session?).length = made.length := by
  rw [List.filterMap_length_eq_length]
  intro x hx
  obtain ⟨kind, hkind⟩ := h x hx
  simp only [session?, hkind, Option.isSome_some]

/-- The first failure in a row of attempts, with those that succeeded before it. -/
structure FirstFailure (attempts made : List Attempt) (failed : Attempt) (e : SessionError) :
    Prop where
  front : made ++ [failed] <+: attempts
  succeeded : ∀ x ∈ made, x.Succeeded
  failed : failed.result = .error e

namespace FirstFailure

variable {attempts made made' : List Attempt} {failed failed' : Attempt} {e e' : SessionError}

theorem mem (h : FirstFailure attempts made failed e) : failed ∈ attempts := by
  apply h.front.subset
  exact List.mem_append_right made List.mem_cons_self

theorem length_lt (h : FirstFailure attempts made failed e) : made.length < attempts.length := by
  have hlength := h.front.length_le
  rwa [List.length_append, List.length_singleton] at hlength

/-- Of two first failures, the one that is not behind the other is no success before it. -/
theorem eq_of_prefix (h : FirstFailure attempts made failed e)
    (h' : FirstFailure attempts made' failed' e') (hle : made ++ [failed] <+: made' ++ [failed']) :
    made = made' ∧ failed = failed' := by
  rcases List.prefix_concat_iff.mp hle with heq | hbefore
  · exact ⟨List.append_inj_left' heq rfl, List.cons.inj (List.append_inj_right' heq rfl) |>.1⟩
  · have hmem : failed ∈ made' := hbefore.subset (List.mem_append_right made List.mem_cons_self)
    exact absurd (h'.succeeded failed hmem) (not_succeeded h.failed)

theorem unique (h : FirstFailure attempts made failed e)
    (h' : FirstFailure attempts made' failed' e') : made = made' ∧ failed = failed' ∧ e = e' := by
  have heq : made = made' ∧ failed = failed' := by
    rcases List.prefix_or_prefix_of_prefix h.front h'.front with hle | hle
    · exact h.eq_of_prefix h' hle
    · obtain ⟨hmade, hfailed⟩ := h'.eq_of_prefix h hle
      exact ⟨hmade.symm, hfailed.symm⟩
  refine ⟨heq.1, heq.2, ?_⟩
  have herror := h.failed
  rw [heq.2, h'.failed] at herror
  exact (Except.error.inj herror).symm

end FirstFailure

end Attempt

/-- A series goes through the answers in store, to their end or to the first failure. -/
theorem Series.cases_answers (F : Factory σ) (servers : Servers) (count : Nat) (id : SessionId)
    (state : σ) :
    let answers := F.answers servers count id state
    ((∀ x ∈ answers, x.Succeeded) ∧ attempts F servers count id state = answers ∧
        (make F servers count id state).failure = none) ∨
      ∃ made failed e, Attempt.FirstFailure answers made failed e ∧
        attempts F servers count id state = made ++ [failed] ∧
        (make F servers count id state).failure = some (failed.id, e) := by
  induction count generalizing id state with
  | zero =>
      left
      exact ⟨List.forall_mem_nil _, rfl, rfl⟩
  | succ count ih =>
      rcases heq : F id servers state with ⟨result, next⟩
      simp only [Factory.answers, attempts, make, heq]
      cases result with
      | error e =>
          right
          refine ⟨[], ⟨id, servers, .error e⟩, e, ⟨?_, List.forall_mem_nil _, rfl⟩, rfl, rfl⟩
          exact List.prefix_append [_] _
      | ok kind =>
          rcases ih id.next next with ⟨hall, hattempts, hnone⟩ |
            ⟨made, failed, e, ⟨hfront, hmade, hfailed⟩, hattempts, hfailure⟩
          · left
            refine ⟨?_, congrArg (⟨id, servers, .ok kind⟩ :: ·) hattempts, hnone⟩
            intro x hx
            rcases List.mem_cons.mp hx with rfl | hlater
            · exact ⟨kind, rfl⟩
            · exact hall x hlater
          · right
            refine ⟨⟨id, servers, .ok kind⟩ :: made, failed, e, ⟨?_, ?_, hfailed⟩, ?_, hfailure⟩
            · exact (List.prefix_cons_inj _).mpr hfront
            · intro x hx
              rcases List.mem_cons.mp hx with rfl | hlater
              · exact ⟨kind, rfl⟩
              · exact hmade x hlater
            · exact congrArg (⟨id, servers, .ok kind⟩ :: ·) hattempts

namespace Series

variable {F : Factory σ} {servers : Servers} {count : Nat} {id : SessionId} {state : σ}

/-- A series that fails at nothing is asked for to the end. -/
theorem attempts_of_none (h : (make F servers count id state).failure = none) :
    attempts F servers count id state = F.answers servers count id state ∧
      ∀ x ∈ F.answers servers count id state, x.Succeeded := by
  rcases cases_answers F servers count id state with ⟨hall, hattempts, -⟩ |
    ⟨made, failed, e, -, -, hfailure⟩
  · exact ⟨hattempts, hall⟩
  · rw [hfailure] at h
    cases h

/-- Nothing is asked for behind the first failure. -/
theorem attempts_of_firstFailure {made : List Attempt} {failed : Attempt} {e : SessionError}
    (h : Attempt.FirstFailure (F.answers servers count id state) made failed e) :
    attempts F servers count id state = made ++ [failed] := by
  rcases cases_answers F servers count id state with ⟨hall, -, -⟩ |
    ⟨made', failed', e', hfirst, hattempts, -⟩
  · exact absurd (hall failed h.mem) (Attempt.not_succeeded h.failed)
  · obtain ⟨rfl, rfl, rfl⟩ := h.unique hfirst
    exact hattempts

end Series

/-! ### What is left -/

namespace Allocator

variable {a : Allocator} {servers : Servers}

/-- A reconciliation fails with the error of the first failure, and only if there is one. -/
theorem failure_eq_some_iff (F : Factory σ) (a : Allocator) (state : σ) (servers : Servers)
    (size : Int32) (cause : PoolError) :
    (a.reconcile F state servers size).failure = some cause ↔
      ∃ made failed e, Attempt.FirstFailure
        (F.answers servers (clampSize size - (a.base servers).created) a.nextId state)
        made failed e ∧ cause = .session e := by
  rw [failure_reconcile, missing_adopt]
  rcases Series.cases_answers F servers (clampSize size - (a.base servers).created) a.nextId
    state with ⟨hall, -, hnone⟩ | ⟨made₀, failed₀, e₀, hfirst₀, -, hfailure⟩
  · rw [hnone]
    constructor
    · intro hcause
      cases hcause
    · rintro ⟨made, failed, e, hfirst, -⟩
      exact absurd (hall failed hfirst.mem) (Attempt.not_succeeded hfirst.failed)
  · rw [hfailure]
    constructor
    · intro hcause
      cases hcause
      exact ⟨made₀, failed₀, e₀, hfirst₀, rfl⟩
    · rintro ⟨made, failed, e, hfirst, rfl⟩
      rw [(hfirst.unique hfirst₀).2.2]
      rfl

/-- What a reconciliation leaves behind whose attempts end at a failure. -/
theorem reconcile_of_firstFailure {F : Factory σ} {state : σ} {size : Int32} {made : List Attempt}
    {failed : Attempt} {e : SessionError}
    (h : Attempt.FirstFailure
      (F.answers servers (clampSize size - (a.base servers).created) a.nextId state) made failed e) :
    let r := a.reconcile F state servers size
    r.made = made.filterMap Attempt.session? ∧ r.made.length = made.length ∧
      r.stopped = (a.outdated servers).map (·.stop) ∧
      r.allocator =
        { servers
          target := clampSize size
          pool := ⟨(a.base servers).sessions ++ r.made, (a.base servers).created + made.length⟩
          nextId := SessionId.next^[made.length + 1] a.nextId
          statistics :=
            { created := a.statistics.created + .ofNat made.length
              claimed := a.statistics.claimed
              destroyed := a.statistics.destroyed + .ofNat (a.outdated servers).length
              pooled := .ofNat ((a.base servers).size + made.length) } } := by
  intro r
  have hmissing : (a.base servers).created < clampSize size := by
    have hlength := h.length_lt
    rw [Factory.length_answers] at hlength
    omega
  obtain ⟨hallocator, -, -, hseries, hstopped⟩ :=
    reconcile_of_le F state (Nat.le_of_lt hmissing)
  have hmade : r.made = made.filterMap Attempt.session? := by
    have hnone : failed.session? = none := by simp only [Attempt.session?, h.failed]
    rw [hseries, ← Series.filterMap_attempts, Series.attempts_of_firstFailure h,
      List.filterMap_append, List.filterMap_cons_none hnone, List.filterMap_nil, List.append_nil]
  have hlength : r.made.length = made.length := by
    rw [hmade, Attempt.length_filterMap_session? h.succeeded]
  refine ⟨hmade, hlength, hstopped, ?_⟩
  rw [hallocator, settle_absorb, ← hseries, hlength, Series.nextId_make,
    Series.attempts_of_firstFailure h, List.length_append, List.length_singleton]
  rfl

end Allocator

/-! ### Every run -/

/-- A reconciliation asks for what is missing with consecutive identifiers, as far as the first
    failure, and fails exactly if there is one, with the error of that attempt.  Then the servers and
    the target are those asked for, the pool is what was to stay followed by the sessions made, and
    the created count, the next identifier and the statistics have moved on by as much.  Nothing was
    stopped but what other servers have cleared away. -/
theorem History.state_left_by_a_failure (F : Factory σ) (state : σ) (requests : List Request)
    (servers : Servers) (size : Int32) :
    let h := of F state requests
    let a := h.allocator
    let base : Pool := if servers = a.servers then a.pool else {}
    let outdated := if servers = a.servers then [] else a.pool.sessions
    let missing := clampSize size - base.created
    let answers := F.answers servers missing a.nextId h.factory
    let outcome := a.serve F h.factory (.reconcile servers size)
    let asked := (a.serve F.recorded (h.factory, []) (.reconcile servers size)).factory.2
    answers.map (·.id) = List.iterate SessionId.next a.nextId missing ∧
    (outcome.answer = .reconciled none → asked = answers ∧ ∀ x ∈ answers, x.Succeeded) ∧
    (∀ cause, outcome.answer = .reconciled (some cause) ↔
      ∃ made failed e, Attempt.FirstFailure answers made failed e ∧ cause = .session e) ∧
    ∀ made failed e, Attempt.FirstFailure answers made failed e →
      made.length < missing ∧ asked = made ++ [failed] ∧
      outcome.made = made.filterMap Attempt.session? ∧ outcome.made.length = made.length ∧
      outcome.stopped = outdated.map (·.stop) ∧
      outcome.allocator =
        { servers
          target := clampSize size
          pool := ⟨base.sessions ++ outcome.made, base.created + made.length⟩
          nextId := SessionId.next^[made.length + 1] a.nextId
          statistics :=
            { created := a.statistics.created + .ofNat made.length
              claimed := a.statistics.claimed
              destroyed := a.statistics.destroyed + .ofNat outdated.length
              pooled := .ofNat (base.size + made.length) } } ∧
      outcome.allocator.statistics.pooled.toNat = outcome.allocator.pool.size := by
  intro h a base outdated missing answers outcome asked
  have hasked : asked = Series.attempts F servers missing a.nextId h.factory := by
    have hlog : asked = h.attempted F (.reconcile servers size) :=
      congrArg (·.factory.2) (h.outcome_recorded F [] (.reconcile servers size))
    rw [hlog]
    simp only [attempted, Allocator.servers_adopt, Allocator.target_adopt, Allocator.nextId_adopt,
      Allocator.missing_adopt]
    rfl
  have hpooled : outcome.allocator.statistics.pooled.toNat = outcome.allocator.pool.size := by
    have hafter := toNat_pooled F state (requests ++ [.reconcile servers size])
    rw [of_concat] at hafter
    exact hafter
  refine ⟨F.map_id_answers .., ?_, ?_, ?_⟩
  · intro hok
    rw [Allocator.answer_eq_reconciled_iff, Allocator.failure_reconcile, Allocator.missing_adopt,
      Option.map_eq_none_iff] at hok
    rw [hasked]
    exact Series.attempts_of_none hok
  · intro cause
    rw [Allocator.answer_eq_reconciled_iff]
    exact Allocator.failure_eq_some_iff F a h.factory servers size cause
  · intro made failed e hfirst
    have hlt : made.length < missing := by
      have hlength := hfirst.length_lt
      rwa [Factory.length_answers] at hlength
    obtain ⟨hmade, hlength, hstopped, hallocator⟩ := Allocator.reconcile_of_firstFailure hfirst
    rw [hasked]
    exact ⟨hlt, Series.attempts_of_firstFailure hfirst, hmade, hlength, hstopped, hallocator,
      hpooled⟩

/-- The fifth attempt fails, after two sessions that other servers have asked for in place of one that
    waits, and after two that join it when it stays. -/
theorem History.state_left_by_either_failure :
    let F := FactoryPlan.factory { failures := [(5, .resource "busy")] }
    let other : Servers := ⟨.empty, [{ address := "relay", port := 3478 }]⟩
    let h := of F {} [.reconcile .empty 2, .claim ⟨"audio", 1, "u", "p"⟩]
    let waiting := PooledSession.warm ⟨2⟩ .empty .recording
    let made (servers : Servers) : List Attempt :=
      [⟨⟨3⟩, servers, .ok .recording⟩, ⟨⟨4⟩, servers, .ok .recording⟩]
    let failed (servers : Servers) : Attempt := ⟨⟨5⟩, servers, .error (.resource "busy")⟩
    let change := h.allocator.serve F h.factory (.reconcile other 4)
    let growth := h.allocator.serve F h.factory (.reconcile .empty 6)
    Attempt.FirstFailure (F.answers other 4 ⟨3⟩ h.factory) (made other) (failed other)
        (.resource "busy") ∧
      Attempt.FirstFailure (F.answers .empty 4 ⟨3⟩ h.factory) (made .empty) (failed .empty)
        (.resource "busy") ∧
      change.answer = .reconciled (some (.session (.resource "busy"))) ∧
      growth.answer = .reconciled (some (.session (.resource "busy"))) ∧
      change.stopped = [waiting.stop] ∧ growth.stopped = [] ∧
      change.allocator =
        ⟨other, 4, ⟨change.made, 2⟩, ⟨6⟩, ⟨2 + .ofNat 2, 1, 0 + .ofNat 1, .ofNat 2⟩⟩ ∧
      growth.allocator =
        ⟨.empty, 6, ⟨waiting :: growth.made, 4⟩, ⟨6⟩, ⟨2 + .ofNat 2, 1, 0 + .ofNat 0, .ofNat 3⟩⟩ := by
  intro F other h waiting made failed change growth
  have hchange : Attempt.FirstFailure (F.answers other 4 ⟨3⟩ h.factory) (made other) (failed other)
      (.resource "busy") := by
    refine ⟨⟨[⟨⟨6⟩, other, .ok .recording⟩], rfl⟩, ?_, rfl⟩
    rw [List.forall_mem_cons, List.forall_mem_singleton]
    exact ⟨⟨_, rfl⟩, _, rfl⟩
  have hgrowth : Attempt.FirstFailure (F.answers .empty 4 ⟨3⟩ h.factory) (made .empty)
      (failed .empty) (.resource "busy") := by
    refine ⟨⟨[⟨⟨6⟩, .empty, .ok .recording⟩], rfl⟩, ?_, rfl⟩
    rw [List.forall_mem_cons, List.forall_mem_singleton]
    exact ⟨⟨_, rfl⟩, _, rfl⟩
  obtain ⟨-, -, hanswer, hstate⟩ := state_left_by_a_failure F {}
    [.reconcile .empty 2, .claim ⟨"audio", 1, "u", "p"⟩] other 4
  obtain ⟨-, -, hanswer', hstate'⟩ := state_left_by_a_failure F {}
    [.reconcile .empty 2, .claim ⟨"audio", 1, "u", "p"⟩] .empty 6
  obtain ⟨-, -, -, -, hstopped, hallocator, -⟩ := hstate _ _ _ hchange
  obtain ⟨-, -, -, -, hstopped', hallocator', -⟩ := hstate' _ _ _ hgrowth
  exact ⟨hchange, hgrowth, (hanswer _).mpr ⟨_, _, _, hchange, rfl⟩,
    (hanswer' _).mpr ⟨_, _, _, hgrowth, rfl⟩, hstopped, hstopped', hallocator, hallocator'⟩

end CandidatePool
