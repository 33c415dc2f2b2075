import CandidatePool.Proofs.Counts
import CandidatePool.Proofs.Plans
import CandidatePool.Proofs.Races
/-!
Factories that run out.  A factory with a limit counts what it makes over its whole life, while the
created count of an allocator starts anew with other servers, falls when the pool shrinks and does not
notice claims.  The two counts drift apart, and yet each reconciliation needs only one number from
either side: how many sessions are missing, and how many the factory can still make.

What a factory has made it has made for good.  Once a reconciliation has failed, the factory stands at
its limit, and neither claims nor discards nor other servers bring it back from there.  From then on
a reconciliation succeeds exactly when nothing is missing.
-/

namespace CandidatePool

/-- The plan of a factory that makes so many sessions in its life and then no more. -/
def FactoryPlan.limited (n : Nat) : FactoryPlan := { limit := some n }

/-! ### Several attempts -/

section Limited

variable (n : Nat) (servers : Servers)

theorem FactoryPlan.factory_limited (id : SessionId) (counters : FactoryCounters) :
    (limited n).factory id servers counters =
      if counters.made < n then
        (.ok .recording,
          { counters with attempts := counters.attempts + 1, made := counters.made + 1 })
      else (.error (exhausted n), { counters with attempts := counters.attempts + 1 }) := by
  by_cases hroom : counters.made < n
  · have hopen : (some n).filter (· ≤ counters.made) = none := by
      simpa using hroom
    simp only [factory, limited, List.lookup_nil, hopen, if_pos hroom]
  · have hclosed : (some n).filter (· ≤ counters.made) = some n := by
      simpa using Nat.le_of_not_lt hroom
    simp only [factory, limited, List.lookup_nil, hclosed, if_neg hroom]

/-- A series over such a factory gets what is left, or as much as it asks for. -/
theorem Series.make_limited (count : Nat) (id : SessionId) (counters : FactoryCounters) :
    let series := make (FactoryPlan.limited n).factory servers count id counters
    series.made.length = min count (n - counters.made) ∧
      series.failure.map (·.2) =
        if count ≤ n - counters.made then none else some (FactoryPlan.exhausted n) := by
  induction count generalizing id counters with
  | zero => simp [make]
  | succ count ih =>
      by_cases hroom : counters.made < n
      · obtain ⟨hlength, hfailure⟩ := ih id.next
          { counters with attempts := counters.attempts + 1, made := counters.made + 1 }
        have hleft : count ≤ n - (counters.made + 1) ↔ count + 1 ≤ n - counters.made := by omega
        simp only [hleft] at hlength hfailure
        simp only [make, FactoryPlan.factory_limited, if_pos hroom, List.length_cons]
        exact ⟨by omega, hfailure⟩
      · have hnone : n - counters.made = 0 := by omega
        simp [make, FactoryPlan.factory_limited, hroom, hnone]

end Limited

/-! ### One reconciliation -/

section Reconcile

variable (n : Nat) (a : Allocator) (counters : FactoryCounters) (servers : Servers) (size : Int32)

/-- Whether a reconciliation succeeds hangs on what is missing and on what the factory can still
    make. -/
theorem Allocator.reconcile_limited :
    let r := a.reconcile (FactoryPlan.limited n).factory counters servers size
    let missing := clampSize size - (a.base servers).created
    r.made.length = min missing (n - counters.made) ∧
      r.factory.made = counters.made + r.made.length ∧
      r.failure =
        if missing ≤ n - counters.made then none
        else some (.session (FactoryPlan.exhausted n)) := by
  intro r missing
  have hseries : (a.adopt servers (clampSize size)).allocator.attempts
      (FactoryPlan.limited n).factory counters =
        Series.make (FactoryPlan.limited n).factory servers missing a.nextId counters := by
    rw [attempts_adopt, missing_adopt]
  obtain ⟨hlength, hfailure⟩ := Series.make_limited n servers missing a.nextId counters
  have hcause : r.failure =
      ((Series.make (FactoryPlan.limited n).factory servers missing a.nextId counters).failure.map
        (·.2)).map .session := by
    simp only [r, reconcile, hseries, Option.map_map]
    rfl
  refine ⟨?_, ?_, ?_⟩
  · simp only [r, reconcile, hseries]
    exact hlength
  · simp only [r, reconcile, hseries]
    exact Series.counters_make ..
  · rw [hcause, hfailure]
    split <;> rfl

/-- The answer to a reconciliation, and what the factory has made by then. -/
theorem Allocator.serve_limited (hroom : counters.made ≤ n) :
    let o := a.serve (FactoryPlan.limited n).factory counters (.reconcile servers size)
    let missing := clampSize size - (a.base servers).created
    (missing ≤ n - counters.made → o.answer = .reconciled none) ∧
      (n - counters.made < missing →
        o.answer = .reconciled (some (.session (FactoryPlan.exhausted n))) ∧
          o.factory.made = n ∧ o.made.length = n - counters.made) := by
  intro o missing
  obtain ⟨hlength, hcount, hfailure⟩ := a.reconcile_limited n counters servers size
  constructor
  · intro hleft
    rw [if_pos hleft] at hfailure
    exact congrArg Answer.reconciled hfailure
  · intro hshort
    rw [if_neg (Nat.not_le.mpr hshort)] at hfailure
    rw [Nat.min_eq_right (Nat.le_of_lt hshort)] at hlength
    refine ⟨congrArg Answer.reconciled hfailure, ?_, hlength⟩
    have hmade : (a.reconcile (FactoryPlan.limited n).factory counters servers
        size).factory.made = n := by
      omega
    exact hmade

end Reconcile

/-! ### Every run -/

namespace History

/-- The factory has not made more than it can, and once it has failed it has made all of that. -/
structure Rationed (n : Nat) (h : History FactoryCounters) : Prop where
  made_le : h.factory.made ≤ n
  spent : ∀ cause, .reconciled (some cause) ∈ h.answers →
    cause = .session (FactoryPlan.exhausted n) ∧ h.factory.made = n

variable {n : Nat} {h : History FactoryCounters}

/-- A request that asks the factory for nothing does not make a difference. -/
theorem Rationed.answered (hr : h.Rationed n) {request : Request}
    (hfactory : (h.serve (FactoryPlan.limited n).factory request).factory = h.factory)
    {answer : Answer} (hanswer : ∀ failure, answer ≠ .reconciled failure)
    (hanswers : (h.serve (FactoryPlan.limited n).factory request).answers =
      h.answers ++ [answer]) :
    (h.serve (FactoryPlan.limited n).factory request).Rationed n := by
  constructor
  · rw [hfactory]
    exact hr.made_le
  · intro cause hcause
    rw [hanswers, List.mem_append, List.mem_singleton] at hcause
    rw [hfactory]
    rcases hcause with hold | hnew
    · exact hr.spent cause hold
    · exact absurd hnew.symm (hanswer _)

theorem Rationed.serve (hr : h.Rationed n) (request : Request) :
    (h.serve (FactoryPlan.limited n).factory request).Rationed n := by
  have hmade := hr.made_le
  cases request with
  | reconcile servers size =>
      obtain ⟨hlength, hcount, hfailure⟩ :=
        h.allocator.reconcile_limited n h.factory servers size
      rw [serve_reconcile]
      constructor
      · simp only
        omega
      · intro cause hcause
        simp only [List.mem_append, List.mem_singleton, Answer.reconciled.injEq] at hcause ⊢
        rcases hcause with hold | hnew
        · obtain ⟨heq, hall⟩ := hr.spent cause hold
          exact ⟨heq, by omega⟩
        · rw [hfailure] at hnew
          split at hnew
          · cases hnew
          · rename_i hshort
            exact ⟨Option.some.inj hnew, by omega⟩
  | claim identity =>
      exact hr.answered rfl (fun _ => Answer.noConfusion) rfl
  | discard => exact hr.answered rfl (fun _ => Answer.noConfusion) rfl
  | peek => exact hr.answered rfl (fun _ => Answer.noConfusion) rfl
  | health => exact hr.answered rfl (fun _ => Answer.noConfusion) rfl

theorem rationed_of (n : Nat) (requests : List Request) :
    (of (FactoryPlan.limited n).factory {} requests).Rationed n := by
  refine serveAll_induction (P := Rationed n) ?_ ⟨Nat.zero_le n, ?_⟩ requests
  · intro h request hr
    exact hr.serve request
  · intro cause hcause
    cases hcause

/-- A factory with a limit never makes more.  A reconciliation succeeds exactly when no more is
    missing than the factory can still make; otherwise it brings the factory to its limit and names
    the limit in its error.  Once that has happened, every reconciliation that misses a session fails
    with the same error and gets none, one that misses none succeeds, and claims hand out what waits,
    in order. -/
theorem exhaustion_is_permanent (n : Nat) (requests : List Request) :
    let F := (FactoryPlan.limited n).factory
    let h := of F {} requests
    let created (servers : Servers) : Nat :=
      if servers = h.allocator.servers then h.allocator.pool.created else 0
    let outcome (servers : Servers) (size : Int32) : Outcome FactoryCounters :=
      h.allocator.serve F h.factory (.reconcile servers size)
    let error : PoolError :=
      .session (.resource ("fake factory limit of " ++ toString n ++ " sessions reached"))
    (h.factory.made = h.made.length ∧ h.made.length ≤ n) ∧
    (∀ servers size,
      ((outcome servers size).answer = .reconciled none ↔
        clampSize size ≤ created servers ∨
          clampSize size - created servers ≤ n - h.factory.made) ∧
      ((outcome servers size).answer ≠ .reconciled none →
        (outcome servers size).answer = .reconciled (some error) ∧
          (outcome servers size).factory.made = n)) ∧
    ∀ cause, .reconciled (some cause) ∈ h.answers →
      cause = error ∧
      (∀ servers size,
        (clampSize size ≤ created servers → (outcome servers size).answer = .reconciled none) ∧
        (created servers < clampSize size →
          (outcome servers size).answer = .reconciled (some cause) ∧
            (outcome servers size).made = [] ∧
            (outcome servers size).factory.made = h.factory.made)) ∧
      ∀ identities : List Identity,
        (h.outcomes F (identities.map .claim)).map (·.answer) =
          identities.mapIdx fun i identity =>
            .claimed (h.allocator.pool.sessions[i]?.map (·.claim identity)) := by
  intro F h created outcome error
  have hr : h.Rationed n := rationed_of n requests
  have hmade : h.factory.made = h.made.length := counters_of (.limited n) requests
  have hlimit := hr.made_le
  have hcreated : ∀ servers, (h.allocator.base servers).created = created servers := by
    intro servers
    simp only [Allocator.base, created]
    split <;> rfl
  have hall := fun servers size =>
    h.allocator.serve_limited n h.factory servers size hlimit
  simp only [hcreated] at hall
  refine ⟨⟨hmade, hmade ▸ hlimit⟩, ?_, ?_⟩
  · intro servers size
    obtain ⟨hgranted, hrefused⟩ := hall servers size
    by_cases hleft : clampSize size - created servers ≤ n - h.factory.made
    · have hnone : (outcome servers size).answer = .reconciled none := hgranted hleft
      exact ⟨iff_of_true hnone (.inr hleft), fun hsome => absurd hnone hsome⟩
    · obtain ⟨hanswer, hspent, -⟩ := hrefused (Nat.lt_of_not_le hleft)
      refine ⟨iff_of_false ?_ (by omega), fun _ => ⟨hanswer, hspent⟩⟩
      intro hnone
      cases hanswer.symm.trans hnone
  · intro cause hcause
    obtain ⟨rfl, hspent⟩ := hr.spent cause hcause
    refine ⟨rfl, ?_, fun identities => answers_claims F id h identities⟩
    intro servers size
    obtain ⟨hgranted, hrefused⟩ := hall servers size
    -- from now on nothing is left, so what counts is whether anything is missing
    have hnothing : n - h.factory.made = 0 := Nat.sub_eq_zero_of_le (Nat.le_of_eq hspent.symm)
    rw [hnothing] at hgranted hrefused
    constructor
    · intro hle
      exact hgranted (Nat.le_of_eq (Nat.sub_eq_zero_of_le hle))
    · intro hlt
      obtain ⟨hanswer, hstill, hlength⟩ := hrefused (Nat.sub_pos_of_lt hlt)
      exact ⟨hanswer, List.eq_nil_of_length_eq_zero hlength, hstill.trans hspent.symm⟩

/-- Three of four sessions come into being, and one is claimed.  A smaller size is still granted;
    other servers are not, not even with a single session; and of three claims in a row two get the
    sessions that wait. -/
theorem exhaustion_outlasts_other_servers :
    let F := (FactoryPlan.limited 3).factory
    let other : Servers := ⟨.empty, [{ address := "relay", port := 3478 }]⟩
    let audio : Identity := ⟨"audio", 1, "u", "p"⟩
    let h := of F {} [.reconcile .empty 4, .claim audio]
    let waiting (id : UInt64) : PooledSession := .warm ⟨id⟩ .empty .recording
    let error : PoolError :=
      .session (.resource "fake factory limit of 3 sessions reached")
    let outcome (servers : Servers) (size : Int32) : Outcome FactoryCounters :=
      h.allocator.serve F h.factory (.reconcile servers size)
    .reconciled (some error) ∈ h.answers ∧
      (outcome .empty 2).answer = .reconciled none ∧
      (outcome other 1).answer = .reconciled (some error) ∧ (outcome other 1).made = [] ∧
      (h.outcomes F ([audio, audio, audio].map .claim)).map (·.answer) =
        [.claimed (some ((waiting 2).claim audio)), .claimed (some ((waiting 3).claim audio)),
          .claimed none] := by
  intro F other audio h waiting error outcome
  have hfailed : .reconciled (some error) ∈ h.answers := by decide +kernel
  obtain ⟨-, hall, hclaims⟩ :=
    (exhaustion_is_permanent 3 [.reconcile .empty 4, .claim audio]).2.2 error hfailed
  have hgranted := (hall .empty 2).1 (by decide +kernel)
  have hrefused := (hall other 1).2 (by decide +kernel)
  have hpool : h.allocator.pool.sessions = [waiting 2, waiting 3] := by decide +kernel
  have hanswers : (h.outcomes F ([audio, audio, audio].map .claim)).map (·.answer) =
      [audio, audio, audio].mapIdx fun i identity =>
        .claimed (h.allocator.pool.sessions[i]?.map (·.claim identity)) := hclaims _
  rw [hpool] at hanswers
  exact ⟨hfailed, hgranted, hrefused.1, hrefused.2.1, hanswers⟩

end History

end CandidatePool
