import CandidatePool.Proofs.Ledger
/-!
The factories of plans.  An attempt either fails, which only the count of attempts shows, or brings a
session of the plan's kind and counts it.  So all sessions of a history over such a factory are of one
kind, wherever they are by then, and the factory's own count is the number of the sessions made.

The stops that the factory hears of come from outside, and it does nothing else because of them.
-/

namespace CandidatePool

/-! ### One attempt and several -/

section Plans

variable (plan : FactoryPlan) (counters : FactoryCounters) (stopped : Nat)

/-- All that an attempt can come to: an error, or a session of the plan's kind that is counted. -/
theorem FactoryPlan.factory_cases (id : SessionId) (servers : Servers) :
    (∃ e, plan.factory id servers counters =
        (.error e, { counters with attempts := counters.attempts + 1 })) ∨
      plan.factory id servers counters =
        (.ok plan.kind,
          { counters with attempts := counters.attempts + 1, made := counters.made + 1 }) := by
  simp only [factory]
  cases plan.failures.lookup (counters.attempts + 1) with
  | some e => exact .inl ⟨e, rfl⟩
  | none =>
      cases plan.limit.filter (· ≤ counters.made) with
      | some limit => exact .inl ⟨_, rfl⟩
      | none => exact .inr rfl

/-- What a factory does does not hang on the stops that it has heard of. -/
theorem FactoryPlan.factory_stopped (id : SessionId) (servers : Servers) :
    plan.factory id servers { counters with stopped } =
      ((plan.factory id servers counters).1,
        { (plan.factory id servers counters).2 with stopped }) := by
  simp only [factory]
  cases plan.failures.lookup (counters.attempts + 1) with
  | some e => rfl
  | none =>
      cases plan.limit.filter (· ≤ counters.made) with
      | some limit => rfl
      | none => rfl

theorem Series.make_stopped (servers : Servers) (count : Nat) (id : SessionId) :
    make plan.factory servers count id { counters with stopped } =
      { make plan.factory servers count id counters with
        factory := { (make plan.factory servers count id counters).factory with stopped } } := by
  induction count generalizing id counters with
  | zero => rfl
  | succ count ih =>
      rcases heq : plan.factory id servers counters with ⟨result, next⟩
      have hstopped := plan.factory_stopped counters stopped id servers
      rw [heq] at hstopped
      cases result with
      | error e => simp only [make, heq, hstopped]
      | ok kind => simp only [make, heq, hstopped, ih]

theorem Allocator.serve_stopped (a : Allocator) (request : Request) :
    a.serve plan.factory { counters with stopped } request =
      { a.serve plan.factory counters request with
        factory := { (a.serve plan.factory counters request).factory with stopped } } := by
  cases request with
  | reconcile servers size =>
      simp only [serve, reconcile, attempts, Series.make_stopped]
      rfl
  | claim identity => rfl
  | discard => rfl
  | peek => rfl
  | health => rfl

theorem Series.kind_of_mem_made {servers : Servers} {count : Nat} {id : SessionId}
    {s : PooledSession} (h : s ∈ (make plan.factory servers count id counters).made) :
    s.session.kind = plan.kind := by
  induction count generalizing id counters with
  | zero => simp [make] at h
  | succ count ih =>
      rcases plan.factory_cases counters id servers with ⟨e, heq⟩ | heq
      · simp [make, heq] at h
      · simp only [make, heq, List.mem_cons] at h
        rcases h with rfl | hlater
        · rfl
        · exact ih _ hlater

/-- The factory counts the sessions that it makes. -/
theorem Series.counters_make (servers : Servers) (count : Nat) (id : SessionId) :
    (make plan.factory servers count id counters).factory.made =
      counters.made + (make plan.factory servers count id counters).made.length := by
  induction count generalizing id counters with
  | zero => rfl
  | succ count ih =>
      rcases plan.factory_cases counters id servers with ⟨e, heq⟩ | heq
      · simp only [make, heq, List.length_nil, Nat.add_zero]
      · simp only [make, heq, ih, List.length_cons]
        omega

end Plans

/-! ### Histories over the factory of a plan -/

namespace History

theorem kind_of_mem_made (plan : FactoryPlan) (counters : FactoryCounters)
    (requests : List Request) :
    ∀ s ∈ (of plan.factory counters requests).made, s.session.kind = plan.kind := by
  refine serveAll_induction (P := fun h => ∀ s ∈ h.made, s.session.kind = plan.kind) ?_ ?_ requests
  · intro h request hmade s hs
    rcases serve_cases plan.factory h request with ⟨answer, heq⟩ | ⟨servers, size, rfl⟩ |
      ⟨identity, t, rest, rfl, hpool⟩ | rfl
    · rw [heq] at hs
      exact hmade s hs
    · rw [serve_reconcile] at hs
      rcases List.mem_append.mp hs with hold | hnew
      · exact hmade s hold
      · exact Series.kind_of_mem_made plan h.factory hnew
    · rw [serve_claim_of_cons plan.factory identity hpool] at hs
      exact hmade s hs
    · rw [serve_discard] at hs
      exact hmade s hs
  · intro s hs
    cases hs

theorem counters_of (plan : FactoryPlan) (requests : List Request) :
    (of plan.factory {} requests).factory.made = (of plan.factory {} requests).made.length := by
  refine serveAll_induction
    (P := fun h : History FactoryCounters => h.factory.made = h.made.length) ?_ rfl requests
  intro h request hmade
  rcases serve_cases plan.factory h request with ⟨answer, heq⟩ | ⟨servers, size, rfl⟩ |
    ⟨identity, t, rest, rfl, hpool⟩ | rfl
  · rw [heq]
    exact hmade
  · rw [serve_reconcile]
    simp only [Allocator.reconcile, Allocator.attempts, Series.counters_make, List.length_append,
      hmade]
  · rw [serve_claim_of_cons plan.factory identity hpool]
    exact hmade
  · rw [serve_discard]
    exact hmade

/-- All sessions of a plan's factory are of its kind, wherever they are. -/
theorem kind_of_mem (plan : FactoryPlan) (counters : FactoryCounters) (requests : List Request) :
    (∀ s ∈ (of plan.factory counters requests).stopped, s.session.kind = plan.kind) ∧
      ∀ p ∈ (of plan.factory counters requests).handed, p.2.session.kind = plan.kind := by
  obtain ⟨l, hl⟩ := Ledger.exists_accounts plan.factory counters requests
  have hentry : ∀ e ∈ l, e.kind = plan.kind := by
    intro e he
    have hborn : e.born ∈ (of plan.factory counters requests).made := by
      rw [← hl.made]
      exact List.mem_map_of_mem he
    exact kind_of_mem_made plan counters requests e.born hborn
  constructor
  · intro s hs
    obtain ⟨e, he, hstopped⟩ := List.mem_filterMap.mp (hl.stopped.mem_iff.mpr hs)
    rw [← hentry e he]
    rcases e with ⟨id, servers, kind, place⟩
    cases place with
    | pool => cases hstopped
    | caller identity => cases hstopped
    | stopped =>
        cases hstopped
        rfl
  · intro p hp
    obtain ⟨e, he, hhanded⟩ := List.mem_filterMap.mp (hl.handed.mem_iff.mpr hp)
    rw [← hentry e he]
    rcases e with ⟨id, servers, kind, place⟩
    cases place with
    | pool => cases hhanded
    | caller identity =>
        cases hhanded
        rfl
    | stopped => cases hhanded

end History

end CandidatePool
