import CandidatePool.Proofs.Capacity
import CandidatePool.Proofs.Clients
/-!
The statistics count what has really happened.  They are kept by hand, beside the pool and not from
it, so each request has to bring all four of them forward: the sessions made, claimed and stopped are
added up in words of 64 bits, and the number that wait is set to what it is.

No session is lost between the counters, since each session made has a place in the ledger.  And the
factory of a plan counts on its own side; it agrees with the statistics on the sessions made, and on
the stops when those by the client are taken into account.
-/

namespace CandidatePool

variable {σ : Type}

/-! ### Counting requests -/

/-- A reconciliation counts what it stops, then what it makes, and then what waits. -/
theorem Allocator.statistics_reconcile (F : Factory σ) (a : Allocator) (state : σ)
    (servers : Servers) (size : Int32) :
    let r := a.reconcile F state servers size
    r.allocator.statistics =
      ((a.statistics.addDestroyed r.stopped.length).addCreated r.made.length).setPooled
        r.allocator.pool.size := by
  have hadopt : (a.adopt servers (clampSize size)).allocator.statistics =
      a.statistics.addDestroyed (a.adopt servers (clampSize size)).stopped.length := by
    unfold adopt
    split <;> rfl
  simp only [reconcile, settle, absorb, hadopt]

namespace History

/-- The statistics are the numbers of sessions made, handed over, stopped and waiting. -/
structure Counted (h : History σ) : Prop where
  created : h.allocator.statistics.created = .ofNat h.made.length
  claimed : h.allocator.statistics.claimed = .ofNat h.handed.length
  destroyed : h.allocator.statistics.destroyed = .ofNat h.stopped.length
  pooled : h.allocator.statistics.pooled = .ofNat h.allocator.pool.size

theorem Counted.serve {h : History σ} (hc : h.Counted) (F : Factory σ) (request : Request) :
    (h.serve F request).Counted := by
  rcases serve_cases F h request with ⟨answer, heq⟩ | ⟨servers, size, rfl⟩ |
    ⟨identity, s, rest, rfl, hpool⟩ | rfl
  · rw [heq]
    exact ⟨hc.created, hc.claimed, hc.destroyed, hc.pooled⟩
  · have hstatistics := h.allocator.statistics_reconcile F h.factory servers size
    rw [serve_reconcile]
    constructor
    · simp only [hstatistics, Statistics.setPooled, Statistics.addCreated, Statistics.addDestroyed,
        hc.created, List.length_append, UInt64.ofNat_add]
    · simp only [hstatistics, Statistics.setPooled, Statistics.addCreated, Statistics.addDestroyed,
        hc.claimed]
    · simp only [hstatistics, Statistics.setPooled, Statistics.addCreated, Statistics.addDestroyed,
        hc.destroyed, List.length_append, UInt64.ofNat_add]
    · simp only [hstatistics, Statistics.setPooled]
  · rw [serve_claim_of_cons F identity hpool]
    refine ⟨hc.created, ?_, hc.destroyed, rfl⟩
    simp only [Statistics.setPooled, Statistics.addClaimed, hc.claimed, List.length_append,
      List.length_singleton, UInt64.ofNat_add]
    rfl
  · rw [serve_discard]
    refine ⟨hc.created, hc.claimed, ?_, rfl⟩
    simp only [Statistics.setPooled, Statistics.addDestroyed, hc.destroyed, List.length_append,
      List.length_map, UInt64.ofNat_add, Pool.size]

theorem counted_of (F : Factory σ) (state : σ) (requests : List Request) :
    (of F state requests).Counted := by
  refine serveAll_induction (P := Counted) ?_ ⟨rfl, rfl, rfl, rfl⟩ requests
  intro h request hc
  exact hc.serve F request

/-- Every session made waits, was handed over, or was stopped. -/
theorem length_made (F : Factory σ) (state : σ) (requests : List Request) :
    (of F state requests).made.length = (of F state requests).handed.length +
      (of F state requests).stopped.length + (of F state requests).allocator.pool.size := by
  obtain ⟨l, hl⟩ := Ledger.exists_accounts F state requests
  have hlength := l.length_eq
  rw [← List.length_map Entry.born, hl.made, hl.pooled, hl.handed.length_eq,
    hl.stopped.length_eq] at hlength
  rw [hlength, Pool.size]
  omega

/-- The pool is far too small for its counted size to wrap around. -/
theorem toNat_pooled (F : Factory σ) (state : σ) (requests : List Request) :
    (of F state requests).allocator.statistics.pooled.toNat =
      (of F state requests).allocator.pool.size := by
  have hsize : (of F state requests).allocator.pool.size ≤
      (of F state requests).allocator.pool.created :=
    Nat.le.intro (balanced_of F state requests).symm
  have hbounds := Tenure.Bounds.of F state requests
  have hcreated : (of F state requests).allocator.pool.created ≤ 2 ^ 31 - 1 :=
    Nat.le_trans hbounds.created_le hbounds.largest_le
  have hword : (of F state requests).allocator.pool.size < UInt64.size := by
    simp only [UInt64.size]
    omega
  rw [(counted_of F state requests).pooled]
  exact UInt64.toNat_ofNat_of_lt' hword

end History

/-! ### Every run -/

/-- Whatever fails, the statistics say how many sessions wait and, as words of 64 bits, how many the
    factory has made, how many claims have got one and how many were stopped, and none is missing.
    A factory that counts has made as many, and it has heard of the stops counted here and of those
    that the client has called. -/
theorem History.statistics_count_events (F : Factory σ) (state : σ) (requests : List Request) :
    (let h := of F state requests
      let made := (of F.recorded (state, []) requests).factory.2.filterMap Attempt.session?
      let s := h.allocator.statistics
      s.pooled.toNat = h.allocator.pool.size ∧ s.created = .ofNat made.length ∧
        s.claimed = .ofNat h.handed.length ∧ s.destroyed = .ofNat h.stopped.length ∧
        s.created = s.claimed + s.destroyed + s.pooled) ∧
    ∀ plan : FactoryPlan, plan.kind = .recording → ∀ commands,
      let c := Client.run plan {} commands
      c.allocator.statistics.created = .ofNat c.counters.made ∧
        .ofNat c.counters.stopped =
          c.allocator.statistics.destroyed + .ofNat (Client.stopCallsAll plan {} commands) := by
  constructor
  · intro h made s
    have hc : h.Counted := counted_of F state requests
    have hmade : made = h.made := filterMap_log F state requests
    refine ⟨toNat_pooled F state requests, ?_, hc.claimed, hc.destroyed, ?_⟩
    · rw [hmade]
      exact hc.created
    · simp only [s, hc.created, hc.claimed, hc.destroyed, hc.pooled]
      rw [← UInt64.ofNat_add, ← UInt64.ofNat_add, ← length_made]
  · intro plan hkind commands c
    obtain ⟨served, hf⟩ := Client.exists_history plan commands
    have hc := counted_of plan.factory {} served
    have hcounters : c.counters = _ := hf.counters
    have hallocator : c.allocator = _ := hf.allocator
    rw [hcounters, hallocator, hc.created, hc.destroyed, counters_of, hkind]
    exact ⟨rfl, UInt64.ofNat_add ..⟩

/-- Two of three sessions come into being.  The client stops the one that it claims twice, and tries
    to stop one that it does not have; the allocator stops the other. -/
theorem History.statistics_around_a_failure :
    let plan : FactoryPlan := { failures := [(3, .create "no port")] }
    let commands : List Client.Command :=
      [.configure .empty 3, .take ⟨"audio", 1, "u", "p"⟩, .call 0 .stop, .call 0 .stop,
        .call 1 .stop, .discard]
    let c := Client.run plan {} commands
    plan.kind = .recording ∧ c.counters.stopped = 3 ∧ Client.stopCallsAll plan {} commands = 2 ∧
      c.allocator.statistics.created = .ofNat c.counters.made ∧
      .ofNat c.counters.stopped =
        c.allocator.statistics.destroyed + .ofNat (Client.stopCallsAll plan {} commands) := by
  intro plan commands c
  have hkind : plan.kind = .recording := rfl
  have hcounts := (statistics_count_events plan.factory {} []).2 plan hkind commands
  exact ⟨hkind, by decide +kernel, by decide +kernel, hcounts⟩

end CandidatePool
