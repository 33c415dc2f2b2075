import CandidatePool.Proofs.Conservation
/-!
Asking again for what was granted.  A reconciliation that succeeds brings the created count up to the
size that was asked for, and from then on neither claims nor discards bring it down.  So the same
request made again finds no session missing, however few still wait.  It finds none too many either:
the count is beyond the size only when the departed sessions alone are, and then the pool is empty.

A request that is made again therefore leaves all of the allocator as it is, and the sessions that
were claimed or discarded are not replaced.
-/

namespace CandidatePool

variable {σ τ : Type}

/-! ### Requests that ask for the same -/

/-- A request that does not ask for other servers than these or for another size. -/
def Request.Repeats (servers : Servers) (target : Nat) : Request → Prop
  | .reconcile other size => other = servers ∧ clampSize size = target
  | .claim _ | .discard | .peek | .health => True

/-- Nothing is missing, nothing can be removed, and the number that wait is counted already. -/
theorem Allocator.reconcile_fulfilled (F : Factory σ) {a : Allocator} (state : σ) {size : Int32}
    (hsize : clampSize size = a.target) (hreached : a.target ≤ a.pool.created)
    (hbeyond : a.target < a.pool.created → a.pool.sessions = [])
    (hpooled : a.statistics.pooled = .ofNat a.pool.size) :
    let r := a.reconcile F state a.servers size
    r.allocator = a ∧ r.factory = state ∧ r.failure = none ∧ r.made = [] ∧ r.stopped = [] := by
  have hbase : clampSize size ≤ (a.base a.servers).created := by
    rw [base, if_pos rfl, hsize]
    exact hreached
  obtain ⟨hallocator, hfactory, hfailure, hmade, hstopped⟩ := reconcile_of_ge F state hbase
  obtain ⟨hadopt, hnothing⟩ := a.adopt_self hbeyond
  have hsettle : a.settle = a := by
    simp only [settle, Statistics.setPooled, ← hpooled]
  rw [hsize, hadopt, hsettle] at hallocator
  rw [hsize, hnothing] at hstopped
  exact ⟨hallocator, hfactory, hfailure, hmade, hstopped⟩

namespace History

/-- Servers and a target were asked for, and there is nothing left to do for them. -/
structure Fulfilled (servers : Servers) (target : Nat) (h : History σ) : Prop where
  servers_eq : h.allocator.servers = servers
  target_eq : h.allocator.target = target
  reached : target ≤ h.allocator.pool.created
  beyond : target < h.allocator.pool.created → h.allocator.pool.sessions = []
  pooled : h.allocator.statistics.pooled = .ofNat h.allocator.pool.size

/-- A reconciliation that succeeds leaves nothing to do. -/
theorem Fulfilled.of_reconciled {F : Factory σ} {state : σ} {requests : List Request}
    {servers : Servers} {size : Int32}
    (hok : ((of F state requests).allocator.serve F (of F state requests).factory
      (.reconcile servers size)).answer = .reconciled none) :
    Fulfilled servers (clampSize size)
      ((of F state requests).serve F (.reconcile servers size)) := by
  have hcount := ((balanced_of F state requests).created_reconcile F servers size).1
    (Answer.reconciled.inj hok)
  have hbounds := Tenure.Bounds.of F state (requests ++ [.reconcile servers size])
  have hcounted := counted_of F state (requests ++ [.reconcile servers size])
  rw [of_concat] at hbounds hcounted
  have htarget : ((of F state requests).serve F (.reconcile servers size)).allocator.target =
      clampSize size := Allocator.target_reconcile ..
  constructor
  · exact Allocator.servers_reconcile ..
  · exact htarget
  · exact Nat.le_trans (Nat.le_max_left _ _) (Nat.le_of_eq hcount.symm)
  · intro hbeyond
    rw [← htarget] at hbeyond
    exact List.eq_nil_of_length_eq_zero (hbounds.size_eq_zero hbeyond)
  · exact hcounted.pooled

namespace Fulfilled

variable {servers : Servers} {target : Nat} {h : History σ}

theorem reconcile (hf : Fulfilled servers target h) (F : Factory τ) (state : τ) {size : Int32}
    (hsize : clampSize size = target) :
    let r := h.allocator.reconcile F state servers size
    r.allocator = h.allocator ∧ r.factory = state ∧ r.failure = none ∧ r.made = [] ∧
      r.stopped = [] := by
  obtain ⟨rfl, rfl, hreached, hbeyond, hpooled⟩ := hf
  exact Allocator.reconcile_fulfilled F state hsize hreached hbeyond hpooled

/-- Only a claim and a discard do anything, and neither leaves anything to do. -/
theorem serve (hf : Fulfilled servers target h) (F : Factory σ) {request : Request}
    (hrequest : request.Repeats servers target) :
    Fulfilled servers target (h.serve F request) ∧ (h.serve F request).made = h.made := by
  rcases serve_cases F h request with ⟨answer, heq⟩ | ⟨other, size, rfl⟩ |
    ⟨identity, s, rest, rfl, hpool⟩ | rfl
  · rw [heq]
    exact ⟨⟨hf.servers_eq, hf.target_eq, hf.reached, hf.beyond, hf.pooled⟩, rfl⟩
  · obtain ⟨rfl, hsize⟩ := hrequest
    obtain ⟨hallocator, -, -, hmade, -⟩ := hf.reconcile F h.factory hsize
    rw [serve_reconcile]
    simp only [hallocator, hmade, List.append_nil, and_true]
    exact ⟨hf.servers_eq, hf.target_eq, hf.reached, hf.beyond, hf.pooled⟩
  · rw [serve_claim_of_cons F identity hpool]
    refine ⟨⟨hf.servers_eq, hf.target_eq, hf.reached, ?_, rfl⟩, rfl⟩
    intro hbeyond
    have hempty := hf.beyond hbeyond
    rw [hpool] at hempty
    cases hempty
  · rw [serve_discard]
    exact ⟨⟨hf.servers_eq, hf.target_eq, hf.reached, fun _ => rfl, rfl⟩, rfl⟩

theorem serveAll (hf : Fulfilled servers target h) (F : Factory σ) {requests : List Request}
    (hrequests : ∀ request ∈ requests, request.Repeats servers target) :
    Fulfilled servers target (h.serveAll F requests) ∧ (h.serveAll F requests).made = h.made := by
  induction requests generalizing h with
  | nil => exact ⟨hf, rfl⟩
  | cons request later ih =>
      rw [List.forall_mem_cons] at hrequests
      obtain ⟨hnext, hmade⟩ := hf.serve F hrequests.1
      obtain ⟨hlast, hlater⟩ := ih hnext hrequests.2
      exact ⟨hlast, hlater.trans hmade⟩

end Fulfilled

/-! ### Every run -/

/-- Once a reconciliation has succeeded, only other servers or another size make a difference.
    Whatever is claimed and discarded in between, asking for the same again succeeds, without asking
    the factory for anything, and leaves the whole allocator as it is; no session is made in place of
    one that is gone. -/
theorem repeating_changes_nothing (F : Factory σ) (state : σ) (requests : List Request)
    (servers : Servers) (size : Int32) :
    let h := of F state requests
    (h.allocator.serve F h.factory (.reconcile servers size)).answer = .reconciled none →
    ∀ later : List Request, (∀ request ∈ later, request.Repeats servers (clampSize size)) →
      let first := h.serve F (.reconcile servers size)
      let k := first.serveAll F later
      k.made = first.made ∧
      ∀ again, clampSize again = clampSize size →
        let outcome := k.allocator.serve F k.factory (.reconcile servers again)
        let asked := (k.allocator.serve F.recorded (k.factory, []) (.reconcile servers again)).factory.2
        outcome.answer = .reconciled none ∧ asked = [] ∧ outcome.made = [] ∧ outcome.stopped = [] ∧
          outcome.allocator = k.allocator ∧ outcome.factory = k.factory := by
  intro h hok later hlater first k
  obtain ⟨hf, hmade⟩ := (Fulfilled.of_reconciled hok).serveAll F hlater
  refine ⟨hmade, ?_⟩
  intro again hagain outcome asked
  obtain ⟨hallocator, hfactory, hfailure, hnone, hstopped⟩ := hf.reconcile F k.factory hagain
  have hrecorded := (hf.reconcile F.recorded (k.factory, []) hagain).2.1
  have hasked : asked = [] := congrArg (·.2) hrecorded
  exact ⟨congrArg Answer.reconciled hfailure, hasked, hnone, hstopped, hallocator, hfactory⟩

/-- One of three sessions is claimed, and then none are wanted, so that the created count is beyond
    the size.  Claims, a discard and a negative size in between make no difference. -/
theorem repeating_beyond_the_target :
    let F := FactoryPlan.factory {}
    let audio : Identity := ⟨"audio", 1, "u", "p"⟩
    let h := of F {} [.reconcile .empty 3, .claim audio]
    let later : List Request := [.peek, .claim audio, .reconcile .empty (-1), .discard]
    let k := (h.serve F (.reconcile .empty 0)).serveAll F later
    let outcome := k.allocator.serve F k.factory (.reconcile .empty (-5))
    (h.allocator.serve F h.factory (.reconcile .empty 0)).answer = .reconciled none ∧
      (∀ request ∈ later, request.Repeats .empty (clampSize 0)) ∧ clampSize (-5) = clampSize 0 ∧
      k.allocator.target < k.allocator.pool.created ∧
      outcome.answer = .reconciled none ∧ outcome.allocator = k.allocator ∧
      outcome.stopped = [] := by
  intro F audio h later k outcome
  have hok : (h.allocator.serve F h.factory (.reconcile .empty 0)).answer = .reconciled none := by
    decide +kernel
  have hlater : ∀ request ∈ later, request.Repeats .empty (clampSize 0) := by
    intro request hrequest
    simp only [later, List.mem_cons, List.not_mem_nil, or_false] at hrequest
    rcases hrequest with rfl | rfl | rfl | rfl
    · trivial
    · trivial
    · exact ⟨rfl, by decide +kernel⟩
    · trivial
  have hagain : clampSize (-5) = clampSize 0 := by decide +kernel
  obtain ⟨-, hall⟩ := repeating_changes_nothing F {} _ .empty 0 hok later hlater
  obtain ⟨hanswer, -, -, hstopped, hallocator, -⟩ := hall (-5) hagain
  exact ⟨hok, hlater, hagain, by decide +kernel, hanswer, hallocator, hstopped⟩

end History

end CandidatePool
