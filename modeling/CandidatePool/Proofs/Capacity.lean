import CandidatePool.Proofs.Counts
import CandidatePool.Proofs.Filling
import Mathlib.Algebra.Group.Nat.Defs
/-!
How many sessions there can be.  The pool holds no more sessions than the target leaves room for
beside the departed ones.  So it is within its target, and it is empty when the created count is
beyond the target, which happens when more sessions have departed than the target allows.

The created count follows the sizes that were asked for under the servers in effect, and never exceeds
the largest of them.  Since sizes are words of 32 bits with a sign, no count comes near the end of a
machine word, and no difference of counts falls below zero.
-/

namespace CandidatePool

variable {σ : Type}

theorem clampSize_le (size : Int32) : clampSize size ≤ 2 ^ 31 - 1 := by
  have hlt := size.toInt_lt
  simp only [clampSize]
  omega

/-! ### Bounds on the counts -/

/-- The time for which servers have been in effect. -/
structure Tenure where
  /-- The largest size that was asked for under these servers, after clamping. -/
  largest : Nat := 0
  /-- How many sessions were handed over. -/
  claimed : Nat := 0

namespace Tenure

/-- Other servers start the time anew, with the size that was asked for with them. -/
def serve (F : Factory σ) (t : Tenure) (h : History σ) : Request → Tenure
  | .reconcile servers size =>
    if servers = h.allocator.servers then { t with largest := max t.largest (clampSize size) }
    else { largest := clampSize size }
  | request =>
    let answer := (h.allocator.serve F h.factory request).answer
    { t with claimed := t.claimed + (request.handed answer).length }

def serveAll (F : Factory σ) : Tenure → History σ → List Request → Tenure
  | t, _, [] => t
  | t, h, request :: later => serveAll F (t.serve F h request) (h.serve F request) later

/-- The time for which the servers in effect have been so, in a new allocator that has served
    requests. -/
def of (F : Factory σ) (state : σ) (requests : List Request) : Tenure :=
  serveAll F {} (.start state) requests

/-- What a history keeps to, with the time of its servers. -/
structure Bounds (t : Tenure) (h : History σ) : Prop where
  balanced : h.Balanced
  size_le : h.allocator.pool.size ≤ h.allocator.target - h.departed
  created_le : h.allocator.pool.created ≤ t.largest
  claimed_le : t.claimed ≤ h.departed
  largest_le : t.largest ≤ 2 ^ 31 - 1

namespace Bounds

variable {t : Tenure} {h : History σ}

theorem start (state : σ) : Bounds {} (.start state) :=
  ⟨.start state, Nat.zero_le _, Nat.zero_le _, Nat.zero_le _, Nat.zero_le _⟩

theorem reconcile (hb : Bounds t h) (F : Factory σ) (servers : Servers) (size : Int32) :
    Bounds (t.serve F h (.reconcile servers size)) (h.serve F (.reconcile servers size)) := by
  have hbalanced := hb.balanced.serve F (.reconcile servers size)
  obtain ⟨hok, herror⟩ := hb.balanced.created_reconcile F servers size
  have hsize := clampSize_le size
  have hbefore := hb.balanced
  obtain ⟨-, -, hcreated, hclaimed, hlargest⟩ := hb
  simp only [History.Balanced] at hbalanced hbefore
  -- the created count is between the departed sessions and the larger of them and the size
  have hcount : (h.serve F (.reconcile servers size)).allocator.pool.created ≤
      max (clampSize size) (h.serve F (.reconcile servers size)).departed := by
    rw [History.serve_reconcile] at hok herror ⊢
    by_cases hfailure : (h.allocator.reconcile F h.factory servers size).failure = none
    · exact Nat.le_of_eq (hok hfailure)
    · exact Nat.le_trans (Nat.le_of_lt (herror hfailure).2) (Nat.le_max_left _ _)
  have htarget : (h.serve F (.reconcile servers size)).allocator.target = clampSize size :=
    Allocator.target_reconcile ..
  have hdeparted : (h.serve F (.reconcile servers size)).departed =
      if servers = h.allocator.servers then h.departed else 0 := by
    rw [History.serve_reconcile]
  by_cases hsame : servers = h.allocator.servers
  · rw [if_pos hsame] at hdeparted
    refine ⟨hbalanced, ?_, ?_, ?_, ?_⟩
    · rw [htarget]
      omega
    · simp only [Tenure.serve, if_pos hsame]
      omega
    · simp only [Tenure.serve, if_pos hsame, hdeparted]
      exact hclaimed
    · simp only [Tenure.serve, if_pos hsame]
      omega
  · rw [if_neg hsame] at hdeparted
    refine ⟨hbalanced, ?_, ?_, ?_, ?_⟩
    · rw [htarget]
      omega
    · simp only [Tenure.serve, if_neg hsame]
      omega
    · simp only [Tenure.serve, if_neg hsame]
      exact Nat.zero_le _
    · simp only [Tenure.serve, if_neg hsame]
      exact hsize

theorem serve (hb : Bounds t h) (F : Factory σ) (request : Request) :
    Bounds (t.serve F h request) (h.serve F request) := by
  have hbalanced := hb.balanced.serve F request
  have hsize := hb.size_le
  cases request with
  | reconcile servers size => exact hb.reconcile F servers size
  | claim identity =>
      cases hpool : h.allocator.pool.sessions with
      | nil =>
          have hanswer : (h.allocator.serve F h.factory (.claim identity)).answer = .claimed none := by
            simp [Allocator.serve, Allocator.claim, Pool.popFront?, hpool]
          rw [History.serve_claim_of_nil F identity hpool] at hbalanced ⊢
          simp only [Tenure.serve, hanswer, Request.handed, List.length_nil, Nat.add_zero]
          exact ⟨hbalanced, hsize, hb.created_le, hb.claimed_le, hb.largest_le⟩
      | cons s rest =>
          have hanswer : (h.allocator.serve F h.factory (.claim identity)).answer =
              .claimed (some (s.claim identity)) := by
            simp [Allocator.serve, Allocator.claim, Pool.popFront?, hpool]
          rw [History.serve_claim_of_cons F identity hpool] at hbalanced ⊢
          simp only [Tenure.serve, hanswer, Request.handed, List.length_singleton]
          refine ⟨hbalanced, ?_, hb.created_le, Nat.succ_le_succ hb.claimed_le, hb.largest_le⟩
          simp only [Pool.size, hpool, List.length_cons] at hsize ⊢
          omega
  | discard =>
      rw [History.serve_discard] at hbalanced ⊢
      refine ⟨hbalanced, Nat.zero_le _, hb.created_le, ?_, hb.largest_le⟩
      exact Nat.le_add_right_of_le hb.claimed_le
  | peek =>
      rw [History.serve_peek] at hbalanced ⊢
      exact ⟨hbalanced, hsize, hb.created_le, hb.claimed_le, hb.largest_le⟩
  | health =>
      rw [History.serve_health] at hbalanced ⊢
      exact ⟨hbalanced, hsize, hb.created_le, hb.claimed_le, hb.largest_le⟩

theorem serveAll (hb : Bounds t h) (F : Factory σ) (requests : List Request) :
    Bounds (t.serveAll F h requests) (h.serveAll F requests) := by
  induction requests generalizing t h with
  | nil => exact hb
  | cons request later ih => exact ih (hb.serve F request)

theorem of (F : Factory σ) (state : σ) (requests : List Request) :
    Bounds (.of F state requests) (History.of F state requests) :=
  (start state).serveAll F requests

theorem size_le_target (hb : Bounds t h) : h.allocator.pool.size ≤ h.allocator.target :=
  Nat.le_trans hb.size_le (Nat.sub_le _ _)

/-- Beyond the target the created count consists of departed sessions alone. -/
theorem size_eq_zero (hb : Bounds t h) (hbeyond : h.allocator.target < h.allocator.pool.created) :
    h.allocator.pool.size = 0 := by
  have hbalanced := hb.balanced
  have hsize := hb.size_le
  simp only [History.Balanced] at hbalanced
  omega

end Bounds

end Tenure

/-! ### Every run -/

/-- The pool is within its target, and empty when the created count is beyond it.  The created count
    and the number of claims do not exceed the largest size asked for under the servers in effect,
    so none of them passes 2^31 - 1.  A shrink computes its two differences from larger numbers, and
    the filling ends after at most as many attempts as sessions are missing, with each of these
    bounds at each attempt and room for one more session in the count. -/
theorem History.capacity_at_each_attempt (F : Factory σ) (state : σ) (requests : List Request) :
    let h := of F state requests
    let t := Tenure.of F state requests
    (h.allocator.pool.size ≤ h.allocator.target ∧
      h.allocator.pool.created ≤ t.largest ∧ t.claimed ≤ t.largest ∧ t.largest ≤ 2 ^ 31 - 1 ∧
      (h.allocator.target < h.allocator.pool.created → h.allocator.pool.size = 0)) ∧
    ∀ servers size,
      let adoption := h.allocator.adopt servers (clampSize size)
      let r := h.allocator.reconcile F h.factory servers size
      (servers = h.allocator.servers → clampSize size < h.allocator.pool.created →
        ∃ wanted, adoption.events = [.shrunk adoption.stopped.length wanted] ∧
          h.allocator.pool.created = clampSize size + wanted ∧
          h.allocator.pool.created = adoption.allocator.pool.created + adoption.stopped.length) ∧
      ∃ asking last failure,
        Allocator.Fills F adoption.allocator h.factory asking last r.factory failure ∧
        r.allocator = last.settle ∧ r.failure = failure.map (fun (_, cause) => .session cause) ∧
        asking.map (·.nextId) = (h.attempted F (.reconcile servers size)).map (·.id) ∧
        asking.length ≤ clampSize size - adoption.allocator.pool.created ∧
        ∀ a ∈ asking, a.target = clampSize size ∧ a.pool.size ≤ a.target ∧
          a.pool.created ≤ (t.serve F h (.reconcile servers size)).largest ∧
          a.pool.created < a.target ∧ a.pool.created + 1 ≤ 2 ^ 31 - 1 := by
  intro h t
  have hb : Tenure.Bounds t h := .of F state requests
  have hbalanced := hb.balanced
  simp only [Balanced] at hbalanced
  refine ⟨⟨hb.size_le_target, hb.created_le, ?_, hb.largest_le, hb.size_eq_zero⟩, ?_⟩
  · have hclaimed := hb.claimed_le
    have hcreated := hb.created_le
    omega
  intro servers size adoption r
  constructor
  · intro hsame hbeyond
    subst hsame
    refine ⟨h.allocator.pool.created - clampSize size, ?_, ?_, ?_⟩
    · simp only [adoption, Allocator.adopt, if_pos hbeyond]
      rfl
    · omega
    · simp only [adoption, Allocator.adopt, if_true]
      exact h.allocator.pool.created_eq_shrink_add (by omega) _
  · obtain ⟨asking, hfills, hids⟩ := adoption.allocator.exists_fills F h.factory
    -- adoption keeps what is beyond the pool in the count, so the filling starts within it
    have hsize : adoption.allocator.pool.size ≤ adoption.allocator.pool.created := by
      have hcreated := Allocator.created_adopt servers (clampSize size) hb.balanced
      exact Nat.le.intro hcreated.symm
    refine ⟨asking, _, _, hfills, rfl, rfl, hids, ?_, ?_⟩
    · have hlength := hfills.length_le
      rwa [Allocator.target_adopt] at hlength
    · intro a ha
      obtain ⟨htarget, -, hwithin, hlt⟩ := hfills.of_mem hsize ha
      rw [Allocator.target_adopt] at htarget
      have hclamp := clampSize_le size
      have hlargest : clampSize size ≤ (t.serve F h (.reconcile servers size)).largest := by
        simp only [Tenure.serve]
        split
        · exact Nat.le_max_right _ _
        · exact Nat.le_refl _
      refine ⟨htarget, ?_, ?_, hlt, ?_⟩ <;> omega

/-- Two of three sessions are claimed, and a shrink to one stops at them.  Then a shrink to none
    finds nothing to remove, and other servers ask for two sessions, the second of which fails. -/
theorem History.capacity_beyond_the_target :
    let F := FactoryPlan.factory { failures := [(5, .create "no port")] }
    let other : Servers := ⟨.empty, [{ address := "relay", port := 3478 }]⟩
    let audio : Identity := ⟨"audio", 1, "u", "p"⟩
    let requests : List Request :=
      [.reconcile .empty 3, .claim audio, .claim audio, .reconcile .empty 1]
    let h := of F {} requests
    let adoption := h.allocator.adopt .empty (clampSize 0)
    let change := h.allocator.adopt other (clampSize 2)
    (h.allocator.target < h.allocator.pool.created ∧ h.allocator.pool.size = 0) ∧
    (Servers.empty = h.allocator.servers ∧ clampSize 0 < h.allocator.pool.created ∧
      ∃ wanted, adoption.events = [.shrunk adoption.stopped.length wanted] ∧
        h.allocator.pool.created = clampSize 0 + wanted ∧
        h.allocator.pool.created = adoption.allocator.pool.created + adoption.stopped.length) ∧
    ∃ asking last failure,
      Allocator.Fills F change.allocator h.factory asking last
        (h.allocator.reconcile F h.factory other 2).factory failure ∧
      asking.map (·.nextId) = [⟨4⟩, ⟨5⟩] ∧
      ∃ a ∈ asking, a.target = clampSize 2 ∧ a.pool.size ≤ a.target ∧
        a.pool.created ≤ ((Tenure.of F {} requests).serve F h (.reconcile other 2)).largest ∧
        a.pool.created < a.target ∧ a.pool.created + 1 ≤ 2 ^ 31 - 1 := by
  intro F other audio requests h adoption change
  obtain ⟨⟨-, -, -, -, hempty⟩, hall⟩ := capacity_at_each_attempt F {} requests
  have hbeyond : h.allocator.target < h.allocator.pool.created := by decide +kernel
  have hsame : Servers.empty = h.allocator.servers := by decide +kernel
  have hlt : clampSize 0 < h.allocator.pool.created := by decide +kernel
  have hids : (h.attempted F (.reconcile other 2)).map (·.id) = [⟨4⟩, ⟨5⟩] := by decide +kernel
  obtain ⟨asking, last, failure, hfills, -, -, hnext, -, hbounds⟩ := (hall other 2).2
  rw [hids] at hnext
  refine ⟨⟨hbeyond, hempty hbeyond⟩, ⟨hsame, hlt, (hall .empty 0).1 hsame hlt⟩, asking, last,
    failure, hfills, hnext, ?_⟩
  cases asking with
  | nil => cases hnext
  | cons a later => exact ⟨a, List.mem_cons_self, hbounds a List.mem_cons_self⟩

end CandidatePool
