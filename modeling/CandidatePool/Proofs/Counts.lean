import CandidatePool.Proofs.History
/-!
How many sessions there are.  In every reachable state the created count is the number of waiting
sessions and of departed ones taken together.  A shrink that cannot remove as much as was wanted
therefore stops at the departed sessions, and what a reconciliation leaves behind hangs on the last
size and on the departed sessions only, and not on the sizes and failures before it.
-/

namespace CandidatePool

variable {σ : Type}

namespace History

/-- The created count is made up of the sessions that wait and those that have departed. -/
def Balanced (h : History σ) : Prop :=
  h.allocator.pool.created = h.allocator.pool.size + h.departed

theorem Balanced.start (state : σ) : (start state).Balanced := rfl

theorem Balanced.serve {h : History σ} (hb : h.Balanced) (F : Factory σ) (request : Request) :
    (h.serve F request).Balanced := by
  rcases serve_cases F h request with ⟨answer, heq⟩ | ⟨servers, size, rfl⟩ |
    ⟨identity, s, rest, rfl, hpool⟩ | rfl
  · rw [heq]
    exact hb
  · -- the new sessions count on both sides
    have hadopt := Allocator.created_adopt servers (clampSize size) hb
    rw [serve_reconcile]
    simp only [Balanced, Pool.size, Allocator.created_reconcile, Allocator.sessions_reconcile,
      List.length_append] at hadopt ⊢
    omega
  · rw [serve_claim_of_cons F identity hpool]
    simp only [Balanced, Pool.size, hpool, List.length_cons] at hb ⊢
    omega
  · rw [serve_discard]
    simp only [Balanced, Pool.size, List.length_nil] at hb ⊢
    omega

theorem Balanced.serveAll {h : History σ} (hb : h.Balanced) (F : Factory σ)
    (requests : List Request) : (h.serveAll F requests).Balanced :=
  serveAll_induction (fun _ request hb => hb.serve F request) hb requests

theorem balanced_of (F : Factory σ) (state : σ) (requests : List Request) :
    (of F state requests).Balanced :=
  (Balanced.start state).serveAll F requests

/-! ### After a reconciliation -/

section Reconcile

variable {h : History σ} (F : Factory σ) (servers : Servers) (size : Int32)

/-- The sessions that a reconciliation keeps, with those departed, do not exceed the size unless
    the departed ones alone do. -/
theorem Balanced.size_adopt_le (hb : h.Balanced) :
    (h.allocator.adopt servers (clampSize size)).allocator.pool.size ≤
      clampSize size - (h.serve F (.reconcile servers size)).departed := by
  have hkept := Allocator.sessions_adopt servers (clampSize size) hb
  rw [serve_reconcile]
  simp only [Pool.size, hkept]
  split
  · exact List.length_take_le ..
  · exact Nat.zero_le _

/-- A reconciliation that succeeds brings the created count up to the size and not beyond, unless
    more sessions have departed; one that fails leaves it between the two. -/
theorem Balanced.created_reconcile (hb : h.Balanced) :
    let r := h.allocator.reconcile F h.factory servers size
    let departed := (h.serve F (.reconcile servers size)).departed
    (r.failure = none → r.allocator.pool.created = max (clampSize size) departed) ∧
      (r.failure ≠ none →
        departed ≤ r.allocator.pool.created ∧ r.allocator.pool.created < clampSize size) := by
  intro r departed
  have hkept := hb.size_adopt_le F servers size
  have hcreated := Allocator.created_adopt servers (clampSize size) hb
  have hdeparted : departed = if servers = h.allocator.servers then h.departed else 0 := by
    simp only [departed, serve_reconcile]
  have hmade := h.allocator.length_made_le F h.factory servers size
  have hiff := h.allocator.failure_eq_none_iff F h.factory servers size
  have hsum : r.allocator.pool.created =
      (h.allocator.adopt servers (clampSize size)).allocator.pool.created + r.made.length :=
    Allocator.created_reconcile ..
  rw [← hdeparted] at hcreated
  change _ ≤ clampSize size - departed at hkept
  constructor
  · intro hnone
    have hlength := hiff.mp hnone
    change r.made.length = _ at hlength
    omega
  · intro hsome
    have hshort : r.made.length ≠
        clampSize size - (h.allocator.adopt servers (clampSize size)).allocator.pool.created :=
      fun hlength => hsome (hiff.mpr hlength)
    change r.made.length ≤ _ at hmade
    omega

end Reconcile

/-- In every reachable state the created count is the pool's size and the departed sessions.  After
    a reconciliation both counts follow from the size and from the departed sessions, of which
    there are none when the servers were changed. -/
theorem counts_of_size_and_departed (F : Factory σ) (state : σ) (requests : List Request) :
    let h := of F state requests
    h.allocator.pool.created = h.allocator.pool.size + h.departed ∧
      ∀ servers size,
        let outcome := h.allocator.serve F h.factory (.reconcile servers size)
        let departed := (h.serve F (.reconcile servers size)).departed
        (outcome.answer = .reconciled none →
          outcome.allocator.pool.created = max (clampSize size) departed ∧
            outcome.allocator.pool.size = max (clampSize size - departed) 0) ∧
        (∀ cause, outcome.answer = .reconciled (some cause) →
          departed ≤ outcome.allocator.pool.created ∧
            outcome.allocator.pool.created < clampSize size ∧
            outcome.allocator.pool.size = outcome.allocator.pool.created - departed) ∧
        (servers = h.allocator.servers → departed = h.departed) ∧
        (servers ≠ h.allocator.servers → departed = 0) := by
  intro h
  have hb : h.Balanced := balanced_of F state requests
  refine ⟨hb, ?_⟩
  intro servers size outcome departed
  have hafter : outcome.allocator.pool.created = outcome.allocator.pool.size + departed :=
    hb.serve F (.reconcile servers size)
  obtain ⟨hok, herror⟩ := hb.created_reconcile F servers size
  refine ⟨?_, ?_, ?_, ?_⟩
  · intro hanswer
    have hcreated : outcome.allocator.pool.created = max (clampSize size) departed :=
      hok (Answer.reconciled.inj hanswer)
    exact ⟨hcreated, by omega⟩
  · intro cause hanswer
    have hfailure : (h.allocator.reconcile F h.factory servers size).failure = some cause :=
      Answer.reconciled.inj hanswer
    have hbounds : departed ≤ outcome.allocator.pool.created ∧
        outcome.allocator.pool.created < clampSize size :=
      herror (by rw [hfailure]; exact Option.some_ne_none cause)
    exact ⟨hbounds.1, hbounds.2, by omega⟩
  · intro hsame
    simp only [departed, serve_reconcile, if_pos hsame]
  · intro hchanged
    simp only [departed, serve_reconcile, if_neg hchanged]

/-- The first reconciliation falls short after one session; when that one is claimed, the next
    makes the two that are missing beside it. -/
theorem counts_around_a_claim :
    let F := FactoryPlan.factory { failures := [(2, .create "no port")] }
    let fresh := of F {} []
    let claimed := of F {} [.reconcile .empty 3, .claim ⟨"audio", 1, "u", "p"⟩]
    let short := fresh.allocator.serve F fresh.factory (.reconcile .empty 3)
    let full := claimed.allocator.serve F claimed.factory (.reconcile .empty 3)
    (short.answer = .reconciled (some (.session (.create "no port"))) ∧
      0 ≤ short.allocator.pool.created ∧ short.allocator.pool.created < clampSize 3 ∧
      short.allocator.pool.size = short.allocator.pool.created - 0) ∧
    (full.answer = .reconciled none ∧ full.allocator.pool.created = max (clampSize 3) 1 ∧
      full.allocator.pool.size = max (clampSize 3 - 1) 0) := by
  intro F fresh claimed short full
  have hshort : short.answer = .reconciled (some (.session (.create "no port"))) := by
    decide +kernel
  have hfull : full.answer = .reconciled none := by decide +kernel
  have hfresh := (counts_of_size_and_departed F {} []).2 .empty 3
  have hclaimed := (counts_of_size_and_departed F {}
    [.reconcile .empty 3, .claim ⟨"audio", 1, "u", "p"⟩]).2 .empty 3
  exact ⟨⟨hshort, hfresh.2.1 _ hshort⟩, hfull, hclaimed.1 hfull⟩

end History

end CandidatePool
