import CandidatePool.Proofs.Capacity
import CandidatePool.Proofs.Order
/-!
What a discard leaves to do.  A discard empties the pool and keeps the created count, and it is this
count that later reconciliations go by, so requests for no more than the count bring nothing.  Whether
the target may be asked for again is another matter: that hangs on the created count being up to the
target, and it is, unless the last reconciliation fell short.  After one that fell short the sessions
that it missed are still owed, and a discard does not cancel them.
-/

namespace CandidatePool

variable {σ : Type}

/-! ### Requests that ask for nothing new -/

/-- A request that does not ask for other servers than these or for a larger size. -/
def Request.StaysWithin (servers : Servers) (bound : Nat) : Request → Prop
  | .reconcile other size => other = servers ∧ clampSize size ≤ bound
  | .claim _ | .discard | .peek | .health => True

/-- Nothing has come of a request: no session was made, none was handed over, and none waits. -/
structure Outcome.Barren (o : Outcome σ) : Prop where
  made : o.made = []
  claimed : ∀ session, o.answer ≠ .claimed (some session)
  empty : o.allocator.pool.sessions = []

namespace History

/-- The attempts of a reconciliation are those for the sessions that are missing. -/
theorem attempted_reconcile (F : Factory σ) (h : History σ) (servers : Servers) (size : Int32) :
    h.attempted F (.reconcile servers size) =
      Series.attempts F servers (clampSize size - (h.allocator.base servers).created)
        h.allocator.nextId h.factory := by
  simp only [attempted, Allocator.servers_adopt, Allocator.target_adopt, Allocator.nextId_adopt,
    Allocator.missing_adopt]

/-- Under equal servers no session waits, and the created count has reached a number. -/
structure Drained (servers : Servers) (bound : Nat) (h : History σ) : Prop where
  servers_eq : h.allocator.servers = servers
  reached : bound ≤ h.allocator.pool.created
  empty : h.allocator.pool.sessions = []

namespace Drained

variable {servers : Servers} {bound : Nat} {h : History σ}

theorem serve (hd : Drained servers bound h) (F : Factory σ) {request : Request}
    (hrequest : request.StaysWithin servers bound) :
    h.attempted F request = [] ∧
      (h.allocator.serve F h.factory request).Barren ∧
      Drained servers bound (h.serve F request) := by
  obtain ⟨rfl, hreached, hempty⟩ := hd
  cases request with
  | reconcile other size =>
      obtain ⟨rfl, hsize⟩ := hrequest
      have hbase : clampSize size ≤ (h.allocator.base h.allocator.servers).created := by
        rw [Allocator.base, if_pos rfl]
        exact Nat.le_trans hsize hreached
      obtain ⟨hallocator, -, -, hmade, -⟩ := Allocator.reconcile_of_ge F h.factory hbase
      have hadopt : (h.allocator.adopt h.allocator.servers (clampSize size)).allocator =
          { h.allocator with target := clampSize size } :=
        (Allocator.adopt_kept fun _ => hempty).1
      rw [hadopt] at hallocator
      have hafter : (h.allocator.serve F h.factory
          (.reconcile h.allocator.servers size)).allocator =
            ({ h.allocator with target := clampSize size } : Allocator).settle := hallocator
      refine ⟨?_, ⟨hmade, fun _ => Answer.noConfusion, ?_⟩, ?_⟩
      · rw [attempted_reconcile, Nat.sub_eq_zero_of_le hbase]
        rfl
      · rw [hafter]
        exact hempty
      · constructor <;> simp only [History.serve, hafter]
        · rfl
        · exact hreached
        · exact hempty
  | claim identity =>
      have hserve := serve_claim_of_nil F identity hempty
      refine ⟨rfl, ⟨rfl, ?_, ?_⟩, ?_⟩
      · simp [Allocator.serve, Allocator.claim, Pool.popFront?, hempty]
      · simp [Allocator.serve, Allocator.claim, Pool.popFront?, hempty]
      · rw [hserve]
        exact ⟨rfl, hreached, hempty⟩
  | discard => exact ⟨rfl, ⟨rfl, fun _ => Answer.noConfusion, rfl⟩, rfl, hreached, rfl⟩
  | peek => exact ⟨rfl, ⟨rfl, fun _ => Answer.noConfusion, hempty⟩, rfl, hreached, hempty⟩
  | health => exact ⟨rfl, ⟨rfl, fun _ => Answer.noConfusion, hempty⟩, rfl, hreached, hempty⟩

theorem serveAll (hd : Drained servers bound h) (F : Factory σ) {requests : List Request}
    (hrequests : ∀ request ∈ requests, request.StaysWithin servers bound) :
    h.attemptedAll F requests = [] ∧ ∀ o ∈ h.outcomes F requests, o.Barren := by
  induction requests generalizing h with
  | nil => exact ⟨rfl, List.forall_mem_nil _⟩
  | cons request later ih =>
      rw [List.forall_mem_cons] at hrequests
      obtain ⟨hattempted, hbarren, hnext⟩ := hd.serve F hrequests.1
      obtain ⟨hlater, hall⟩ := ih hnext hrequests.2
      refine ⟨?_, List.forall_mem_cons.mpr ⟨hbarren, hall⟩⟩
      rw [attemptedAll, hattempted, hlater, List.nil_append]

end Drained

/-- From here on nothing comes of requests that stay within the servers and the size: the factory is
    asked for nothing, and each of them is barren. -/
def IdleWithin (F : Factory σ) (servers : Servers) (bound : Nat) (h : History σ) : Prop :=
  ∀ later : List Request, (∀ request ∈ later, request.StaysWithin servers bound) →
    h.attemptedAll F later = [] ∧ ∀ o ∈ h.outcomes F later, o.Barren

theorem Drained.idleWithin {servers : Servers} {bound : Nat} {h : History σ}
    (hd : Drained servers bound h) (F : Factory σ) : h.IdleWithin F servers bound :=
  fun _ hlater => hd.serveAll F hlater

end History

/-! ### Reconciliations that fell short -/

/-- How a reconciliation ended, where an answer is that of one. -/
def Answer.ending? : Answer → Option (Option PoolError)
  | .reconciled failure => some failure
  | .claimed _ | .discarded | .peeked _ | .told => none

namespace History

/-- There was a reconciliation, and the last one ended in an error. -/
def FellShort (h : History σ) : Prop :=
  ∃ cause, (h.answers.filterMap Answer.ending?).getLast? = some (some cause)

/-- Only a reconciliation changes the target, the created count or how the last reconciliation
    ended. -/
theorem kept_serve (F : Factory σ) (h : History σ) (request : Request)
    (hrequest : ∀ servers size, request ≠ .reconcile servers size) :
    (h.serve F request).allocator.target = h.allocator.target ∧
      (h.serve F request).allocator.pool.created = h.allocator.pool.created ∧
      ((h.serve F request).FellShort ↔ h.FellShort) := by
  cases request with
  | reconcile servers size => exact absurd rfl (hrequest servers size)
  | claim identity =>
      cases hpool : h.allocator.pool.sessions with
      | nil =>
          rw [serve_claim_of_nil F identity hpool]
          simp [FellShort, Answer.ending?]
      | cons s rest =>
          rw [serve_claim_of_cons F identity hpool]
          simp [FellShort, Answer.ending?]
  | discard =>
      rw [serve_discard]
      simp [FellShort, Answer.ending?]
  | peek =>
      rw [serve_peek]
      simp [FellShort, Answer.ending?]
  | health =>
      rw [serve_health]
      simp [FellShort, Answer.ending?]

theorem fellShort_reconcile (F : Factory σ) (h : History σ) (servers : Servers) (size : Int32) :
    (h.serve F (.reconcile servers size)).FellShort ↔
      (h.allocator.reconcile F h.factory servers size).failure ≠ none := by
  rw [serve_reconcile]
  simp [FellShort, Answer.ending?, Option.ne_none_iff_exists']

/-- The created count is below the target exactly while sessions are owed that the last
    reconciliation has failed to make. -/
theorem created_lt_target_iff (F : Factory σ) (state : σ) (requests : List Request) :
    (of F state requests).allocator.pool.created < (of F state requests).allocator.target ↔
      (of F state requests).FellShort := by
  suffices hboth : (of F state requests).Balanced ∧
      ((of F state requests).allocator.pool.created < (of F state requests).allocator.target ↔
        (of F state requests).FellShort) from hboth.2
  refine serveAll_induction (P := fun h : History σ => h.Balanced ∧
    (h.allocator.pool.created < h.allocator.target ↔ h.FellShort)) ?_ ?_ requests
  · rintro h request ⟨hb, hiff⟩
    refine ⟨hb.serve F request, ?_⟩
    by_cases hrequest : ∃ servers size, request = .reconcile servers size
    · obtain ⟨servers, size, rfl⟩ := hrequest
      obtain ⟨hok, herror⟩ := hb.created_reconcile F servers size
      rw [fellShort_reconcile]
      rw [serve_reconcile] at hok herror ⊢
      simp only [Allocator.target_reconcile]
      constructor
      · intro hlt hnone
        have hcount := hok hnone
        omega
      · intro hfailure
        exact (herror hfailure).2
    · obtain ⟨htarget, hcreated, hshort⟩ :=
        kept_serve F h request fun servers size heq => hrequest ⟨servers, size, heq⟩
      rw [htarget, hcreated, hshort]
      exact hiff
  · refine ⟨Balanced.start state, ?_⟩
    simp [start, FellShort]

/-- The target is a size that can be asked for. -/
theorem exists_size_eq_target (F : Factory σ) (state : σ) (requests : List Request) :
    ∃ size, clampSize size = (of F state requests).allocator.target := by
  refine serveAll_induction (P := fun h : History σ => ∃ size, clampSize size = h.allocator.target)
    ?_ ⟨0, (by decide : clampSize 0 = 0)⟩ requests
  rintro h request ⟨size, hsize⟩
  by_cases hrequest : ∃ servers size, request = .reconcile servers size
  · obtain ⟨servers, asked, rfl⟩ := hrequest
    exact ⟨asked, (Allocator.target_reconcile ..).symm⟩
  · obtain ⟨htarget, -, -⟩ :=
      kept_serve F h request fun servers size heq => hrequest ⟨servers, size, heq⟩
    exact ⟨size, hsize.trans htarget.symm⟩

/-- A reconciliation under equal servers asks for something if sessions are missing, and if the first
    attempt brings a session and none waits yet, that one waits at the front. -/
theorem exists_attempt_of_lt (F : Factory σ) {h : History σ}
    (hempty : h.allocator.pool.sessions = []) {size : Int32}
    (hlt : h.allocator.pool.created < clampSize size) :
    ∃ attempt rest, h.attempted F (.reconcile h.allocator.servers size) = attempt :: rest ∧
      ∀ session, attempt.session? = some session →
        (h.serve F (.reconcile h.allocator.servers size)).allocator.front? = some session := by
  have hpool : (h.serve F (.reconcile h.allocator.servers size)).allocator.pool.sessions =
      (h.attempted F (.reconcile h.allocator.servers size)).filterMap Attempt.session? := by
    have hadopt : (h.allocator.adopt h.allocator.servers (clampSize size)).allocator =
        { h.allocator with target := clampSize size } :=
      (Allocator.adopt_kept fun _ => hempty).1
    rw [serve_reconcile, Allocator.sessions_reconcile, hadopt, hempty, List.nil_append]
    exact (Series.filterMap_attempts ..).symm
  obtain ⟨missing, hmissing⟩ :
      ∃ missing, clampSize size - (h.allocator.base h.allocator.servers).created = missing + 1 := by
    rw [Allocator.base, if_pos rfl]
    exact Nat.exists_eq_succ_of_ne_zero (Nat.sub_ne_zero_of_lt hlt)
  obtain ⟨attempt, rest, hattempted⟩ : ∃ attempt rest,
      h.attempted F (.reconcile h.allocator.servers size) = attempt :: rest := by
    rw [attempted_reconcile, hmissing, Series.attempts]
    split
    · exact ⟨_, _, rfl⟩
    · exact ⟨_, _, rfl⟩
  refine ⟨attempt, rest, hattempted, ?_⟩
  intro session hsession
  rw [Allocator.front?, Pool.front?, hpool, hattempted, List.filterMap_cons_some hsession,
    List.head?_cons]

/-! ### Every run -/

/-- A discard empties the pool and changes neither the servers nor the target nor the created count.
    Then requests under the same servers bring nothing as long as they ask for no more than the
    created count; one that asks for more turns to the factory.  So requests for no more than the
    target bring nothing, exactly if the last reconciliation before the discard has not fallen
    short. -/
theorem discard_lasts_unless_short (F : Factory σ) (state : σ) (requests : List Request) :
    let h := of F state requests
    let d := h.serve F .discard
    (d.allocator.servers = h.allocator.servers ∧ d.allocator.target = h.allocator.target ∧
      d.allocator.pool.created = h.allocator.pool.created ∧ d.allocator.pool.sessions = []) ∧
    d.IdleWithin F h.allocator.servers h.allocator.pool.created ∧
    (∀ size, h.allocator.pool.created < clampSize size →
      ∃ attempt rest, d.attempted F (.reconcile h.allocator.servers size) = attempt :: rest ∧
        ∀ session, attempt.session? = some session →
          (d.serve F (.reconcile h.allocator.servers size)).allocator.front? = some session) ∧
    (d.IdleWithin F h.allocator.servers h.allocator.target ↔ ¬ h.FellShort) := by
  intro h d
  have hd : d.allocator.servers = h.allocator.servers ∧ d.allocator.target = h.allocator.target ∧
      d.allocator.pool.created = h.allocator.pool.created ∧ d.allocator.pool.sessions = [] := by
    simp only [d, serve_discard, and_self]
  obtain ⟨hservers, htarget, hcreated, hempty⟩ := hd
  have hasks : ∀ size, h.allocator.pool.created < clampSize size →
      ∃ attempt rest, d.attempted F (.reconcile h.allocator.servers size) = attempt :: rest ∧
        ∀ session, attempt.session? = some session →
          (d.serve F (.reconcile h.allocator.servers size)).allocator.front? = some session := by
    intro size hlt
    rw [← hcreated] at hlt
    rw [← hservers]
    exact exists_attempt_of_lt F hempty hlt
  have hdrained : ∀ bound ≤ h.allocator.pool.created, Drained h.allocator.servers bound d := by
    intro bound hle
    exact ⟨hservers, hcreated ▸ hle, hempty⟩
  have hidle := (hdrained h.allocator.pool.created (Nat.le_refl _)).idleWithin F
  refine ⟨⟨hservers, htarget, hcreated, hempty⟩, hidle, hasks, ?_⟩
  rw [← created_lt_target_iff, Nat.not_lt]
  constructor
  · intro htargeted
    by_contra hshort
    obtain ⟨size, hsize⟩ := exists_size_eq_target F state requests
    have hmissing : h.allocator.pool.created < clampSize size := by
      rw [hsize]
      exact Nat.lt_of_not_le hshort
    obtain ⟨attempt, rest, hattempted, -⟩ := hasks size hmissing
    have hwithin : ∀ request ∈ [Request.reconcile h.allocator.servers size],
        request.StaysWithin h.allocator.servers h.allocator.target :=
      List.forall_mem_singleton.mpr ⟨rfl, Nat.le_of_eq hsize⟩
    have hnone := (htargeted _ hwithin).1
    rw [attemptedAll, hattempted] at hnone
    cases hnone
  · intro hle
    exact (hdrained _ hle).idleWithin F

/-- A reconciliation that has fallen short was made good before the discard, and a session was
    claimed.  Then neither the target nor smaller sizes bring anything. -/
theorem discard_lasts_after_a_second_try :
    let F := FactoryPlan.factory { failures := [(2, .create "no port")] }
    let audio : Identity := ⟨"audio", 1, "u", "p"⟩
    let h := of F {} [.reconcile .empty 2, .reconcile .empty 2, .claim audio]
    let d := h.serve F .discard
    let later : List Request :=
      [.reconcile .empty 2, .claim audio, .reconcile .empty (-1), .discard, .reconcile .empty 1]
    ¬ h.FellShort ∧ h.allocator.target = 2 ∧
      (∀ request ∈ later, request.StaysWithin h.allocator.servers h.allocator.target) ∧
      d.attemptedAll F later = [] ∧ ∀ o ∈ d.outcomes F later, o.Barren := by
  intro F audio h d later
  obtain ⟨-, -, -, hiff⟩ := discard_lasts_unless_short F {}
    [.reconcile .empty 2, .reconcile .empty 2, .claim audio]
  have hshort : ¬ h.FellShort := by
    rw [← created_lt_target_iff]
    decide +kernel
  have hservers : h.allocator.servers = .empty := by decide +kernel
  have htarget : h.allocator.target = 2 := by decide +kernel
  have hlater : ∀ request ∈ later, request.StaysWithin h.allocator.servers h.allocator.target := by
    rw [hservers, htarget]
    simp only [later, List.forall_mem_cons]
    refine ⟨⟨rfl, by decide +kernel⟩, trivial, ⟨rfl, by decide +kernel⟩, trivial,
      ⟨rfl, by decide +kernel⟩, List.forall_mem_nil _⟩
  exact ⟨hshort, htarget, hlater, hiff.mpr hshort later hlater⟩

/-- A discard does not always last until the target grows.  The second of two sessions has failed, and
    the first one is discarded; then the same size is asked for again, and a claim gets a session. -/
theorem discard_undone_after_a_failure :
    let F := FactoryPlan.factory { failures := [(2, .create "no port")] }
    let audio : Identity := ⟨"audio", 1, "u", "p"⟩
    let h := of F {} [.reconcile .empty 2]
    let d := h.serve F .discard
    let later : List Request := [.reconcile .empty 2, .claim audio]
    (∀ request ∈ later, request.StaysWithin h.allocator.servers h.allocator.target) ∧
      (d.outcomes F later).map (·.answer) = [.reconciled none,
        .claimed (some ((PooledSession.warm ⟨3⟩ .empty .recording).claim audio))] ∧
      ¬ ∀ requests : List Request,
        (∀ request ∈ requests, request.StaysWithin h.allocator.servers h.allocator.target) →
          ∀ o ∈ d.outcomes F requests, o.Barren := by
  intro F audio h d later
  have hservers : h.allocator.servers = .empty := by decide +kernel
  have htarget : h.allocator.target = 2 := by decide +kernel
  have hlater : ∀ request ∈ later, request.StaysWithin h.allocator.servers h.allocator.target := by
    rw [hservers, htarget]
    simp only [later, List.forall_mem_cons]
    exact ⟨⟨rfl, by decide +kernel⟩, trivial, List.forall_mem_nil _⟩
  have hanswers : (d.outcomes F later).map (·.answer) = [.reconciled none,
      .claimed (some ((PooledSession.warm ⟨3⟩ .empty .recording).claim audio))] := by
    decide +kernel
  refine ⟨hlater, hanswers, ?_⟩
  intro hbarren
  have hmem : Answer.claimed (some ((PooledSession.warm ⟨3⟩ .empty .recording).claim audio)) ∈
      (d.outcomes F later).map (·.answer) := by
    rw [hanswers]
    exact List.mem_cons_of_mem _ List.mem_cons_self
  obtain ⟨o, ho, hclaimed⟩ := List.mem_map.mp hmem
  exact (hbarren later hlater o ho).claimed _ hclaimed

end History

end CandidatePool
