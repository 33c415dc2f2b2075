import CandidatePool.Proofs.Clients
import CandidatePool.Proofs.Order
/-!
Sessions and the servers that they were made for.  A session names its servers twice, in the pool's
record of it and in the session itself, and both are set when it is made and never again.  So it is
enough to say which sessions can wait: those made for the servers in effect, however the filling of
the pool went.  Other servers clear the pool before anything is made for them, and from then on only
sessions can be claimed that were made after the change.
-/

namespace CandidatePool

variable {σ : Type}

namespace History

/-! ### Sessions that wait -/

/-- Every session that waits is as it was made, for the servers in effect. -/
def Bound (h : History σ) : Prop :=
  ∀ s ∈ h.allocator.pool.sessions, ∃ id kind, s = .warm id h.allocator.servers kind

theorem Bound.serve {h : History σ} (hb : h.Bound) (F : Factory σ) (request : Request) :
    (h.serve F request).Bound := by
  intro s hs
  rcases serve_cases F h request with ⟨answer, heq⟩ | ⟨servers, size, rfl⟩ |
    ⟨identity, t, rest, rfl, hpool⟩ | rfl
  · rw [heq] at hs ⊢
    exact hb s hs
  · rw [serve_reconcile] at hs ⊢
    rw [Allocator.sessions_reconcile] at hs
    rw [Allocator.servers_reconcile]
    rcases List.mem_append.mp hs with hkept | hmade
    · obtain ⟨hmem, hservers⟩ := Allocator.mem_of_mem_sessions_adopt hkept
      rw [hservers]
      exact hb s hmem
    · exact h.allocator.eq_warm_of_mem_made F h.factory servers size hmade
  · rw [serve_claim_of_cons F identity hpool] at hs ⊢
    apply hb s
    rw [hpool]
    exact List.mem_cons_of_mem t hs
  · rw [serve_discard] at hs
    cases hs

theorem bound_of (F : Factory σ) (state : σ) (requests : List Request) :
    (of F state requests).Bound := by
  refine serveAll_induction (P := Bound) ?_ ?_ requests
  · intro h request hb
    exact hb.serve F request
  · intro s hs
    cases hs

theorem Bound.servers {h : History σ} (hb : h.Bound) {s : PooledSession}
    (hs : s ∈ h.allocator.pool.sessions) :
    s.servers = h.allocator.servers ∧ s.session.servers = h.allocator.servers := by
  obtain ⟨id, kind, rfl⟩ := hb s hs
  exact ⟨rfl, rfl⟩

theorem Bound.servers_claim {h : History σ} (hb : h.Bound) {F : Factory σ} {identity : Identity}
    {session : ClaimedSession}
    (hanswer : (h.allocator.serve F h.factory (.claim identity)).answer = .claimed (some session)) :
    session.servers = h.allocator.servers ∧ session.session.servers = h.allocator.servers := by
  obtain ⟨s, rest, hpool, rfl⟩ := exists_front_of_claimed F hanswer
  apply hb.servers
  rw [hpool]
  exact List.mem_cons_self

/-- A session that waits is what one of the attempts has brought. -/
theorem exists_attempt_of_mem (F : Factory σ) (state : σ) (requests : List Request)
    {s : PooledSession} (hs : s ∈ (of F state requests).allocator.pool.sessions) :
    ∃ attempt ∈ (of F.recorded (state, []) requests).factory.2,
      attempt.session? = some s ∧ attempt.servers = s.servers := by
  obtain ⟨handed, claimed, -, -, horder⟩ := exists_claimed_serveAll F (start state) requests
  have hmem := horder.mem (List.mem_append_right claimed hs)
  obtain ⟨attempt, hattempt, hsession⟩ := List.mem_filterMap.mp hmem
  rw [log_eq_attemptedAll]
  refine ⟨attempt, hattempt, hsession, ?_⟩
  obtain ⟨id, servers, result⟩ := attempt
  cases result with
  | error e => cases hsession
  | ok kind =>
      cases hsession
      rfl

/-! ### Other servers -/

/-- The sessions claimed after a change of the servers, followed by those that wait, are some of those
    made since, in the order in which they were made. -/
theorem exists_claimed_since_change (F : Factory σ) (h : History σ) {servers : Servers}
    (hne : servers ≠ h.allocator.servers) (size : Int32) (later : List Request) :
    let k := h.serveAll F (.reconcile servers size :: later)
    ∃ handed claimed, k.handed = h.handed ++ handed ∧ List.Forall₂ IsClaimOf handed claimed ∧
      (claimed ++ k.allocator.pool.sessions).Sublist
        ((h.attemptedAll F (.reconcile servers size :: later)).filterMap Attempt.session?) := by
  obtain ⟨handed, claimed, hhanded, hclaims, horder⟩ :=
    exists_claimed_serveAll F (h.serve F (.reconcile servers size)) later
  refine ⟨handed, claimed, ?_, hclaims, ?_⟩
  · rw [serveAll_cons, hhanded, serve_reconcile]
  · -- the pool was cleared, so that what waits right after the change was made by it
    have hpool : (h.serve F (.reconcile servers size)).allocator.pool.sessions =
        (h.attempted F (.reconcile servers size)).filterMap Attempt.session? := by
      rw [serve_reconcile, Allocator.sessions_reconcile, (Allocator.adopt_of_ne _ hne).1,
        List.nil_append]
      exact (Series.filterMap_attempts ..).symm
    rwa [hpool, ← List.filterMap_append] at horder

/-- Sessions claimed after a change of the servers were made after it. -/
theorem exists_claimed_of_ne (F : Factory σ) (h : History σ) {servers : Servers}
    (hne : servers ≠ h.allocator.servers) (size : Int32) (later : List Request) :
    ∃ made handed claimed,
      (h.serveAll F (.reconcile servers size :: later)).made = h.made ++ made ∧
      (h.serveAll F (.reconcile servers size :: later)).handed = h.handed ++ handed ∧
      List.Forall₂ IsClaimOf handed claimed ∧ claimed.Sublist made := by
  obtain ⟨handed, claimed, hhanded, hclaims, horder⟩ :=
    exists_claimed_since_change F h hne size later
  refine ⟨_, handed, claimed, made_serveAll F h _, hhanded, hclaims, ?_⟩
  exact (List.sublist_append_left claimed _).trans horder

end History

/-! ### Every run -/

/-- Whatever fails, the sessions that wait were asked for with the servers in effect and are bound to
    them, and so is what a claim hands over.  After a change of the servers only sessions made since
    can be claimed.  A claimed session keeps its servers, whatever the client and the allocator go on
    to do. -/
theorem History.sessions_bound_to_servers (F : Factory σ) (state : σ) (requests : List Request) :
    let h := of F state requests
    (∀ s ∈ h.allocator.pool.sessions,
      s.servers = h.allocator.servers ∧ s.session.servers = h.allocator.servers ∧
        ∃ attempt ∈ (of F.recorded (state, []) requests).factory.2,
          attempt.session? = some s ∧ attempt.servers = h.allocator.servers) ∧
    (∀ identity session,
      (h.allocator.serve F h.factory (.claim identity)).answer = .claimed (some session) →
        session.servers = h.allocator.servers ∧
          session.session.servers = h.allocator.servers) ∧
    (∀ servers, servers ≠ h.allocator.servers → ∀ size later,
      let k := h.serveAll F (.reconcile servers size :: later)
      ∃ made handed claimed, k.made = h.made ++ made ∧ k.handed = h.handed ++ handed ∧
        List.Forall₂ IsClaimOf handed claimed ∧ claimed.Sublist made) ∧
    ∀ plan commands identity session,
      let c := Client.run plan {} commands
      (c.step plan (.take identity)).reply = .claimed (some session) →
        session.servers = c.allocator.servers ∧ session.session.servers = c.allocator.servers ∧
        ∀ later,
          (∀ command ∈ later,
            command ≠ .release c.claims.length ∧ command ≠ .unwrap c.claims.length) →
          ∃ kept, (c.run plan (.take identity :: later)).claim? c.claims.length = some kept ∧
            kept.servers = c.allocator.servers ∧ kept.session.servers = c.allocator.servers := by
  intro h
  have hb : h.Bound := bound_of F state requests
  refine ⟨?_, ?_, ?_, ?_⟩
  · intro s hs
    obtain ⟨hservers, hbound⟩ := hb.servers hs
    obtain ⟨attempt, hattempt, hsession, hasked⟩ := exists_attempt_of_mem F state requests hs
    exact ⟨hservers, hbound, attempt, hattempt, hsession, hasked.trans hservers⟩
  · intro identity session hanswer
    exact hb.servers_claim hanswer
  · intro servers hne size later
    exact exists_claimed_of_ne F h hne size later
  · intro plan commands identity session c hreply
    have hservers : session.servers = c.allocator.servers ∧
        session.session.servers = c.allocator.servers := by
      obtain ⟨requests', hf⟩ := Client.exists_history plan commands
      obtain ⟨s, rest, hpool, rfl⟩ := Client.exists_front_of_taken plan hreply
      have hmem : s ∈ c.allocator.pool.sessions := by
        rw [hpool]
        exact List.mem_cons_self
      change s ∈ (Client.run plan {} commands).allocator.pool.sessions at hmem
      rw [hf.allocator] at hmem
      change s.servers = (Client.run plan {} commands).allocator.servers ∧ _
      rw [hf.allocator]
      exact (bound_of plan.factory {} requests').servers hmem
    refine ⟨hservers.1, hservers.2, ?_⟩
    intro later hkept
    obtain ⟨hooks, hclaim⟩ := Client.exists_claim?_after_take plan hreply hkept
    refine ⟨session.callAll hooks, hclaim, ?_⟩
    rw [ClaimedSession.callAll_eq]
    exact hservers

/-- Other servers come into effect, and the second session for them fails.  The client has claimed
    a session before that and stops it afterwards. -/
theorem History.binding_past_a_failure :
    let plan : FactoryPlan := { failures := [(4, .create "no port")] }
    let other : Servers := ⟨.empty, [{ address := "relay", port := 3478 }]⟩
    let audio : Identity := ⟨"audio", 1, "u", "p"⟩
    let h := of plan.factory {} [.reconcile .empty 2, .reconcile other 2]
    let session := (PooledSession.warm ⟨3⟩ other .recording).claim audio
    let c := Client.run plan {} [.configure .empty 2]
    let early := (PooledSession.warm ⟨1⟩ .empty .recording).claim audio
    let later : List Client.Command := [.configure other 2, .call 0 .stop, .discard]
    ((h.allocator.serve plan.factory h.factory (.claim audio)).answer = .claimed (some session) ∧
      session.servers = h.allocator.servers ∧ session.session.servers = h.allocator.servers) ∧
    (Servers.empty ≠ h.allocator.servers ∧
      let k := h.serveAll plan.factory [.reconcile .empty 1, .claim audio]
      k.handed.map (·.2.id.value.toNat) = [5] ∧
      ∃ made handed claimed, k.made = h.made ++ made ∧ k.handed = h.handed ++ handed ∧
        List.Forall₂ IsClaimOf handed claimed ∧ claimed.Sublist made) ∧
    (c.step plan (.take audio)).reply = .claimed (some early) ∧
    (∀ command ∈ later,
      command ≠ .release c.claims.length ∧ command ≠ .unwrap c.claims.length) ∧
    ∃ kept, (c.run plan (.take audio :: later)).claim? c.claims.length = some kept ∧
      kept.servers = c.allocator.servers ∧ kept.session.servers = c.allocator.servers := by
  intro plan other audio h session c early later
  obtain ⟨-, hclaim, hchange, hclient⟩ :=
    sessions_bound_to_servers plan.factory {} [.reconcile .empty 2, .reconcile other 2]
  have hanswer : (h.allocator.serve plan.factory h.factory (.claim audio)).answer =
      .claimed (some session) := by
    decide +kernel
  have hne : Servers.empty ≠ h.allocator.servers := by decide +kernel
  have hreply : (c.step plan (.take audio)).reply = .claimed (some early) := by
    have htaken : (c.take plan audio).2.1 = some early := by decide +kernel
    exact congrArg Client.Reply.claimed htaken
  have hkept : ∀ command ∈ later,
      command ≠ .release c.claims.length ∧ command ≠ .unwrap c.claims.length := by
    intro command hcommand
    simp only [later, List.mem_cons, List.not_mem_nil, or_false] at hcommand
    rcases hcommand with rfl | rfl | rfl <;> exact ⟨nofun, nofun⟩
  refine ⟨⟨hanswer, hclaim audio session hanswer⟩, ⟨hne, ?_, hchange .empty hne 1 [.claim audio]⟩,
    hreply, hkept, ?_⟩
  · decide +kernel
  · obtain ⟨-, -, hlater⟩ := hclient plan [.configure .empty 2] audio early hreply
    exact hlater later hkept

end CandidatePool
