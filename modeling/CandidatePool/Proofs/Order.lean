import CandidatePool.Proofs.History
import Mathlib.Data.List.Forall2
import Mathlib.Data.List.Iterate
/-!
The order in which sessions come and go.  Each attempt to make a session uses up the next identifier,
whether it fails or not, so that the attempts are numbered from 1 on.  Sessions join the pool at the
back and are claimed from the front; what else leaves the pool, from the back or all at once, leaves
the order of the others as it is.

So the sessions claimed, followed by those that wait, are some of the sessions made, in the order in
which they were made.  This is the invariant, and it says what happens between any two moments of a
run: `exists_claimed_serveAll` starts from the sessions that wait at the first one.  The order of all
identifiers follows from it for as long as the identifiers do not run out.
-/

namespace CandidatePool

variable {σ : Type}

/-! ### The identifiers of attempts -/

theorem SessionId.toNat_iterate_next {n : Nat} (hn : n < 2 ^ 64 - 1) :
    (SessionId.next^[n] .first).value.toNat = n + 1 := by
  induction n with
  | zero => rfl
  | succ n ih =>
      have hprevious : (SessionId.next^[n] .first).value.toNat = n + 1 := ih (by omega)
      have hone : (1 : UInt64).toNat = 1 := rfl
      rw [Function.iterate_succ_apply', SessionId.next, UInt64.toNat_add, hprevious, hone]
      exact Nat.mod_eq_of_lt (by omega)

namespace Series

variable (F : Factory σ) (servers : Servers) (count : Nat) (id : SessionId) (state : σ)

theorem map_id_attempts :
    (attempts F servers count id state).map (·.id) =
      List.iterate SessionId.next id (attempts F servers count id state).length := by
  induction count generalizing id state with
  | zero => rfl
  | succ count ih =>
      rcases heq : F id servers state with ⟨result, next⟩
      cases result with
      | error e => simp [attempts, heq]
      | ok kind => simp [attempts, heq, ih]

/-- A failed attempt uses up its identifier as well. -/
theorem nextId_make :
    (make F servers count id state).nextId =
      SessionId.next^[(attempts F servers count id state).length] id := by
  induction count generalizing id state with
  | zero => rfl
  | succ count ih =>
      rcases heq : F id servers state with ⟨result, next⟩
      cases result with
      | error e => simp [make, attempts, heq]
      | ok kind => simp [make, attempts, heq, ih]

end Series

theorem Attempt.map_id_sublist (log : List Attempt) :
    ((log.filterMap Attempt.session?).map (·.id)).Sublist (log.map (·.id)) := by
  induction log with
  | nil => exact .slnil
  | cons attempt log ih =>
      obtain ⟨id, servers, result⟩ := attempt
      cases result with
      | error e => exact ih.cons id
      | ok kind => exact ih.cons_cons id

namespace History

/-! ### All attempts of a run -/

section Attempted

variable (F : Factory σ) (h : History σ) (state : σ)

/-- The attempts made while requests are served. -/
def attemptedAll (h : History σ) : List Request → List Attempt
  | [] => []
  | request :: later => h.attempted F request ++ attemptedAll (h.serve F request) later

theorem serveAll_recorded (log : List Attempt) (requests : List Request) :
    (h.withLog log).serveAll F.recorded requests =
      (h.serveAll F requests).withLog (log ++ h.attemptedAll F requests) := by
  induction requests generalizing h log with
  | nil => simp [attemptedAll]
  | cons request later ih =>
      rw [serveAll_cons, serve_recorded, ih, serveAll_cons, attemptedAll, List.append_assoc]

theorem log_eq_attemptedAll (requests : List Request) :
    (of F.recorded (state, []) requests).factory.2 = (start state).attemptedAll F requests :=
  congrArg (·.factory.2) (serveAll_recorded F (start state) [] requests)

theorem made_serveAll (requests : List Request) :
    (h.serveAll F requests).made =
      h.made ++ (h.attemptedAll F requests).filterMap Attempt.session? := by
  induction requests generalizing h with
  | nil => simp [attemptedAll]
  | cons request later ih =>
      rw [serveAll_cons, ih, filterMap_attempted, attemptedAll, List.filterMap_append,
        List.append_assoc]

theorem nextId_serve (request : Request) :
    (h.serve F request).allocator.nextId =
      SessionId.next^[(h.attempted F request).length] h.allocator.nextId := by
  cases request with
  | reconcile servers size =>
      rw [serve_reconcile]
      simp only [Allocator.reconcile, Allocator.attempts, Allocator.nextId_settle,
        Allocator.nextId_absorb, Series.nextId_make, Allocator.nextId_adopt, attempted]
  | claim identity =>
      cases hpool : h.allocator.pool.sessions with
      | nil => simp [serve_claim_of_nil F identity hpool, attempted]
      | cons s rest => simp [serve_claim_of_cons F identity hpool, attempted]
  | discard => simp [serve_discard, attempted]
  | peek => simp [serve_peek, attempted]
  | health => simp [serve_health, attempted]

theorem map_id_attempted (request : Request) :
    (h.attempted F request).map (·.id) =
      List.iterate SessionId.next h.allocator.nextId (h.attempted F request).length := by
  cases request with
  | reconcile servers size =>
      simp only [attempted, Series.map_id_attempts, Allocator.nextId_adopt]
  | claim identity => rfl
  | discard => rfl
  | peek => rfl
  | health => rfl

/-- The attempts of a run use up the identifiers from the next one on, one after the other. -/
theorem map_id_attemptedAll (requests : List Request) :
    (h.attemptedAll F requests).map (·.id) =
        List.iterate SessionId.next h.allocator.nextId (h.attemptedAll F requests).length ∧
      (h.serveAll F requests).allocator.nextId =
        SessionId.next^[(h.attemptedAll F requests).length] h.allocator.nextId := by
  induction requests generalizing h with
  | nil => exact ⟨rfl, rfl⟩
  | cons request later ih =>
      obtain ⟨hids, hnext⟩ := ih (h.serve F request)
      rw [nextId_serve] at hids hnext
      constructor
      · rw [attemptedAll, List.map_append, List.length_append, List.iterate_add, map_id_attempted,
          hids]
      · rw [serveAll_cons, hnext, attemptedAll, List.length_append, Nat.add_comm,
          Function.iterate_add_apply]

end Attempted

/-! ### First in, first out -/

/-- The session handed over is what the claim has made of the one that waited. -/
def IsClaimOf (p : Identity × ClaimedSession) (s : PooledSession) : Prop := p.2 = s.claim p.1

theorem map_id_of_isClaimOf {handed : List (Identity × ClaimedSession)}
    {claimed : List PooledSession} (h : List.Forall₂ IsClaimOf handed claimed) :
    handed.map (·.2.id) = claimed.map (·.id) := by
  induction h with
  | nil => rfl
  | cons hhead htail ih =>
      rw [List.map_cons, List.map_cons, ih, hhead]
      rfl

section Claimed

variable (F : Factory σ) (h : History σ)

/-- A request claims from the front of the pool and adds to the back of it. -/
theorem exists_claimed_serve (request : Request) :
    ∃ handed claimed, (h.serve F request).handed = h.handed ++ handed ∧
      List.Forall₂ IsClaimOf handed claimed ∧
      (claimed ++ (h.serve F request).allocator.pool.sessions).Sublist
        (h.allocator.pool.sessions ++ (h.attempted F request).filterMap Attempt.session?) := by
  rcases serve_cases F h request with ⟨answer, heq⟩ | ⟨servers, size, rfl⟩ |
    ⟨identity, s, rest, rfl, hpool⟩ | rfl
  · rw [heq]
    exact ⟨[], [], (List.append_nil _).symm, .nil, List.sublist_append_left _ _⟩
  · obtain ⟨removed, hsplit, -⟩ := h.allocator.exists_removed_adopt servers (clampSize size)
    refine ⟨[], [], ?_, .nil, ?_⟩
    · rw [serve_reconcile, List.append_nil]
    · have hmade : (h.attempted F (.reconcile servers size)).filterMap Attempt.session? =
          (h.allocator.reconcile F h.factory servers size).made := Series.filterMap_attempts ..
      rw [serve_reconcile, List.nil_append, Allocator.sessions_reconcile, hmade, hsplit]
      exact (List.sublist_append_left _ removed).append_right _
  · refine ⟨[(identity, s.claim identity)], [s], ?_, .cons rfl .nil, ?_⟩
    · rw [serve_claim_of_cons F identity hpool]
    · rw [serve_claim_of_cons F identity hpool, hpool]
      exact List.sublist_append_left (s :: rest) _
  · rw [serve_discard]
    exact ⟨[], [], (List.append_nil _).symm, .nil, List.nil_sublist _⟩

/-- The sessions claimed from here on, followed by those that wait at the end, are some of those
    that wait here, followed by those made from here on, all in this order. -/
theorem exists_claimed_serveAll (requests : List Request) :
    ∃ handed claimed, (h.serveAll F requests).handed = h.handed ++ handed ∧
      List.Forall₂ IsClaimOf handed claimed ∧
      (claimed ++ (h.serveAll F requests).allocator.pool.sessions).Sublist
        (h.allocator.pool.sessions ++
          (h.attemptedAll F requests).filterMap Attempt.session?) := by
  induction requests generalizing h with
  | nil =>
      refine ⟨[], [], (List.append_nil _).symm, .nil, ?_⟩
      exact List.sublist_append_left h.allocator.pool.sessions _
  | cons request later ih =>
      obtain ⟨handed, claimed, hhanded, hclaims, horder⟩ := exists_claimed_serve F h request
      obtain ⟨handed', claimed', hhanded', hclaims', horder'⟩ := ih (h.serve F request)
      refine ⟨handed ++ handed', claimed ++ claimed', ?_, List.rel_append hclaims hclaims', ?_⟩
      · rw [serveAll_cons, hhanded', hhanded, List.append_assoc]
      · -- what the rest of the run finds in the pool is what this request has left there
        have hlater := horder'.append_left claimed
        have hmore := horder.append_right
          (((h.serve F request).attemptedAll F later).filterMap Attempt.session?)
        rw [← List.append_assoc, ← List.append_assoc] at hlater
        rw [attemptedAll, List.filterMap_append, ← List.append_assoc]
        exact hlater.trans hmore

end Claimed

/-! ### The order of identifiers -/

section Identifiers

variable (F : Factory σ) (state : σ) (requests : List Request)

theorem attemptedAll_append (h : History σ) (later : List Request) :
    h.attemptedAll F (requests ++ later) =
      h.attemptedAll F requests ++ (h.serveAll F requests).attemptedAll F later := by
  induction requests generalizing h with
  | nil => rfl
  | cons request requests ih =>
      rw [List.cons_append, attemptedAll, ih, attemptedAll, serveAll_cons, List.append_assoc]

theorem map_id_claimed_sublist :
    ((of F state requests).handed.map (·.2.id) ++
        (of F state requests).allocator.pool.sessions.map (·.id)).Sublist
      (((start state).attemptedAll F requests).map (·.id)) := by
  obtain ⟨handed, claimed, hhanded, hclaims, horder⟩ :=
    exists_claimed_serveAll F (start state) requests
  have hids := horder.map (·.id)
  rw [List.map_append, ← map_id_of_isClaimOf hclaims] at hids
  change ((start state).serveAll F requests).handed = [] ++ handed at hhanded
  rw [List.nil_append] at hhanded
  rw [of, hhanded]
  exact hids.trans (Attempt.map_id_sublist _)

variable {F state requests}
  (hattempts : ((start state).attemptedAll F requests).length < 2 ^ 64 - 1)

include hattempts

theorem id_attemptedAll {n : Nat} {attempt : Attempt}
    (hn : ((start state).attemptedAll F requests)[n]? = some attempt) :
    attempt.id.value.toNat = n + 1 := by
  have hlt : n < ((start state).attemptedAll F requests).length :=
    (List.getElem?_eq_some_iff.mp hn).1
  have hid : (((start state).attemptedAll F requests).map (·.id))[n]? = some attempt.id := by
    rw [List.getElem?_map, hn]
    rfl
  rw [(map_id_attemptedAll F (start state) requests).1, List.getElem?_iterate _ _ _ _ hlt] at hid
  have hnext : SessionId.next^[n] .first = attempt.id := Option.some.inj hid
  rw [← hnext]
  exact SessionId.toNat_iterate_next (hlt.trans hattempts)

theorem pairwise_id_attemptedAll :
    (((start state).attemptedAll F requests).map (·.id)).Pairwise (·.value < ·.value) := by
  rw [List.pairwise_map, List.pairwise_iff_getElem]
  intro i j hi hj hij
  rw [UInt64.lt_iff_toNat_lt, id_attemptedAll hattempts (List.getElem?_eq_getElem hi),
    id_attemptedAll hattempts (List.getElem?_eq_getElem hj)]
  omega

theorem id_lt_nextId {attempt : Attempt} (h : attempt ∈ (start state).attemptedAll F requests) :
    attempt.id.value < (of F state requests).allocator.nextId.value := by
  obtain ⟨n, hn⟩ := List.mem_iff_getElem?.mp h
  have hlt := (List.getElem?_eq_some_iff.mp hn).1
  have hnext : (of F state requests).allocator.nextId.value.toNat =
      ((start state).attemptedAll F requests).length + 1 := by
    rw [of, (map_id_attemptedAll F (start state) requests).2]
    exact SessionId.toNat_iterate_next hattempts
  rw [UInt64.lt_iff_toNat_lt, id_attemptedAll hattempts hn, hnext]
  omega

theorem pairwise_id_claimed :
    ((of F state requests).handed.map (·.2.id) ++
      (of F state requests).allocator.pool.sessions.map (·.id)).Pairwise (·.value < ·.value) :=
  (pairwise_id_attemptedAll hattempts).sublist (map_id_claimed_sublist F state requests)

end Identifiers

/-- The n-th attempt has the identifier n, and no identifier is used for two attempts.  The pool is
    in the order of identifiers, all of them below the next one.  Claims hand sessions over in the
    order of identifiers, and each claim hands over the session with the least of those that wait,
    which is the one that was shown before. -/
theorem identifiers_in_order (F : Factory σ) (state : σ) (requests : List Request)
    (hattempts : (of F.recorded (state, []) requests).factory.2.length < 2 ^ 64 - 1) :
    let h := of F state requests
    let log := (of F.recorded (state, []) requests).factory.2
    (∀ n attempt, log[n]? = some attempt → attempt.id.value.toNat = n + 1) ∧
    (log.map (·.id)).Nodup ∧
    (h.allocator.pool.sessions.map (·.id)).Pairwise (·.value < ·.value) ∧
    (∀ s ∈ h.allocator.pool.sessions, s.id.value < h.allocator.nextId.value) ∧
    (h.handed.map (·.2.id)).Pairwise (·.value < ·.value) ∧
    ∀ earlier identity later, requests = earlier ++ .claim identity :: later →
      let before := of F state earlier
      ∀ session, (before.allocator.serve F before.factory (.claim identity)).answer =
          .claimed (some session) →
        ∃ s ∈ before.allocator.pool.sessions,
          (before.allocator.serve F before.factory .peek).answer = .peeked (some s) ∧
            session = s.claim identity ∧
            ∀ t ∈ before.allocator.pool.sessions, session.id.value ≤ t.id.value := by
  intro h log
  have hlog : log = (start state).attemptedAll F requests := log_eq_attemptedAll F state requests
  rw [log_eq_attemptedAll] at hattempts
  rw [hlog]
  have hids := pairwise_id_claimed hattempts
  rw [List.pairwise_append] at hids
  refine ⟨?_, ?_, hids.2.1, ?_, hids.1, ?_⟩
  · intro n attempt hn
    exact id_attemptedAll hattempts hn
  · refine (pairwise_id_attemptedAll hattempts).imp ?_
    intro a b hab heq
    rw [heq] at hab
    exact UInt64.lt_irrefl _ hab
  · intro s hs
    have hmem := (map_id_claimed_sublist F state requests).mem
      (List.mem_append_right _ (List.mem_map_of_mem hs))
    obtain ⟨attempt, hattempt, hid⟩ := List.mem_map.mp hmem
    rw [← hid]
    exact id_lt_nextId hattempts hattempt
  · intro earlier identity later hsplit before session hanswer
    -- the order of the pool is needed where the claim comes, so the bound has to hold there
    have hfewer : ((start state).attemptedAll F earlier).length < 2 ^ 64 - 1 := by
      rw [hsplit, attemptedAll_append, List.length_append] at hattempts
      omega
    have hpool := (List.pairwise_append.mp (pairwise_id_claimed hfewer)).2.1
    obtain ⟨s, rest, hsessions, hsession⟩ := exists_front_of_claimed F hanswer
    change (before.allocator.pool.sessions.map (·.id)).Pairwise _ at hpool
    rw [hsessions, List.map_cons, List.pairwise_cons] at hpool
    rw [hsessions]
    refine ⟨s, List.mem_cons_self, ?_, hsession, ?_⟩
    · simp [Allocator.serve, Allocator.front?, Pool.front?, hsessions]
    · intro t ht
      rw [hsession]
      rcases List.mem_cons.mp ht with rfl | hrest
      · exact UInt64.le_refl _
      · exact UInt64.le_of_lt (hpool.1 _ (List.mem_map_of_mem hrest))

/-- The second attempt fails, and later other servers take the place of the first ones. -/
theorem identifiers_past_a_failure :
    let F := FactoryPlan.factory { failures := [(2, .create "no port")] }
    let other : Servers := ⟨.empty, [{ address := "relay", port := 3478 }]⟩
    let audio : Identity := ⟨"audio", 1, "u", "p"⟩
    let video : Identity := ⟨"video", 2, "v", "q"⟩
    let earlier : List Request :=
      [.reconcile .empty 3, .reconcile .empty 3, .claim audio, .reconcile other 3]
    let requests : List Request := earlier ++ [.claim video]
    let before := of F {} earlier
    let next := PooledSession.warm ⟨5⟩ other .recording
    (of F.recorded ({}, []) requests).factory.2.length < 2 ^ 64 - 1 ∧
      (before.allocator.serve F before.factory (.claim video)).answer =
        .claimed (some (next.claim video)) ∧
      (of F {} requests).handed.map (·.2.id.value.toNat) = [1, 5] ∧
      ((of F {} requests).handed.map (·.2.id)).Pairwise (·.value < ·.value) ∧
      ∃ s ∈ before.allocator.pool.sessions,
        (before.allocator.serve F before.factory .peek).answer = .peeked (some s) ∧
          next.claim video = s.claim video ∧
          ∀ t ∈ before.allocator.pool.sessions, (next.claim video).id.value ≤ t.id.value := by
  intro F other audio video earlier requests before next
  have hattempts : (of F.recorded ({}, []) requests).factory.2.length < 2 ^ 64 - 1 := by
    decide +kernel
  have hanswer : (before.allocator.serve F before.factory (.claim video)).answer =
      .claimed (some (next.claim video)) := by
    decide +kernel
  obtain ⟨-, -, -, -, hclaimed, hclaim⟩ := identifiers_in_order F {} requests hattempts
  exact ⟨hattempts, hanswer, by decide +kernel, hclaimed, hclaim earlier video [] rfl _ hanswer⟩

end History

end CandidatePool
