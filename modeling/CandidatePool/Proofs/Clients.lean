import CandidatePool.Client
import CandidatePool.Proofs.Plans
import CandidatePool.Proofs.Order
/-!
What a client does, seen from its allocator.  Each command of a client either comes to requests that
the allocator serves, or touches one of the claims and leaves the allocator alone.  So behind every
run of a client there is a history of its allocator, and what holds in all histories holds for
clients as well.

Two things are the client's own.  The claims may have been called and let go of, but each one that is
left is still the session that was handed over in its turn, with its servers and its identity.  And
the factory hears of stops from both sides, from the allocator and from the client.
-/

namespace CandidatePool

namespace Client

/-! ### Commands as requests -/

section Commands

variable (plan : FactoryPlan) (c : Client)

/-- The client after commands, carried out in order. -/
def run (c : Client) (commands : List Command) : Client :=
  commands.foldl (fun c command => (c.step plan command).client) c

/-- Lets the allocator serve a request and keeps what is handed over. -/
def put (c : Client) (request : Request) : Client :=
  let outcome := c.allocator.serve plan.factory c.counters request
  { allocator := outcome.allocator
    counters := outcome.factory.noteStopped outcome.stopped
    claims := c.claims ++ (request.handed outcome.answer).map (some ·.2) }

/-- The requests that a command comes to. -/
def requests : Command → List Request
  | .configure servers size => [.reconcile servers size]
  | .resize size => [.reconcile c.allocator.servers size]
  | .applyText text =>
    match Settings.parse? text with
    | none => []
    | some s => [.reconcile s.servers s.poolSize]
  | .take identity => [.claim identity]
  | .drain => List.replicate c.allocator.pool.size (.claim drainIdentity)
  | .discard => [.discard]
  | .health => [.health]
  | .peek | .servers | .inspect _ | .call _ _ | .release _ | .unwrap _ => []

/-- How often a command stops a claimed session: once or not at all. -/
def stopCalls : Command → Nat
  | .call claim .stop => if (c.claim? claim).isSome then 1 else 0
  | _ => 0

/-- How often commands stop claimed sessions. -/
def stopCallsAll : (c : Client) → List Command → Nat
  | _, [] => 0
  | c, command :: later =>
    c.stopCalls command + stopCallsAll (c.step plan command).client later

theorem put_of_handed_nil (request : Request)
    (h : request.handed (c.ask plan request).2.1 = []) :
    (c.ask plan request).1 = c.put plan request := by
  change request.handed (c.allocator.serve plan.factory c.counters request).answer = [] at h
  simp only [ask, put, h, List.map_nil, List.append_nil]

theorem configure_client (servers : Servers) (size : Int32) :
    (c.configure plan servers size).client = c.put plan (.reconcile servers size) := by
  rw [← put_of_handed_nil plan c (.reconcile servers size) rfl, configure]
  split <;> simp_all

theorem put_claim_of_nil (identity : Identity) (hempty : c.allocator.pool.sessions = []) :
    c.put plan (.claim identity) = c := by
  simp [put, Allocator.serve, Allocator.claim, Pool.popFront?, hempty, Request.handed,
    FactoryCounters.noteStopped]

theorem take_of_nil (identity : Identity) (hempty : c.allocator.pool.sessions = []) :
    c.take plan identity = (c, none, []) := by
  simp [take, ask, Allocator.serve, Allocator.claim, Pool.popFront?, hempty,
    FactoryCounters.noteStopped]

theorem take_of_cons (identity : Identity) {s : PooledSession} {rest : List PooledSession}
    (hpool : c.allocator.pool.sessions = s :: rest) :
    (c.take plan identity).1 = c.put plan (.claim identity) ∧
      (c.take plan identity).2.1 = some (s.claim identity) := by
  simp [take, ask, put, Allocator.serve, Allocator.claim, Pool.popFront?, hpool, Request.handed]

theorem take_client (identity : Identity) :
    (c.take plan identity).1 = c.put plan (.claim identity) := by
  cases hpool : c.allocator.pool.sessions with
  | nil => rw [take_of_nil plan c identity hpool, put_claim_of_nil plan c identity hpool]
  | cons s rest => exact (take_of_cons plan c identity hpool).1

theorem drain_client (count : Nat) :
    (drain plan count c).1 =
      (List.replicate count (Request.claim drainIdentity)).foldl (put plan) c := by
  induction count generalizing c with
  | zero => rfl
  | succ count ih =>
      rw [List.replicate_succ, List.foldl_cons]
      cases hpool : c.allocator.pool.sessions with
      | nil =>
          -- an empty pool ends the draining early, and the claims left over find it empty as well
          rw [← ih, put_claim_of_nil plan c drainIdentity hpool, drain,
            take_of_nil plan c drainIdentity hpool]
          cases count with
          | zero => rfl
          | succ count => rw [drain, take_of_nil plan c drainIdentity hpool]
      | cons s rest =>
          obtain ⟨hclient, hsession⟩ := take_of_cons plan c drainIdentity hpool
          rw [← ih, ← hclient, drain]
          split <;> simp_all

/-- All that a command can do: let the allocator serve requests, call a claim, or let go of one. -/
theorem step_cases (command : Command) :
    (c.stopCalls command = 0 ∧
        (c.step plan command).client = (c.requests command).foldl (put plan) c) ∨
      (∃ claim s hook, command = .call claim hook ∧ c.claim? claim = some s ∧
        (c.step plan command).client =
          { c with
            claims := c.claims.set claim (some (s.call hook))
            counters := c.counters.noteCall s.session hook }) ∨
      ∃ claim, (command = .release claim ∨ command = .unwrap claim) ∧
        (c.step plan command).client = { c with claims := c.claims.set claim none } := by
  cases command with
  | configure servers size => exact .inl ⟨rfl, configure_client plan c servers size⟩
  | resize size => exact .inl ⟨rfl, configure_client plan c c.allocator.servers size⟩
  | applyText text =>
      refine .inl ⟨rfl, ?_⟩
      simp only [step, requests]
      cases Settings.parse? text with
      | none => rfl
      | some s => exact configure_client plan c s.servers s.poolSize
  | peek => exact .inl ⟨rfl, rfl⟩
  | take identity => exact .inl ⟨rfl, take_client plan c identity⟩
  | drain => exact .inl ⟨rfl, drain_client plan c c.allocator.pool.size⟩
  | discard => exact .inl ⟨rfl, put_of_handed_nil plan c .discard rfl⟩
  | health => exact .inl ⟨rfl, put_of_handed_nil plan c .health rfl⟩
  | servers => exact .inl ⟨rfl, rfl⟩
  | inspect claim =>
      refine .inl ⟨rfl, ?_⟩
      simp only [step, withClaim]
      cases c.claim? claim with
      | none => rfl
      | some s => rfl
  | call claim hook =>
      cases hclaim : c.claim? claim with
      | none =>
          refine .inl ⟨?_, ?_⟩
          · cases hook <;> simp [stopCalls, hclaim]
          · simp [step, withClaim, hclaim, requests]
      | some s =>
          refine .inr (.inl ⟨claim, s, hook, rfl, hclaim, ?_⟩)
          simp only [step, withClaim, hclaim]
  | release claim =>
      cases hclaim : c.claim? claim with
      | none => exact .inl ⟨rfl, by simp [step, withClaim, hclaim, requests]⟩
      | some s =>
          refine .inr (.inr ⟨claim, .inl rfl, ?_⟩)
          simp only [step, withClaim, hclaim]
  | unwrap claim =>
      cases hclaim : c.claim? claim with
      | none => exact .inl ⟨rfl, by simp [step, withClaim, hclaim, requests]⟩
      | some s =>
          refine .inr (.inr ⟨claim, .inr rfl, ?_⟩)
          simp only [step, withClaim, hclaim]

end Commands

end Client

/-! ### Claims as they were handed over -/

namespace ClaimedSession

/-- The session after calls by the caller who claimed it. -/
def callAll (s : ClaimedSession) (hooks : List Hook) : ClaimedSession := hooks.foldl call s

section CallAll

variable (s : ClaimedSession) (hooks : List Hook)

/-- Only the list of calls that the session remembers grows. -/
theorem callAll_eq :
    s.callAll hooks = { s with session := { s.session with calls := s.session.calls ++ hooks } } := by
  induction hooks generalizing s with
  | nil => simp [callAll]
  | cons hook hooks ih =>
      change (s.call hook).callAll hooks = _
      rw [ih]
      simp [call, Session.call]

theorem callAll_concat (hook : Hook) : s.callAll (hooks ++ [hook]) = (s.callAll hooks).call hook :=
  List.foldl_append

end CallAll

end ClaimedSession

theorem forall₂_set_left {α β : Type} {R : α → β → Prop} {l : List α} {m : List β}
    (h : List.Forall₂ R l m) {n : Nat} {x : α} (hx : ∀ y z, l[n]? = some y → R y z → R x z) :
    List.Forall₂ R (l.set n x) m := by
  induction h generalizing n with
  | nil => exact .nil
  | cons hhead htail ih =>
      cases n with
      | zero => exact .cons (hx _ _ rfl hhead) htail
      | succ n => exact .cons hhead (ih hx)

namespace Client

/-! ### The history behind a client -/

/-- The client's allocator is that of the history.  Each claim that is left is the session handed
    over in its turn, and the factory has heard of the stops on both sides, if its sessions report
    them. -/
structure Follows (plan : FactoryPlan) (c : Client) (h : History FactoryCounters) (calls : Nat) :
    Prop where
  allocator : c.allocator = h.allocator
  counters : c.counters =
    { h.factory with stopped := if plan.kind.reportsStop then h.stopped.length + calls else 0 }
  claims : List.Forall₂ (fun claim p => ∀ s, claim = some s → ∃ hooks, s = p.2.callAll hooks)
    c.claims h.handed

theorem countP_reportsStop {kind : SessionKind} {l : List PooledSession}
    (h : ∀ s ∈ l, s.session.kind = kind) :
    l.countP (·.session.kind.reportsStop) = if kind.reportsStop then l.length else 0 := by
  split
  · rename_i hreports
    rw [List.countP_eq_length]
    intro s hs
    rw [h s hs]
    exact hreports
  · rename_i hreports
    rw [List.countP_eq_zero]
    intro s hs
    rw [h s hs]
    exact hreports

namespace Follows

variable {plan : FactoryPlan} {c : Client} {h : History FactoryCounters} {calls : Nat}

theorem start (plan : FactoryPlan) : Follows plan {} (.of plan.factory {} []) 0 :=
  ⟨rfl, by simp [History.of, History.start], .nil⟩

theorem put (hf : Follows plan c h calls) (request : Request)
    (hkinds : ∀ s ∈ (h.serve plan.factory request).stopped, s.session.kind = plan.kind) :
    Follows plan (c.put plan request) (h.serve plan.factory request) calls := by
  obtain ⟨hallocator, hcounters, hclaims⟩ := hf
  -- the two factories differ in the stops that they have heard of, and in nothing else
  have hserve := h.allocator.serve_stopped plan h.factory
    (if plan.kind.reportsStop then h.stopped.length + calls else 0) request
  rw [← hcounters, ← hallocator] at hserve
  constructor
  · simp only [Client.put, hserve]
    rw [hallocator]
    rfl
  · have hstopped := countP_reportsStop fun s hs => hkinds s (List.mem_append_right h.stopped hs)
    simp only [Client.put, hserve, FactoryCounters.noteStopped, History.serve]
    rw [hallocator, hstopped, List.length_append]
    split
    · rw [Nat.add_right_comm]
    · rfl
  · simp only [Client.put, hserve, History.serve]
    rw [hallocator]
    refine List.rel_append hclaims ?_
    rw [List.forall₂_map_left_iff, List.forall₂_same]
    intro p hp s hs
    exact ⟨[], (Option.some.inj hs).symm⟩

/-- A claim that is left is the session handed over in its turn, with the client's own calls. -/
theorem exists_handed (hf : Follows plan c h calls) {claim : Nat} {s : ClaimedSession}
    (hclaim : c.claim? claim = some s) :
    ∃ p hooks, h.handed[claim]? = some p ∧ s = p.2.callAll hooks := by
  have hplace : c.claims[claim]? = some (some s) := Option.join_eq_some_iff.mp hclaim
  obtain ⟨hlt, hget⟩ := List.getElem?_eq_some_iff.mp hplace
  have hlt' : claim < h.handed.length := hf.claims.length_eq ▸ hlt
  obtain ⟨hooks, hs⟩ := hf.claims.get hlt hlt' s hget
  exact ⟨h.handed[claim], hooks, List.getElem?_eq_getElem hlt', hs⟩

theorem call (hf : Follows plan c h calls) {claim : Nat} {s : ClaimedSession}
    (hclaim : c.claim? claim = some s) (hook : Hook)
    (hkinds : ∀ p ∈ h.handed, p.2.session.kind = plan.kind) :
    Follows plan
      { c with
        claims := c.claims.set claim (some (s.call hook))
        counters := c.counters.noteCall s.session hook }
      h (calls + c.stopCalls (.call claim hook)) := by
  have hplace : c.claims[claim]? = some (some s) := Option.join_eq_some_iff.mp hclaim
  have hkind : s.session.kind = plan.kind := by
    obtain ⟨p, hooks, hp, rfl⟩ := hf.exists_handed hclaim
    rw [ClaimedSession.callAll_eq]
    exact hkinds p (List.mem_of_getElem? hp)
  refine ⟨hf.allocator, ?_, ?_⟩
  · simp only [hf.counters, FactoryCounters.noteCall, Session.stopsReportedBy, hkind]
    cases plan.kind.reportsStop with
    | false => simp
    | true => cases hook <;> simp [stopCalls, hclaim, Nat.add_assoc]
  · refine forall₂_set_left hf.claims ?_
    intro held p hheld hp t ht
    rw [hplace, Option.some.injEq] at hheld
    obtain ⟨hooks, hs⟩ := hp s hheld.symm
    refine ⟨hooks ++ [hook], ?_⟩
    rw [ClaimedSession.callAll_concat, ← hs]
    exact (Option.some.inj ht).symm

theorem letGo (hf : Follows plan c h calls) (claim : Nat) :
    Follows plan { c with claims := c.claims.set claim none } h calls := by
  refine ⟨hf.allocator, hf.counters, forall₂_set_left hf.claims ?_⟩
  intro held p hheld hp t ht
  cases ht

variable {requests : List Request}

theorem putAll (hf : Follows plan c (.of plan.factory {} requests) calls) (more : List Request) :
    Follows plan (more.foldl (Client.put plan) c) (.of plan.factory {} (requests ++ more)) calls := by
  induction more generalizing c requests with
  | nil =>
      rw [List.append_nil]
      exact hf
  | cons request more ih =>
      have hserve : History.of plan.factory {} (requests ++ [request]) =
          (History.of plan.factory {} requests).serve plan.factory request :=
        History.serveAll_append ..
      have hkinds := (History.kind_of_mem plan {} (requests ++ [request])).1
      rw [hserve] at hkinds
      have hnext := hf.put request hkinds
      rw [← hserve] at hnext
      have hlater := ih hnext
      rw [List.append_assoc] at hlater
      exact hlater

theorem step (hf : Follows plan c (.of plan.factory {} requests) calls) (command : Command) :
    ∃ more, Follows plan (c.step plan command).client (.of plan.factory {} (requests ++ more))
      (calls + c.stopCalls command) := by
  rcases step_cases plan c command with ⟨hnone, hclient⟩ |
    ⟨claim, s, hook, rfl, hclaim, hclient⟩ | ⟨claim, hcommand, hclient⟩
  · rw [hclient, hnone]
    exact ⟨_, hf.putAll (c.requests command)⟩
  · rw [hclient]
    refine ⟨[], ?_⟩
    rw [List.append_nil]
    exact hf.call hclaim hook (History.kind_of_mem plan {} requests).2
  · rw [hclient]
    refine ⟨[], ?_⟩
    rw [List.append_nil]
    rcases hcommand with rfl | rfl
    · exact hf.letGo claim
    · exact hf.letGo claim

/-- Whatever a client goes on to do, there is a history behind it that goes on as well. -/
theorem run (hf : Follows plan c (.of plan.factory {} requests) calls) (commands : List Command) :
    ∃ more, Follows plan (c.run plan commands) (.of plan.factory {} (requests ++ more))
      (calls + c.stopCallsAll plan commands) := by
  induction commands generalizing c requests calls with
  | nil =>
      refine ⟨[], ?_⟩
      rw [List.append_nil]
      exact hf
  | cons command commands ih =>
      obtain ⟨more, hnext⟩ := hf.step command
      obtain ⟨later, hlast⟩ := ih hnext
      refine ⟨more ++ later, ?_⟩
      rw [List.append_assoc, Nat.add_assoc] at hlast
      exact hlast

end Follows

/-- Behind every run of a client there is a history of its allocator. -/
theorem exists_history (plan : FactoryPlan) (commands : List Command) :
    ∃ requests, Follows plan (run plan {} commands) (.of plan.factory {} requests)
      (stopCallsAll plan {} commands) := by
  obtain ⟨more, hf⟩ := (Follows.start plan).run commands
  rw [Nat.zero_add] at hf
  exact ⟨more, hf⟩

/-! ### Claims that stay -/

section Claims

variable (plan : FactoryPlan) {c : Client} {claim : Nat}

theorem exists_claims_putAll (c : Client) (requests : List Request) :
    ∃ more, (requests.foldl (put plan) c).claims = c.claims ++ more := by
  induction requests generalizing c with
  | nil => exact ⟨[], (List.append_nil _).symm⟩
  | cons request later ih =>
      obtain ⟨more, hmore⟩ := ih (c.put plan request)
      rw [List.foldl_cons, hmore, put, List.append_assoc]
      exact ⟨_, rfl⟩

theorem isSome_claim?_step (hclaim : (c.claim? claim).isSome) {command : Command}
    (hkept : command ≠ .release claim ∧ command ≠ .unwrap claim) :
    ((c.step plan command).client.claim? claim).isSome := by
  obtain ⟨s, hs⟩ := Option.isSome_iff_exists.mp hclaim
  have hplace : c.claims[claim]? = some (some s) := Option.join_eq_some_iff.mp hs
  have hlt : claim < c.claims.length := (List.getElem?_eq_some_iff.mp hplace).1
  rcases step_cases plan c command with ⟨-, hclient⟩ | ⟨other, t, hook, rfl, -, hclient⟩ |
    ⟨other, hcommand, hclient⟩
  · obtain ⟨more, hmore⟩ := exists_claims_putAll plan c (c.requests command)
    rw [hclient, claim?, hmore, List.getElem?_append_left hlt]
    exact hclaim
  · rw [hclient, claim?]
    by_cases heq : other = claim
    · subst heq
      simp [List.getElem?_set_self hlt]
    · rw [List.getElem?_set_ne heq]
      exact hclaim
  · have hne : other ≠ claim := by
      intro heq
      subst heq
      rcases hcommand with h | h
      · exact hkept.1 h
      · exact hkept.2 h
    rw [hclient, claim?, List.getElem?_set_ne hne]
    exact hclaim

/-- A claim stays until it is let go of. -/
theorem isSome_claim?_run (hclaim : (c.claim? claim).isSome) {commands : List Command}
    (hkept : ∀ command ∈ commands, command ≠ .release claim ∧ command ≠ .unwrap claim) :
    ((c.run plan commands).claim? claim).isSome := by
  induction commands generalizing c with
  | nil => exact hclaim
  | cons command commands ih =>
      rw [List.forall_mem_cons] at hkept
      exact ih (isSome_claim?_step plan hclaim hkept.1) hkept.2

theorem exists_front_of_taken {identity : Identity} {session : ClaimedSession}
    (hreply : (c.step plan (.take identity)).reply = .claimed (some session)) :
    ∃ s rest, c.allocator.pool.sessions = s :: rest ∧ session = s.claim identity := by
  have hsession : (c.take plan identity).2.1 = some session := Reply.claimed.inj hreply
  cases hpool : c.allocator.pool.sessions with
  | nil =>
      rw [take_of_nil plan c identity hpool] at hsession
      cases hsession
  | cons s rest =>
      rw [(take_of_cons plan c identity hpool).2] at hsession
      exact ⟨s, rest, rfl, (Option.some.inj hsession).symm⟩

theorem claims_put_of_cons (identity : Identity) {s : PooledSession} {rest : List PooledSession}
    (hpool : c.allocator.pool.sessions = s :: rest) :
    (c.put plan (.claim identity)).claims = c.claims ++ [some (s.claim identity)] := by
  simp [put, Allocator.serve, Allocator.claim, Pool.popFront?, hpool, Request.handed]

/-- A claimed session stays with the client as it was handed over, with the client's own calls. -/
theorem exists_claim?_after_take {commands : List Command} {identity : Identity}
    {session : ClaimedSession}
    (hreply : ((run plan {} commands).step plan (.take identity)).reply = .claimed (some session))
    {later : List Command}
    (hkept : ∀ command ∈ later, command ≠ .release (run plan {} commands).claims.length ∧
      command ≠ .unwrap (run plan {} commands).claims.length) :
    ∃ hooks, ((run plan {} commands).run plan (.take identity :: later)).claim?
      (run plan {} commands).claims.length = some (session.callAll hooks) := by
  obtain ⟨requests, hf⟩ := exists_history plan commands
  obtain ⟨s, rest, hpool, rfl⟩ := exists_front_of_taken plan hreply
  have hclient : ((run plan {} commands).step plan (.take identity)).client =
      (run plan {} commands).put plan (.claim identity) := take_client plan _ identity
  have hclaims := claims_put_of_cons plan identity hpool
  have hhanded : (History.of plan.factory {} (requests ++ [.claim identity])).handed =
      (History.of plan.factory {} requests).handed ++ [(identity, s.claim identity)] := by
    rw [hf.allocator] at hpool
    rw [History.of, History.serveAll_append]
    exact congrArg History.handed (History.serve_claim_of_cons plan.factory identity hpool)
  have hsome : (((run plan {} commands).put plan (.claim identity)).claim?
      (run plan {} commands).claims.length).isSome := by
    rw [claim?, hclaims, List.getElem?_concat_length]
    rfl
  obtain ⟨more, hlast⟩ := (hf.putAll [.claim identity]).run later
  obtain ⟨kept, hheld⟩ := Option.isSome_iff_exists.mp (isSome_claim?_run plan hsome hkept)
  obtain ⟨p, hooks, hp, rfl⟩ := hlast.exists_handed hheld
  -- what was handed over is never taken back, so that it is still the same in its place
  obtain ⟨handed, -, hgrown, -⟩ := History.exists_claimed_serveAll plan.factory
    (History.of plan.factory {} (requests ++ [.claim identity])) more
  have hplace : p = (identity, s.claim identity) := by
    rw [History.of, History.serveAll_append, ← History.of, hgrown, hhanded,
      hf.claims.length_eq] at hp
    simpa using hp.symm
  refine ⟨hooks, ?_⟩
  change (((run plan {} commands).step plan (.take identity)).client.run plan later).claim? _ = _
  rw [hclient]
  rw [hplace] at hheld
  exact hheld

end Claims

end Client

end CandidatePool
