import CandidatePool.Proofs.Clients
/-!
Claims and the allocator keep out of each other's way.  When the commands on claims are taken out of
what a client does, the allocator goes on in the same way and gives the same replies; the factory
hears of fewer stops, and of nothing else less.

In the other direction, what becomes of a claim is said by the commands on that claim alone.  It is
the session that was handed over, with the calls of its owner behind it, until it is let go of.
-/

namespace CandidatePool

namespace Client

/-! ### Commands on claims -/

/-- Whether a command is on a claim.  All others are for the allocator. -/
def Command.onClaim : Command → Bool
  | .inspect _ | .call _ _ | .release _ | .unwrap _ => true
  | .configure _ _ | .resize _ | .applyText _ | .peek | .take _ | .drain | .discard | .health
  | .servers => false

/-- Whether a command lets go of the claim at a place. -/
def Command.letsGo (claim : Nat) : Command → Bool
  | .release n | .unwrap n => n = claim
  | _ => false

/-- The hooks that a command calls on the claim at a place: one or none. -/
def Command.hooksOn (claim : Nat) : Command → List Hook
  | .call n hook => if n = claim then [hook] else []
  | _ => []

/-- What came of a command, as it is seen without looking at any claim. -/
structure View where
  command : Command
  reply : Reply
  events : List Event
  allocator : Allocator
  attempts : Nat
  made : Nat

/-- What comes of commands for the allocator, one by one, with all commands carried out in order. -/
def views (plan : FactoryPlan) : Client → List Command → List View
  | _, [] => []
  | c, command :: later =>
    let effect := c.step plan command
    let rest := views plan effect.client later
    if command.onClaim then rest
    else
      ⟨command, effect.reply, effect.events, effect.client.allocator, effect.client.counters.attempts,
        effect.client.counters.made⟩ :: rest

/-! ### Clients with other claims -/

/-- The clients have the same allocator, and the factory of the first one has heard of so many stops
    more.  Nothing is said of the claims. -/
structure Beside (c d : Client) (more : Nat) : Prop where
  allocator : c.allocator = d.allocator
  counters : c.counters = { d.counters with stopped := d.counters.stopped + more }

namespace Beside

variable (plan : FactoryPlan) {c d : Client} {more : Nat}

theorem ask (h : Beside c d more) (request : Request) :
    Beside (c.ask plan request).1 (d.ask plan request).1 more ∧
      (c.ask plan request).2 = (d.ask plan request).2 := by
  have hserve := d.allocator.serve_stopped plan d.counters (d.counters.stopped + more) request
  rw [← h.counters, ← h.allocator] at hserve
  rw [Client.ask, Client.ask, hserve, h.allocator]
  constructor
  · refine ⟨rfl, ?_⟩
    have hkept : (d.allocator.serve plan.factory d.counters request).factory.stopped =
        d.counters.stopped := by
      have hsame := d.allocator.serve_stopped plan d.counters d.counters.stopped request
      exact congrArg (·.factory.stopped) hsame
    simp only [FactoryCounters.noteStopped, hkept]
    rw [Nat.add_right_comm]
  · rfl

theorem configure (h : Beside c d more) (servers : Servers) (size : Int32) :
    Beside (c.configure plan servers size).client (d.configure plan servers size).client more ∧
      (c.configure plan servers size).reply = (d.configure plan servers size).reply ∧
      (c.configure plan servers size).events = (d.configure plan servers size).events := by
  obtain ⟨hbeside, hsame⟩ := h.ask plan (.reconcile servers size)
  simp only [Client.configure]
  rcases hc : c.ask plan (.reconcile servers size) with ⟨after, answer, events⟩
  rcases hd : d.ask plan (.reconcile servers size) with ⟨after', answer', events'⟩
  rw [hc, hd] at hbeside hsame
  obtain ⟨rfl, rfl⟩ := Prod.mk.inj hsame
  cases answer with
  | reconciled failure => cases failure <;> exact ⟨hbeside, rfl, rfl⟩
  | claimed session => exact ⟨hbeside, rfl, rfl⟩
  | discarded => exact ⟨hbeside, rfl, rfl⟩
  | peeked session => exact ⟨hbeside, rfl, rfl⟩
  | told => exact ⟨hbeside, rfl, rfl⟩

theorem take (h : Beside c d more) (identity : Identity) :
    Beside (c.take plan identity).1 (d.take plan identity).1 more ∧
      (c.take plan identity).2 = (d.take plan identity).2 := by
  obtain ⟨hbeside, hsame⟩ := h.ask plan (.claim identity)
  simp only [Client.take]
  rcases hc : c.ask plan (.claim identity) with ⟨after, answer, events⟩
  rcases hd : d.ask plan (.claim identity) with ⟨after', answer', events'⟩
  rw [hc, hd] at hbeside hsame
  obtain ⟨rfl, rfl⟩ := Prod.mk.inj hsame
  cases answer with
  | claimed session =>
      cases session with
      | none => exact ⟨hbeside, rfl⟩
      | some session => exact ⟨⟨hbeside.allocator, hbeside.counters⟩, rfl⟩
  | reconciled failure => exact ⟨hbeside, rfl⟩
  | discarded => exact ⟨hbeside, rfl⟩
  | peeked session => exact ⟨hbeside, rfl⟩
  | told => exact ⟨hbeside, rfl⟩

theorem drain (h : Beside c d more) (count : Nat) :
    Beside (drain plan count c).1 (drain plan count d).1 more ∧
      (drain plan count c).2 = (drain plan count d).2 := by
  induction count generalizing c d with
  | zero => exact ⟨h, rfl⟩
  | succ count ih =>
      obtain ⟨hbeside, hsame⟩ := h.take plan drainIdentity
      rcases hc : c.take plan drainIdentity with ⟨after, session, events⟩
      rcases hd : d.take plan drainIdentity with ⟨after', session', events'⟩
      rw [hc, hd] at hbeside hsame
      obtain ⟨rfl, rfl⟩ := Prod.mk.inj hsame
      simp only [Client.drain, hc, hd]
      cases session with
      | none => exact ⟨hbeside, rfl⟩
      | some session =>
          obtain ⟨hlast, hrest⟩ := ih hbeside
          simp only [hrest]
          exact ⟨hlast, trivial⟩

/-- A command for the allocator comes to the same for both. -/
theorem step (h : Beside c d more) {command : Command} (hcommand : command.onClaim = false) :
    Beside (c.step plan command).client (d.step plan command).client more ∧
      (c.step plan command).reply = (d.step plan command).reply ∧
      (c.step plan command).events = (d.step plan command).events := by
  cases command with
  | configure servers size => exact h.configure plan servers size
  | resize size =>
      simp only [Client.step, h.allocator]
      exact h.configure plan d.allocator.servers size
  | applyText text =>
      simp only [Client.step]
      cases Settings.parse? text with
      | none => exact ⟨h, rfl, rfl⟩
      | some s => exact h.configure plan s.servers s.poolSize
  | peek =>
      simp only [Client.step, h.allocator]
      exact ⟨h, trivial, trivial⟩
  | take identity =>
      obtain ⟨hbeside, hsame⟩ := h.take plan identity
      simp only [Client.step, hsame]
      exact ⟨hbeside, trivial, trivial⟩
  | drain =>
      obtain ⟨hbeside, hsame⟩ := h.drain plan d.allocator.pool.size
      simp only [Client.step, h.allocator, hsame]
      exact ⟨hbeside, trivial, trivial⟩
  | discard =>
      obtain ⟨hbeside, hsame⟩ := h.ask plan .discard
      simp only [Client.step, hsame]
      exact ⟨hbeside, trivial, trivial⟩
  | health =>
      obtain ⟨hbeside, hsame⟩ := h.ask plan .health
      simp only [Client.step, hsame]
      exact ⟨hbeside, trivial, trivial⟩
  | servers =>
      simp only [Client.step, h.allocator]
      exact ⟨h, trivial, trivial⟩
  | inspect claim => cases hcommand
  | call claim hook => cases hcommand
  | release claim => cases hcommand
  | unwrap claim => cases hcommand

theorem close (h : Beside c d more) : Beside c.close d.close more := by
  constructor
  · simp only [Client.close, h.allocator]
  · simp only [Client.close, h.allocator, h.counters, FactoryCounters.noteStopped]
    rw [Nat.add_right_comm]

end Beside

/-! ### What becomes of a claim -/

section Places

variable (plan : FactoryPlan) {c : Client} {claim : Nat} {held : Option ClaimedSession}

theorem claim?_of_place (hplace : c.claims[claim]? = some held) : c.claim? claim = held := by
  rw [claim?, hplace]
  rfl

theorem exists_claims_step {command : Command} (hcommand : command.onClaim = false) :
    ∃ more, (c.step plan command).client.claims = c.claims ++ more := by
  rcases step_cases plan c command with ⟨-, hclient⟩ | ⟨n, s, hook, rfl, -, -⟩ |
    ⟨n, rfl | rfl, -⟩
  · rw [hclient]
    exact exists_claims_putAll plan c (c.requests command)
  · cases hcommand
  · cases hcommand
  · cases hcommand

theorem unwrap_client (c : Client) (n : Nat) :
    (c.step plan (.unwrap n)).client = (c.step plan (.release n)).client := by
  simp only [step, withClaim]
  cases c.claim? n <;> rfl

theorem place_release (hplace : c.claims[claim]? = some held) (n : Nat) :
    (c.step plan (.release n)).client.claims[claim]? = some (if n = claim then none else held) := by
  have hlt : claim < c.claims.length := (List.getElem?_eq_some_iff.mp hplace).1
  simp only [step, withClaim]
  by_cases heq : n = claim
  · subst heq
    rw [claim?_of_place hplace]
    cases held with
    | none => simpa using hplace
    | some s => simp [List.getElem?_set_self hlt]
  · rw [if_neg heq]
    cases c.claim? n with
    | none => exact hplace
    | some s => simpa [List.getElem?_set_ne heq] using hplace

theorem place_call (hplace : c.claims[claim]? = some held) (n : Nat) (hook : Hook) :
    (c.step plan (.call n hook)).client.claims[claim]? =
      some (if n = claim then held.map (·.call hook) else held) := by
  have hlt : claim < c.claims.length := (List.getElem?_eq_some_iff.mp hplace).1
  simp only [step, withClaim]
  by_cases heq : n = claim
  · subst heq
    rw [claim?_of_place hplace]
    cases held with
    | none => simpa using hplace
    | some s => simp [List.getElem?_set_self hlt]
  · rw [if_neg heq]
    cases c.claim? n with
    | none => exact hplace
    | some s => simpa [List.getElem?_set_ne heq] using hplace

theorem inspect_client (c : Client) (n : Nat) : (c.step plan (.inspect n)).client = c := by
  simp only [step, withClaim]
  cases c.claim? n <;> rfl

/-- No command but those on a claim has an effect on it. -/
theorem place_step (hplace : c.claims[claim]? = some held) (command : Command) :
    (c.step plan command).client.claims[claim]? = some
      (if command.letsGo claim then none else held.map (·.callAll (command.hooksOn claim))) := by
  have hsame : held.map (·.callAll []) = held := by cases held <;> rfl
  by_cases hcommand : command.onClaim = false
  · obtain ⟨more, hmore⟩ := exists_claims_step plan (c := c) hcommand
    have hlt : claim < c.claims.length := (List.getElem?_eq_some_iff.mp hplace).1
    rw [hmore, List.getElem?_append_left hlt, hplace]
    cases command with
    | inspect n => cases hcommand
    | call n hook => cases hcommand
    | release n => cases hcommand
    | unwrap n => cases hcommand
    | _ => exact congrArg some hsame.symm
  · cases command with
    | inspect n =>
        rw [inspect_client, hplace]
        exact congrArg some hsame.symm
    | call n hook =>
        rw [place_call plan hplace]
        by_cases heq : n = claim
        · simp only [Command.letsGo, Command.hooksOn, if_pos heq]
          rfl
        · simp only [Command.letsGo, Command.hooksOn, if_neg heq, hsame]
          rfl
    | release n =>
        rw [place_release plan hplace]
        simp only [Command.letsGo, Command.hooksOn, hsame, decide_eq_true_eq]
    | unwrap n =>
        rw [unwrap_client, place_release plan hplace]
        simp only [Command.letsGo, Command.hooksOn, hsame, decide_eq_true_eq]
    | _ => exact absurd rfl hcommand

/-- A claim is called by the commands on it and by no others, and once let go of it does not come
    back. -/
theorem place_run (hplace : c.claims[claim]? = some held) (commands : List Command) :
    (c.run plan commands).claims[claim]? = some
      (if commands.any (·.letsGo claim) then none
        else held.map (·.callAll (commands.flatMap (·.hooksOn claim)))) := by
  induction commands generalizing c held with
  | nil =>
      change c.claims[claim]? = _
      rw [hplace]
      cases held <;> rfl
  | cons command later ih =>
      have hnext := place_step plan hplace command
      have hlast := ih hnext
      change ((c.step plan command).client.run plan later).claims[claim]? = _
      rw [hlast]
      by_cases hgone : command.letsGo claim
      · simp [hgone]
      · cases held with
        | none => simp [hgone]
        | some s => simp [hgone, ClaimedSession.callAll, List.foldl_append]

end Places

/-! ### Without the commands on claims -/

/-- The claims of a client are of the kind that its factory makes. -/
def Ours (plan : FactoryPlan) (c : Client) : Prop :=
  ∀ claim s, c.claim? claim = some s → s.session.kind = plan.kind

section Erasing

variable {plan : FactoryPlan} {c d : Client} {more : Nat}

theorem Follows.ours {requests : List Request} {calls : Nat}
    (hf : Follows plan c (.of plan.factory {} requests) calls) : Ours plan c := by
  intro claim s hclaim
  obtain ⟨p, hooks, hp, rfl⟩ := hf.exists_handed hclaim
  rw [ClaimedSession.callAll_eq]
  exact (History.kind_of_mem plan {} requests).2 p (List.mem_of_getElem? hp)

/-- A command on a claim is noticed by the factory if it stops a session, and by nobody else. -/
theorem Beside.step_claim (h : Beside c d more) (hours : Ours plan c) {command : Command}
    (hcommand : command.onClaim) :
    Beside (c.step plan command).client d
      (more + if plan.kind.reportsStop then c.stopCalls command else 0) := by
  have hrelease : ∀ n, Beside (c.step plan (.release n)).client d more := by
    intro n
    simp only [Client.step, withClaim]
    cases c.claim? n with
    | none => exact h
    | some s => exact ⟨h.allocator, h.counters⟩
  cases command with
  | inspect n =>
      rw [inspect_client]
      simpa [stopCalls] using h
  | call n hook =>
      simp only [Client.step, withClaim]
      cases hclaim : c.claim? n with
      | none =>
          have hnone : c.stopCalls (.call n hook) = 0 := by cases hook <;> simp [stopCalls, hclaim]
          simpa [hnone] using h
      | some s =>
          refine ⟨h.allocator, ?_⟩
          have hkind := hours n s hclaim
          simp only [h.counters, FactoryCounters.noteCall, Session.stopsReportedBy, hkind]
          cases plan.kind.reportsStop with
          | false => simp
          | true => cases hook <;> simp [stopCalls, hclaim, Nat.add_assoc]
  | release n => simpa [stopCalls] using hrelease n
  | unwrap n =>
      rw [unwrap_client]
      simpa [stopCalls] using hrelease n
  | _ => cases hcommand

/-- The stops of claimed sessions that the factory hears of. -/
def stopsHeard (plan : FactoryPlan) (c : Client) (commands : List Command) : Nat :=
  if plan.kind.reportsStop then c.stopCallsAll plan commands else 0

/-- Without the commands on claims, all others come to the same. -/
theorem Beside.run (h : Beside c d more) {commands : List Command}
    (hours : ∀ earlier, earlier <+: commands → Ours plan (c.run plan earlier)) :
    Beside (c.run plan commands) (d.run plan (commands.filter (!·.onClaim)))
        (more + c.stopsHeard plan commands) ∧
      views plan c commands = views plan d (commands.filter (!·.onClaim)) := by
  induction commands generalizing c d more with
  | nil =>
      have hnone : c.stopsHeard plan [] = 0 := by simp [stopsHeard, stopCallsAll]
      rw [hnone]
      exact ⟨h, rfl⟩
  | cons command later ih =>
      have hlater : ∀ earlier, earlier <+: later →
          Ours plan ((c.step plan command).client.run plan earlier) := by
        intro earlier hearlier
        exact hours (command :: earlier) (List.cons_prefix_cons.mpr ⟨rfl, hearlier⟩)
      have hstops : c.stopsHeard plan (command :: later) =
          (if plan.kind.reportsStop then c.stopCalls command else 0) +
            (c.step plan command).client.stopsHeard plan later := by
        simp only [stopsHeard, stopCallsAll]
        split <;> rfl
      rw [hstops, ← Nat.add_assoc]
      cases hcommand : command.onClaim with
      | true =>
          have hnow := h.step_claim (hours [] List.nil_prefix) hcommand
          obtain ⟨hrun, hviews⟩ := ih hnow hlater
          rw [List.filter_cons_of_neg (by simp [hcommand])]
          refine ⟨hrun, ?_⟩
          rw [views, if_pos hcommand, hviews]
      | false =>
          have hnone : (if plan.kind.reportsStop then c.stopCalls command else 0) = 0 := by
            cases command <;> simp_all [Command.onClaim, stopCalls]
          obtain ⟨hnow, hreply, hevents⟩ := h.step plan hcommand
          obtain ⟨hrun, hviews⟩ := ih hnow hlater
          rw [List.filter_cons_of_pos (by simp [hcommand]), hnone, Nat.add_zero]
          refine ⟨hrun, ?_⟩
          simp only [views, hcommand, Bool.false_eq_true, if_false, hviews, hreply, hevents,
            hnow.allocator, hnow.counters]

theorem length_claims_step {command : Command} (hcommand : command.onClaim) :
    (c.step plan command).client.claims.length = c.claims.length := by
  cases command with
  | inspect n => rw [inspect_client]
  | call n hook =>
      simp only [Client.step, withClaim]
      cases c.claim? n <;> simp
  | release n =>
      simp only [Client.step, withClaim]
      cases c.claim? n <;> simp
  | unwrap n =>
      simp only [Client.step, withClaim]
      cases c.claim? n <;> simp
  | _ => cases hcommand

theorem Ours.step_claim (hours : Ours plan c) {command : Command} (hcommand : command.onClaim) :
    Ours plan (c.step plan command).client := by
  intro claim s hclaim
  by_cases hlt : claim < c.claims.length
  · have hplace := List.getElem?_eq_getElem hlt
    have hheld := claim?_of_place hplace
    rw [claim?_of_place (place_step plan hplace command)] at hclaim
    by_cases hgone : command.letsGo claim
    · rw [if_pos hgone] at hclaim
      cases hclaim
    · rw [if_neg hgone, Option.map_eq_some_iff] at hclaim
      obtain ⟨t, ht, rfl⟩ := hclaim
      rw [ClaimedSession.callAll_eq]
      exact hours claim t (hheld.trans ht)
  · have hnone : (c.step plan command).client.claims[claim]? = none := by
      rw [List.getElem?_eq_none_iff, length_claims_step hcommand]
      exact Nat.le_of_not_lt hlt
    rw [claim?, hnone] at hclaim
    cases hclaim

theorem Ours.run_claims (hours : Ours plan c) {commands : List Command}
    (hcommands : ∀ command ∈ commands, command.onClaim) : Ours plan (c.run plan commands) := by
  induction commands generalizing c with
  | nil => exact hours
  | cons command later ih =>
      rw [List.forall_mem_cons] at hcommands
      exact ih (hours.step_claim hcommands.1) hcommands.2

/-- Behind a client without commands on claims there is the same allocator, before and after it is
    given up. -/
theorem beside_run (plan : FactoryPlan) (commands : List Command) :
    Beside (run plan {} commands) (run plan {} (commands.filter (!·.onClaim)))
        (stopsHeard plan {} commands) ∧
      views plan {} commands = views plan {} (commands.filter (!·.onClaim)) := by
  have hsame : Beside {} {} 0 := ⟨rfl, rfl⟩
  have hours : ∀ earlier, earlier <+: commands → Ours plan (run plan {} earlier) := by
    intro earlier _
    obtain ⟨requests, hf⟩ := exists_history plan earlier
    exact hf.ours
  have hrun := hsame.run hours
  rwa [Nat.zero_add] at hrun

end Erasing

/-! ### Every run -/

/-- Commands on claims have no effect on the allocator, and the other way round.

    Without the commands on claims, every other command gets the same reply, tells the same and leaves
    the same allocator and the same counters of the factory, but that the factory does not hear of
    the stops among the commands left out.  This goes on when the allocator has been given up.

    A claim starts out with the identity asked for.  Giving the allocator up leaves it alone, and so
    does every command that is not on a claim.  After any commands its session has had the calls on
    it, in order, and all the rest is as it was. -/
theorem claims_and_allocator_apart (plan : FactoryPlan) (commands afterwards : List Command)
    (hafterwards : ∀ command ∈ afterwards, command.onClaim) :
    (let c := run plan {} commands
      let alone := run plan {} (commands.filter (!·.onClaim))
      let stops := stopsHeard plan {} commands
      views plan {} commands = views plan {} (commands.filter (!·.onClaim)) ∧
        Beside c alone stops ∧
        Beside (c.close.run plan afterwards) alone.close
          (stops + c.close.stopsHeard plan afterwards)) ∧
    ∀ c : Client,
      (∀ identity s, (c.step plan (.take identity)).reply = .claimed (some s) →
        s.identity = identity ∧
          (c.step plan (.take identity)).client.claim? c.claims.length = some s) ∧
      ∀ claim s, c.claim? claim = some s →
        c.close.claim? claim = some s ∧
        (∀ command, command.onClaim = false →
          (c.step plan command).client.claim? claim = some s) ∧
        ∀ later,
          let gone := later.any (·.letsGo claim)
          let after := { s.session with calls := s.session.calls ++ later.flatMap (·.hooksOn claim) }
          (c.run plan later).claim? claim =
              (if gone then none else some { s with session := after }) ∧
            ((c.run plan later).step plan (.unwrap claim)).reply =
              (if gone then .noSuchClaim else .unwrapped after s.identity) := by
  constructor
  · intro c alone stops
    obtain ⟨hbeside, hviews⟩ := beside_run plan commands
    refine ⟨hviews, hbeside, ?_⟩
    have hours : Ours plan c.close := by
      obtain ⟨requests, hf⟩ := exists_history plan commands
      exact hf.ours
    have hnone : afterwards.filter (!·.onClaim) = [] := by
      rw [List.filter_eq_nil_iff]
      intro command hcommand
      simp [hafterwards command hcommand]
    have hprefixes : ∀ earlier, earlier <+: afterwards → Ours plan (c.close.run plan earlier) := by
      intro earlier hearlier
      apply hours.run_claims
      intro command hcommand
      exact hafterwards command (hearlier.subset hcommand)
    have hrun := (hbeside.close.run hprefixes).1
    rwa [hnone] at hrun
  · intro c
    constructor
    · intro identity s hreply
      obtain ⟨t, rest, hpool, rfl⟩ := exists_front_of_taken plan hreply
      refine ⟨rfl, ?_⟩
      have hclient : (c.step plan (.take identity)).client = c.put plan (.claim identity) :=
        take_client plan c identity
      rw [hclient, claim?, claims_put_of_cons plan identity hpool, List.getElem?_concat_length]
      rfl
    · intro claim s hclaim
      have hplace : c.claims[claim]? = some (some s) := Option.join_eq_some_iff.mp hclaim
      refine ⟨hclaim, ?_, ?_⟩
      · intro command hcommand
        obtain ⟨more, hmore⟩ := exists_claims_step plan (c := c) hcommand
        have hlt : claim < c.claims.length := (List.getElem?_eq_some_iff.mp hplace).1
        rw [claim?, hmore, List.getElem?_append_left hlt]
        exact hclaim
      · intro later gone after
        have hlast := claim?_of_place (place_run plan hplace later)
        rw [Option.map_some, ClaimedSession.callAll_eq] at hlast
        refine ⟨hlast, ?_⟩
        simp only [step, withClaim, hlast]
        cases hgone : later.any (·.letsGo claim) with
        | true => simp [gone, hgone]
        | false => simp [gone, hgone, after]

/-- The client stops a claimed session, gives it another identity and lets go of it after the
    allocator has other servers, and it stops a second one when the allocator has been given up. -/
theorem claims_apart_past_a_failure :
    let plan : FactoryPlan := { failures := [(2, .create "no port")] }
    let other : Servers := ⟨.empty, [{ address := "relay", port := 3478 }]⟩
    let audio : Identity := ⟨"audio", 1, "u", "p"⟩
    let before : List Command := [.configure .empty 2, .resize 2, .take audio]
    let later : List Command :=
      [.call 0 .stop, .take ⟨"video", 2, "v", "q"⟩, .configure other 1,
        .call 0 (.assign ⟨"x", 3, "y", "z"⟩)]
    let commands := before ++ later ++ [.unwrap 0, .discard]
    let afterwards : List Command := [.call 1 .stop, .call 0 .stop]
    let c := run plan {} commands
    let alone := run plan {} (commands.filter (!·.onClaim))
    let session : Session := ⟨.first, .empty, .recording, [.start, .assign audio]⟩
    (∀ command ∈ afterwards, command.onClaim) ∧ stopsHeard plan {} commands = 1 ∧
      c.close.stopsHeard plan afterwards = 1 ∧ Beside (c.close.run plan afterwards) alone.close 2 ∧
      (run plan {} before).claim? 0 = some ⟨.first, .empty, audio, session⟩ ∧
      (((run plan {} before).run plan later).step plan (.unwrap 0)).reply =
        .unwrapped
          { session with calls := [.start, .assign audio, .stop, .assign ⟨"x", 3, "y", "z"⟩] }
          audio := by
  intro plan other audio before later commands afterwards c alone session
  have hafterwards : ∀ command ∈ afterwards, command.onClaim := by
    intro command hcommand
    rcases List.mem_cons.mp hcommand with rfl | hcommand
    · rfl
    · rw [List.mem_singleton.mp hcommand]
      rfl
  have hstops : stopsHeard plan {} commands = 1 := by decide +kernel
  have hlast : c.close.stopsHeard plan afterwards = 1 := by decide +kernel
  have hclaim : (run plan {} before).claim? 0 = some ⟨.first, .empty, audio, session⟩ := by
    decide +kernel
  obtain ⟨⟨-, -, hbeside⟩, hclaims⟩ :=
    claims_and_allocator_apart plan commands afterwards hafterwards
  rw [hstops, hlast] at hbeside
  have hreply := (((hclaims (run plan {} before)).2 0 _ hclaim).2.2 later).2
  exact ⟨hafterwards, hstops, hlast, hbeside, hclaim, hreply⟩

end Client

end CandidatePool
