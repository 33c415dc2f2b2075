import CandidatePool.Proofs.AddressTexts
import CandidatePool.Proofs.Binding
import CandidatePool.Settings.Basic
/-!
Which changes of the settings count.  The servers of two settings are compared and nothing else, and
they are equal exactly when both settings list the same STUN addresses, in whatever order and however
often, and the same relays in the same order, field by field.

So writing the same addresses in another way keeps all sessions that wait, and every other change,
down to a single password, makes all of them anew: none is kept, the created count starts from none,
and whatever waits from then on has been asked for later than any session before.
-/

namespace CandidatePool

variable {σ : Type}

/-! ### Equal servers -/

/-- Relays that agree in each of the six fields. -/
structure Relay.SameFields (r s : Relay) : Prop where
  address : r.address = s.address
  port : r.port = s.port
  username : r.username = s.username
  password : r.password = s.password
  transport : r.transport = s.transport
  secure : r.secure = s.secure

theorem Relay.sameFields_iff {r s : Relay} : r.SameFields s ↔ r = s := by
  constructor
  · rintro ⟨haddress, hport, husername, hpassword, htransport, hsecure⟩
    cases r
    cases s
    cases haddress
    cases hport
    cases husername
    cases hpassword
    cases htransport
    cases hsecure
    rfl
  · rintro rfl
    exact ⟨rfl, rfl, rfl, rfl, rfl, rfl⟩

/-- Settings with the same STUN addresses, order and repetitions aside, and with relays that agree
    one by one. -/
structure Settings.SameServers (a b : Settings) : Prop where
  stun : ∀ x, x ∈ a.stun ↔ x ∈ b.stun
  relays : List.Forall₂ Relay.SameFields a.relays b.relays

theorem Settings.servers_eq_iff {a b : Settings} : a.servers = b.servers ↔ a.SameServers b := by
  have hstun : AddressSet.ofList a.stun = AddressSet.ofList b.stun ↔
      ∀ x, x ∈ a.stun ↔ x ∈ b.stun := by
    simp only [AddressSet.eq_iff, AddressSet.mem_ofList]
  have hrelays : List.Forall₂ Relay.SameFields a.relays b.relays ↔ a.relays = b.relays := by
    have hfields : Relay.SameFields = Eq := by
      funext r s
      exact propext Relay.sameFields_iff
    rw [hfields, List.forall₂_eq_eq_eq]
  constructor
  · intro hservers
    have hparts := Servers.mk.inj hservers
    exact ⟨hstun.mp hparts.1, hrelays.mpr hparts.2⟩
  · rintro ⟨hmembers, hsame⟩
    rw [servers, Servers.ofLists, hstun.mpr hmembers, hrelays.mp hsame]
    rfl

/-! ### What a change does -/

namespace Allocator

variable (F : Factory σ) {a : Allocator} (state : σ) {servers : Servers} {size : Int32}

/-- Equal servers keep every session if as many may be created as there are. -/
theorem reconcile_of_eq (heq : servers = a.servers) (hfits : a.pool.created ≤ clampSize size) :
    let r := a.reconcile F state servers size
    r.stopped = [] ∧ a.pool.sessions <+: r.allocator.pool.sessions := by
  intro r
  have hbase : a.base servers = a.pool := if_pos heq
  have hkept : a.outdated servers = [] := if_pos heq
  obtain ⟨hallocator, -, -, -, hstopped⟩ := reconcile_of_le F state (hbase ▸ hfits)
  rw [settle_absorb, rebased, hbase] at hallocator
  rw [hkept, List.map_nil] at hstopped
  have hpool := congrArg (·.pool.sessions) hallocator
  exact ⟨hstopped, _, hpool.symm⟩

/-- Other servers keep nothing, and the pool and its created count consist of what they have made. -/
theorem reconcile_of_ne (hne : servers ≠ a.servers) :
    let r := a.reconcile F state servers size
    r.stopped = a.pool.sessions.map (·.stop) ∧ r.allocator.pool = ⟨r.made, r.made.length⟩ ∧
      (r.failure = none → r.made.length = clampSize size) := by
  intro r
  have hbase : a.base servers = {} := if_neg hne
  have hgone : a.outdated servers = a.pool.sessions := if_neg hne
  have hfits : (a.base servers).created ≤ clampSize size := by
    rw [hbase]
    exact Nat.zero_le _
  obtain ⟨hallocator, -, -, hmade, hstopped⟩ := reconcile_of_le F state hfits
  rw [hgone] at hstopped
  have hpool := congrArg (·.pool) hallocator
  rw [settle_absorb, ← hmade] at hpool
  simp only [rebased, hbase, List.nil_append, Nat.zero_add] at hpool
  refine ⟨hstopped, hpool, ?_⟩
  intro hok
  have hlength := (failure_eq_none_iff ..).mp hok
  rw [missing_adopt, hbase] at hlength
  exact hlength

end Allocator

namespace History

/-- Every session that waits after a change of the servers has been asked for since. -/
theorem id_lt_after_change {F : Factory σ} {state : σ} {requests later : List Request}
    {servers : Servers} {size : Int32} (hne : servers ≠ (of F state requests).allocator.servers)
    (hattempts : ((start state).attemptedAll F
      (requests ++ .reconcile servers size :: later)).length < 2 ^ 64 - 1)
    {s : PooledSession}
    (hs : s ∈ (of F state
      (requests ++ .reconcile servers size :: later)).allocator.pool.sessions)
    {attempt : Attempt} (hattempt : attempt ∈ (start state).attemptedAll F requests) :
    attempt.id.value < s.id.value := by
  have hordered := pairwise_id_attemptedAll hattempts
  rw [attemptedAll_append, List.map_append, List.pairwise_append] at hordered
  obtain ⟨handed, claimed, -, -, horder⟩ :=
    exists_claimed_since_change F (of F state requests) hne size later
  have hmade := horder.mem (List.mem_append_right claimed (by rwa [of, serveAll_append] at hs))
  have hid := (Attempt.map_id_sublist _).mem (List.mem_map_of_mem hmade)
  exact hordered.2.2 _ (List.mem_map_of_mem hattempt) _ hid

/-! ### Every run -/

/-- Two settings have equal servers exactly when they list the same STUN addresses and agree in their
    relays one by one and field by field; the address that one of the older family is mapped to does
    not stand for it.  Under the servers of the first settings, those of the second then keep every
    session that fits the size.  Servers that are not equal stop all sessions, start the created count
    from none, whatever becomes of the filling, and leave no session in the pool, then or later, that
    was not asked for after all that were asked for before. -/
theorem exactly_the_changes_count (F : Factory σ) (state : σ) (requests : List Request)
    (a b : Settings) :
    let h := of F state requests
    let log := (of F.recorded (state, []) requests).factory.2
    (a.servers = b.servers ↔ a.SameServers b) ∧
    (∀ host port mapped scope, mapped.mapped? = some host → .v4 host port ∈ a.stun →
      b.stun = a.stun.map (fun x => if x = .v4 host port then .v6 mapped scope port else x) →
        a.servers ≠ b.servers) ∧
    (h.allocator.servers = a.servers → ∀ size : Int32,
      let outcome := h.allocator.serve F h.factory (.reconcile b.servers size)
      (a.SameServers b → h.allocator.pool.created ≤ clampSize size →
        outcome.stopped = [] ∧
          h.allocator.pool.sessions <+: outcome.allocator.pool.sessions) ∧
      (¬ a.SameServers b →
        outcome.stopped = h.allocator.pool.sessions.map (·.stop) ∧
        outcome.allocator.pool = ⟨outcome.made, outcome.made.length⟩ ∧
        (outcome.answer = .reconciled none → outcome.made.length = clampSize size) ∧
        ∀ later : List Request,
          let run := requests ++ .reconcile b.servers size :: later
          (of F.recorded (state, []) run).factory.2.length < 2 ^ 64 - 1 →
          ∀ s ∈ (of F state run).allocator.pool.sessions, ∀ attempt ∈ log,
            attempt.id.value < s.id.value)) := by
  intro h log
  refine ⟨Settings.servers_eq_iff, ?_, ?_⟩
  · intro host port mapped scope _ hmem hreplaced hservers
    have hsame := Settings.servers_eq_iff.mp hservers
    rw [hsame.stun, hreplaced, List.mem_map] at hmem
    obtain ⟨x, -, hx⟩ := hmem
    by_cases hhere : x = .v4 host port
    · rw [if_pos hhere] at hx
      cases hx
    · rw [if_neg hhere] at hx
      exact hhere hx
  intro hservers size outcome
  constructor
  · intro hsame hfits
    have heq : b.servers = h.allocator.servers := by
      rw [hservers]
      exact (Settings.servers_eq_iff.mpr hsame).symm
    exact Allocator.reconcile_of_eq F h.factory heq hfits
  · intro hdiffer
    have hne : b.servers ≠ h.allocator.servers := by
      rw [hservers]
      intro heq
      exact hdiffer (Settings.servers_eq_iff.mp heq.symm)
    obtain ⟨hstopped, hpool, hmade⟩ := Allocator.reconcile_of_ne F h.factory hne
    refine ⟨hstopped, hpool, ?_, ?_⟩
    · rw [Allocator.answer_eq_reconciled_iff]
      exact hmade
    · intro later run hattempts s hs attempt hattempt
      simp only [log, log_eq_attemptedAll] at hattempts hattempt
      exact id_lt_after_change hne hattempts hs hattempt

/-- The same addresses in another order and one of them twice keep both sessions.  A password that was
    rotated stops them, although the size is the same and the filling fails at once, and so would an
    address written as the one it is mapped to. -/
theorem changes_by_order_and_by_password :
    let F := FactoryPlan.factory { failures := [(3, .create "no port")] }
    let first : SocketAddress := .v4 ⟨11, 11, 11, 11⟩ 3478
    let second : SocketAddress := .v4 ⟨22, 22, 22, 22⟩ 3478
    let host : IPv6 := ⟨[0, 0, 0, 0, 0, 0xffff, 0x0b0b, 0x0b0b], rfl⟩
    let relay (password : String) : Relay :=
      { address := "relay", port := 3478, username := "u", password }
    let a : Settings := { stun := [first, second], relays := [relay "old"] }
    let reordered : Settings := { stun := [second, first, second], relays := [relay "old"] }
    let rotated : Settings := { stun := [first, second], relays := [relay "new"] }
    let mapped : Settings := { stun := [.v6 host 0 3478, second], relays := [relay "old"] }
    let h := of F {} [.reconcile a.servers 2]
    let run : List Request := [.reconcile a.servers 2, .reconcile rotated.servers 2,
      .reconcile rotated.servers 1]
    let kept := h.allocator.serve F h.factory (.reconcile reordered.servers 2)
    let stopped := h.allocator.serve F h.factory (.reconcile rotated.servers 2)
    (h.allocator.servers = a.servers ∧ h.allocator.pool.created ≤ clampSize 2 ∧
        host.mapped? = some ⟨11, 11, 11, 11⟩ ∧
        (of F.recorded ({}, []) run).factory.2.length < 2 ^ 64 - 1) ∧
      (a.SameServers reordered ∧ kept.stopped = [] ∧
        h.allocator.pool.sessions <+: kept.allocator.pool.sessions) ∧
      (¬ a.SameServers rotated ∧ stopped.answer = .reconciled (some (.session (.create "no port"))) ∧
        stopped.stopped = h.allocator.pool.sessions.map (·.stop) ∧
        stopped.allocator.pool = ⟨stopped.made, stopped.made.length⟩ ∧ stopped.made = [] ∧
        (of F {} run).allocator.pool.sessions.map (·.id.value.toNat) = [4] ∧
        ∀ s ∈ (of F {} run).allocator.pool.sessions,
          ∀ attempt ∈ (of F.recorded ({}, []) [.reconcile a.servers 2]).factory.2,
            attempt.id.value < s.id.value) ∧
      a.servers ≠ mapped.servers := by
  intro F first second host relay a reordered rotated mapped h run kept stopped
  have hservers : h.allocator.servers = a.servers := Allocator.servers_reconcile ..
  have hfits : h.allocator.pool.created ≤ clampSize 2 := by decide +kernel
  have hmapped : host.mapped? = some ⟨11, 11, 11, 11⟩ := by decide +kernel
  have hattempts : (of F.recorded ({}, []) run).factory.2.length < 2 ^ 64 - 1 := by decide +kernel
  have hsame : a.SameServers reordered := Settings.servers_eq_iff.mp (by decide +kernel)
  have hdiffer : ¬ a.SameServers rotated := by
    rw [← Settings.servers_eq_iff]
    decide +kernel
  have hfirst : first ∈ a.stun := List.mem_cons_self
  have hreplaced :
      mapped.stun = a.stun.map (fun x => if x = first then .v6 host 0 3478 else x) := by
    decide +kernel
  obtain ⟨-, -, hkeep⟩ := exactly_the_changes_count F {} [.reconcile a.servers 2] a reordered
  obtain ⟨-, -, hchange⟩ := exactly_the_changes_count F {} [.reconcile a.servers 2] a rotated
  obtain ⟨-, hnever, -⟩ := exactly_the_changes_count F {} [.reconcile a.servers 2] a mapped
  obtain ⟨hnone, hprefix⟩ := (hkeep hservers 2).1 hsame hfits
  obtain ⟨hall, hanew, -, hlater⟩ := (hchange hservers 2).2 hdiffer
  exact ⟨⟨hservers, hfits, hmapped, hattempts⟩, ⟨hsame, hnone, hprefix⟩,
    ⟨hdiffer, by decide +kernel, hall, hanew, by decide +kernel, by decide +kernel,
      hlater [.reconcile rotated.servers 1] hattempts⟩,
    hnever _ _ host 0 hmapped hfirst hreplaced⟩

end History

end CandidatePool
