import CandidatePool.Proofs.Series
import Mathlib.Data.Finset.Card
import Mathlib.Data.List.Forall2
import Mathlib.Data.Nat.Nth
/-!
Factories that fail at certain attempts, and what a failure costs.  Attempts are counted from 1, and
the count is the identifier that an attempt uses up, whether it fails or not.  So the sessions of a
factory that fails at some attempts have the identifiers that are left when the failing ones are
skipped, and `renumber` is that way of counting.

The main statement compares two series: one over a factory that fails now and then, and one over a
factory that never does, which is asked for as many sessions as the first one got.  Their sessions
are the same but for the numbers, and the numbers correspond by `renumber`.
-/

namespace CandidatePool

variable {σ τ : Type}

/-! ### Failing and not failing -/

namespace Factory

/-- The state of a factory after it was asked for sessions. -/
def after (F : Factory σ) (state : σ) (asked : List (SessionId × Servers)) : σ :=
  asked.foldl (fun state ask => (F ask.1 ask.2 state).2) state

/-- From here on every attempt succeeds, whatever is asked. -/
def NeverFails (F : Factory σ) (state : σ) : Prop :=
  ∀ asked id servers, ∃ kind, (F id servers (F.after state asked)).1 = .ok kind

/-- After `before` attempts, those that will fail are the ones with these numbers, whatever is asked
    and with whatever error. -/
def FailsExactly (F : Factory σ) (failing : Finset Nat) (before : Nat) (state : σ) : Prop :=
  ∀ asked id servers, (∃ e, (F id servers (F.after state asked)).1 = .error e) ↔
    before + asked.length + 1 ∈ failing

theorem NeverFails.next {F : Factory σ} {state : σ} (h : F.NeverFails state) (id : SessionId)
    (servers : Servers) : F.NeverFails (F id servers state).2 :=
  fun asked => h ((id, servers) :: asked)

theorem FailsExactly.next {F : Factory σ} {failing : Finset Nat} {before : Nat} {state : σ}
    (h : F.FailsExactly failing before state) (id : SessionId) (servers : Servers) :
    F.FailsExactly failing (before + 1) (F id servers state).2 := by
  intro asked n s
  have hasked := h ((id, servers) :: asked) n s
  rw [List.length_cons, ← Nat.add_assoc, Nat.add_right_comm before] at hasked
  exact hasked

theorem NeverFails.of_failsExactly {F : Factory σ} {before : Nat} {state : σ}
    (h : F.FailsExactly ∅ before state) : F.NeverFails state := by
  intro asked id servers
  cases hresult : (F id servers (F.after state asked)).1 with
  | ok kind => exact ⟨kind, rfl⟩
  | error e =>
      have hmem := (h asked id servers).mp ⟨e, hresult⟩
      exact absurd hmem (Finset.notMem_empty _)

/-- A plan without a limit fails exactly at the attempts that it lists. -/
theorem failsExactly_plan (plan : FactoryPlan) (hlimit : plan.limit = none)
    (counters : FactoryCounters) :
    plan.factory.FailsExactly (plan.failures.map Prod.fst).toFinset counters.attempts counters := by
  have hattempts : ∀ asked, (plan.factory.after counters asked).attempts =
      counters.attempts + asked.length := by
    intro asked
    induction asked generalizing counters with
    | nil => rfl
    | cons ask asked ih =>
        have hone : (plan.factory ask.1 ask.2 counters).2.attempts = counters.attempts + 1 := by
          simp only [FactoryPlan.factory, hlimit, Option.filter_none]
          split <;> rfl
        have hrest := ih (plan.factory ask.1 ask.2 counters).2
        rw [hone] at hrest
        simpa [after, Nat.add_assoc, Nat.add_comm 1] using hrest
  intro asked id servers
  simp only [FactoryPlan.factory, hlimit, Option.filter_none, hattempts, List.mem_toFinset]
  split
  · rename_i e he
    obtain ⟨front, back, hsplit, -⟩ := List.lookup_eq_some_iff.mp he
    simp [hsplit]
  · rename_i hnone
    have hmissing := List.lookup_eq_none_iff.mp hnone
    refine ⟨fun ⟨e, he⟩ => by simp at he, fun hmem => ?_⟩
    obtain ⟨p, hp, hfst⟩ := List.mem_map.mp hmem
    have hne := hmissing p hp
    simp [hfst] at hne

end Factory

/-! ### Counting without the failing attempts -/

/-- A number that no failing attempt uses up.  No attempt has the number 0. -/
def Unfailing (failing : Finset Nat) (n : Nat) : Prop := n = 0 ∨ n ∉ failing

instance (failing : Finset Nat) : DecidablePred (Unfailing failing) :=
  fun n => inferInstanceAs (Decidable (n = 0 ∨ n ∉ failing))

/-- The numbers in order, without those of failing attempts. -/
noncomputable def renumber (failing : Finset Nat) : Nat → Nat := Nat.nth (Unfailing failing)

theorem infinite_unfailing (failing : Finset Nat) : (Set.ofPred (Unfailing failing)).Infinite := by
  refine failing.finite_toSet.infinite_compl.mono ?_
  intro n hn
  exact .inr hn

theorem strictMono_renumber (failing : Finset Nat) : StrictMono (renumber failing) :=
  Nat.nth_strictMono (infinite_unfailing failing)

theorem mem_range_renumber (failing : Finset Nat) (n : Nat) :
    n ∈ Set.range (renumber failing) ↔ n = 0 ∨ n ∉ failing := by
  rw [renumber, Nat.range_nth_of_infinite (infinite_unfailing failing)]
  rfl

/-! ### Sessions that differ in their numbers -/

/-- The sessions were made for the same servers and have had the same calls, and their identifiers
    correspond. -/
structure PooledSession.Twin (ids : SessionId → SessionId → Prop) (s t : PooledSession) : Prop where
  id : ids s.id t.id
  servers : t.servers = s.servers
  bound : t.session.servers = s.session.servers
  calls : t.session.calls = s.session.calls

/-- The identifiers are the words of a number of sessions and of the number that it becomes when the
    failing attempts are counted, which is one of the attempts so far. -/
def Renumbered (failing : Finset Nat) (attempts : Nat) (id id' : SessionId) : Prop :=
  ∃ n, id = ⟨.ofNat n⟩ ∧ id' = ⟨.ofNat (renumber failing n)⟩ ∧ renumber failing n ≤ attempts

namespace PooledSession.Twin

variable {ids ids' : SessionId → SessionId → Prop} {s t : PooledSession}

theorem mono (h : s.Twin ids t) (himp : ∀ a b, ids a b → ids' a b) : s.Twin ids' t :=
  ⟨himp _ _ h.id, h.servers, h.bound, h.calls⟩

theorem stop (h : s.Twin ids t) : s.stop.Twin ids t.stop := by
  refine ⟨h.id, h.servers, h.bound, ?_⟩
  simp only [PooledSession.stop, Session.call, h.calls]

end PooledSession.Twin

/-! ### Two factories side by side -/

/-- The next attempts of two factories, one that never fails and one that is listened to and fails
    at certain attempts.  Each is about to use the next identifier in its own count. -/
structure Abreast (F : Factory σ) (G : Factory τ) (failing : Finset Nat) (id : SessionId)
    (state : σ) (id' : SessionId) (state' : τ × List Attempt) : Prop where
  neverFails : F.NeverFails state
  failsExactly : G.FailsExactly failing state'.2.length state'.1
  id_eq : id = ⟨.ofNat (Nat.count (Unfailing failing) (state'.2.length + 1))⟩
  id_eq' : id' = ⟨.ofNat (state'.2.length + 1)⟩

namespace Abreast

variable {F : Factory σ} {G : Factory τ} {failing : Finset Nat} {id id' : SessionId} {state : σ}
  {state' : τ} {log : List Attempt}

theorem start (hF : F.NeverFails state) (hG : G.FailsExactly failing 0 state') :
    Abreast F G failing .first state .first (state', []) :=
  ⟨hF, hG, by simp [SessionId.first, Nat.count_succ, Unfailing], rfl⟩

/-- An attempt that fails uses up an identifier of its own factory only. -/
theorem fail (h : Abreast F G failing id state id' (state', log)) {servers : Servers}
    {e : SessionError} {next' : τ} (he : G id' servers state' = (.error e, next'))
    (attempt : Attempt) :
    log.length + 1 ∈ failing ∧
      Abreast F G failing id state id'.next (next', log ++ [attempt]) := by
  have hmem : log.length + 1 ∈ failing := by
    refine (h.failsExactly [] id' servers).mp ⟨e, ?_⟩
    change (G id' servers state').1 = _
    rw [he]
  have hnext := h.failsExactly.next id' servers
  refine ⟨hmem, h.neverFails, ?_, ?_, ?_⟩
  · simpa [he] using hnext
  · have hno : ¬ Unfailing failing (log.length + 1) := by
      simp [Unfailing, hmem]
    rw [h.id_eq]
    simp [Nat.count_succ, hno]
  · simp [h.id_eq', SessionId.next]

/-- An attempt that succeeds is matched by one of the other factory. -/
theorem succeed (h : Abreast F G failing id state id' (state', log)) {servers : Servers}
    {kind' : SessionKind} {next' : τ} (hok : G id' servers state' = (.ok kind', next'))
    (attempt : Attempt) :
    ∃ kind next, F id servers state = (.ok kind, next) ∧
      Renumbered failing (log.length + 1) id id' ∧
      Abreast F G failing id.next next id'.next (next', log ++ [attempt]) := by
  have hnot : log.length + 1 ∉ failing := by
    intro hmem
    obtain ⟨e, he⟩ := (h.failsExactly [] id' servers).mpr hmem
    change (G id' servers state').1 = _ at he
    rw [hok] at he
    cases he
  have hyes : Unfailing failing (log.length + 1) := .inr hnot
  obtain ⟨kind, hkind⟩ := h.neverFails [] id servers
  have hnext := h.failsExactly.next id' servers
  refine ⟨kind, (F id servers state).2, Prod.ext hkind rfl, ?_, ?_⟩
  · refine ⟨_, h.id_eq, ?_, ?_⟩
    · rw [renumber, Nat.nth_count hyes]
      exact h.id_eq'
    · rw [renumber, Nat.nth_count hyes]
  · refine ⟨h.neverFails.next id servers, ?_, ?_, ?_⟩
    · simpa [hok] using hnext
    · rw [h.id_eq]
      simp [Nat.count_succ, hyes, SessionId.next]
    · simp [h.id_eq', SessionId.next]

end Abreast

theorem Renumbered.mono {failing : Finset Nat} {attempts more : Nat} {id id' : SessionId}
    (h : Renumbered failing attempts id id') (hle : attempts ≤ more) :
    Renumbered failing more id id' := by
  obtain ⟨n, hid, hid', hn⟩ := h
  exact ⟨n, hid, hid', hn.trans hle⟩

/-- While the identifiers do not run out, the words are the numbers themselves. -/
theorem Renumbered.toNat_eq {failing : Finset Nat} {attempts : Nat} {id id' : SessionId}
    (h : Renumbered failing attempts id id') (hattempts : attempts < 2 ^ 64 - 1) :
    id'.value.toNat = renumber failing id.value.toNat := by
  obtain ⟨n, rfl, rfl, hn⟩ := h
  have hle : n ≤ renumber failing n := (strictMono_renumber failing).le_apply
  have hword : (UInt64.ofNat n).toNat = n := by
    rw [UInt64.toNat_ofNat', Nat.mod_eq_of_lt (by omega)]
  rw [hword, UInt64.toNat_ofNat', Nat.mod_eq_of_lt (by omega)]

/-- A series over the failing factory, and one over the other factory for as many sessions as the
    first one made: the sessions correspond, and the factories are abreast again. -/
theorem Abreast.series {F : Factory σ} {G : Factory τ} {failing : Finset Nat} {id id' : SessionId}
    {state : σ} {state' : τ × List Attempt} (h : Abreast F G failing id state id' state')
    (servers : Servers) (count : Nat) :
    let long := Series.make G.recorded servers count id' state'
    let short := Series.make F servers long.made.length id state
    short.failure = none ∧
      Abreast F G failing short.nextId short.factory long.nextId long.factory ∧
      List.Forall₂ (PooledSession.Twin (Renumbered failing long.factory.2.length)) short.made
        long.made ∧
      state'.2.length ≤ long.factory.2.length ∧
      (long.failure ≠ none →
        state'.2.length < long.factory.2.length ∧ long.factory.2.length ∈ failing) := by
  induction count generalizing id id' state state' with
  | zero => exact ⟨rfl, h, .nil, Nat.le_refl _, fun hne => absurd rfl hne⟩
  | succ count ih =>
      obtain ⟨state', log⟩ := state'
      rcases heq : G id' servers state' with ⟨result, next'⟩
      cases result with
      | error e =>
          obtain ⟨hmem, hnext⟩ := h.fail heq ⟨id', servers, .error e⟩
          simp only [Series.make, Factory.recorded, heq, List.length_nil]
          refine ⟨trivial, hnext, .nil, ?_, fun _ => ?_⟩
          · simp
          · simpa using hmem
      | ok kind' =>
          obtain ⟨kind, next, hF, hids, hnext⟩ := h.succeed heq ⟨id', servers, .ok kind'⟩
          obtain ⟨hnone, hlast, hmade, hle, hfail⟩ := ih hnext
          simp only [List.length_append, List.length_singleton] at hle hfail
          simp only [Series.make, Factory.recorded, heq, List.length_cons, hF]
          refine ⟨hnone, hlast, .cons ?_ hmade, by omega, fun hne => ?_⟩
          · exact ⟨hids.mono hle, rfl, rfl, rfl⟩
          · have hlt := hfail hne
            exact ⟨by omega, hlt.2⟩

end CandidatePool
