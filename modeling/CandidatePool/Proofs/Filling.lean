import CandidatePool.Proofs.Reconciliation
/-!
The filling of the pool, one attempt at a time.  An allocator whose created count is below its target
asks for a session, takes it in, and looks again; it stops when the count has reached the target or
an attempt has failed.  `Fills` says this as a relation, with the list of the allocators that have
asked, each as it was when it asked.

The relation and the series of attempts come to the same, whatever the factory does, so the filling
always ends, and it asks at most as often as sessions are missing.
-/

namespace CandidatePool.Allocator

variable {σ : Type}

/-- The allocator after one more session was made. -/
def takeIn (a : Allocator) (s : PooledSession) : Allocator :=
  { a with
    pool := a.pool.push s
    nextId := a.nextId.next
    statistics := a.statistics.addCreated 1 }

/-- The pool was filled: from which allocator and factory, which allocators asked for a session on
    the way, and what came of it. -/
inductive Fills (F : Factory σ) : Allocator → σ → List Allocator → Allocator → σ →
    Option (SessionId × SessionError) → Prop where
  | full {a : Allocator} {state : σ} (h : a.target ≤ a.pool.created) :
      Fills F a state [] a state none
  | failed {a : Allocator} {state next : σ} {e : SessionError} (h : a.pool.created < a.target)
      (he : F a.nextId a.servers state = (.error e, next)) :
      Fills F a state [a] { a with nextId := a.nextId.next } next (some (a.nextId, e))
  | made {a last : Allocator} {state next final : σ} {kind : SessionKind} {asking : List Allocator}
      {failure : Option (SessionId × SessionError)} (h : a.pool.created < a.target)
      (hkind : F a.nextId a.servers state = (.ok kind, next))
      (hlater : Fills F (a.takeIn (.warm a.nextId a.servers kind)) next asking last final failure) :
      Fills F a state (a :: asking) last final failure

/-! ### The series of attempts -/

theorem absorb_failed (a : Allocator) (state : σ) (e : SessionError) :
    a.absorb ⟨[], some (a.nextId, e), a.nextId.next, state⟩ =
      { a with nextId := a.nextId.next } := by
  simp [absorb, Pool.pushAll, Statistics.addCreated]

theorem absorb_cons (a : Allocator) (s : PooledSession) (later : Series σ) :
    a.absorb { later with made := s :: later.made } = (a.takeIn s).absorb later := by
  have hpool : a.pool.pushAll (s :: later.made) = (a.pool.push s).pushAll later.made := by
    rw [Pool.pushAll_eq_foldl_push, Pool.pushAll_eq_foldl_push, List.foldl_cons]
  have hstatistics : a.statistics.addCreated (s :: later.made).length =
      (a.statistics.addCreated 1).addCreated later.made.length := by
    simp only [Statistics.addCreated, List.length_cons, Nat.add_comm _ 1, UInt64.ofNat_add,
      UInt64.add_assoc]
  simp only [absorb, takeIn, hpool, hstatistics]

theorem exists_fills_make (F : Factory σ) {count : Nat} {a : Allocator}
    (hcount : a.target - a.pool.created = count) (state : σ) :
    let series := Series.make F a.servers count a.nextId state
    ∃ asking, Fills F a state asking (a.absorb series) series.factory series.failure ∧
      asking.map (·.nextId) = (Series.attempts F a.servers count a.nextId state).map (·.id) := by
  induction count generalizing a state with
  | zero =>
      refine ⟨[], ?_, rfl⟩
      simp only [Series.make, absorb_nil]
      exact .full (by omega)
  | succ count ih =>
      have hlt : a.pool.created < a.target := by omega
      rcases heq : F a.nextId a.servers state with ⟨result, next⟩
      cases result with
      | error e =>
          refine ⟨[a], ?_, ?_⟩
          · simp only [Series.make, heq, absorb_failed]
            exact .failed hlt heq
          · simp [Series.attempts, heq]
      | ok kind =>
          have hrest : (a.takeIn (.warm a.nextId a.servers kind)).target -
              (a.takeIn (.warm a.nextId a.servers kind)).pool.created = count := by
            simp only [takeIn, Pool.push]
            omega
          obtain ⟨asking, hfills, hids⟩ := ih hrest next
          refine ⟨a :: asking, ?_, ?_⟩
          · simp only [Series.make, heq, absorb_cons]
            exact .made hlt heq hfills
          · simp only [Series.attempts, heq, List.map_cons]
            exact congrArg _ hids

/-- The filling ends, whatever the factory does. -/
theorem exists_fills (F : Factory σ) (a : Allocator) (state : σ) :
    ∃ asking, Fills F a state asking (a.absorb (a.attempts F state)) (a.attempts F state).factory
        (a.attempts F state).failure ∧
      asking.map (·.nextId) =
        (Series.attempts F a.servers (a.target - a.pool.created) a.nextId state).map (·.id) :=
  exists_fills_make F rfl state

/-! ### The allocators that ask -/

namespace Fills

variable {F : Factory σ} {a last : Allocator} {state final : σ} {asking : List Allocator}
  {failure : Option (SessionId × SessionError)}

theorem length_le (h : Fills F a state asking last final failure) :
    asking.length ≤ a.target - a.pool.created := by
  induction h with
  | full h => exact Nat.zero_le _
  | failed h he => exact Nat.sub_pos_of_lt h
  | made h hkind hlater ih =>
      simp only [takeIn, Pool.push] at ih
      rw [List.length_cons]
      omega

/-- Each allocator that asks has the same target and servers, is below the target, and holds no more
    sessions than it counts, if that was so at first. -/
theorem of_mem (h : Fills F a state asking last final failure)
    (hsize : a.pool.size ≤ a.pool.created) {b : Allocator} (hb : b ∈ asking) :
    b.target = a.target ∧ b.servers = a.servers ∧ b.pool.size ≤ b.pool.created ∧
      b.pool.created < b.target := by
  induction h with
  | full h => cases hb
  | failed h he =>
      rw [List.mem_singleton] at hb
      subst hb
      exact ⟨rfl, rfl, hsize, h⟩
  | made h hkind hlater ih =>
      rcases List.mem_cons.mp hb with heq | hlater
      · subst heq
        exact ⟨rfl, rfl, hsize, h⟩
      · refine ih ?_ hlater
        simp only [takeIn, Pool.push, Pool.size, List.length_append] at hsize ⊢
        simpa using hsize

end Fills

end CandidatePool.Allocator
