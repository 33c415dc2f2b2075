import CandidatePool.Session.Factory
/-!
Asking a factory several times in a row.  A series makes as many sessions as were wanted exactly
when no attempt failed; it ends at the first error; and it can be cut in two, since the second part
only needs to know the identifier and the factory's state that the first part left.

A factory can be listened to: `Factory.recorded` is the same factory, with a list of the attempts
that it was asked for and of what it answered.  The sessions of a series are then read off the
factory's own answers, so that no session of the factory goes uncounted.
-/

namespace CandidatePool

variable {σ : Type}

/-! ### Success and failure -/

namespace Series

theorem length_made_le (F : Factory σ) (servers : Servers) (count : Nat) (id : SessionId)
    (state : σ) : (make F servers count id state).made.length ≤ count := by
  fun_induction make F servers count id state with
  | case1 => simp
  | case2 => simp
  | case3 count id state kind next heq later ih =>
      have hlater : later.made.length ≤ count := ih
      simpa using hlater

/-- A series fails exactly when it falls short. -/
theorem failure_eq_none_iff (F : Factory σ) (servers : Servers) (count : Nat) (id : SessionId)
    (state : σ) :
    (make F servers count id state).failure = none ↔
      (make F servers count id state).made.length = count := by
  fun_induction make F servers count id state with
  | case1 => simp
  | case2 => simp
  | case3 count id state kind next heq later ih =>
      simpa using ih

theorem eq_warm_of_mem_made {F : Factory σ} {servers : Servers} {count : Nat} {id : SessionId}
    {state : σ} {s : PooledSession} (h : s ∈ (make F servers count id state).made) :
    ∃ n kind, s = .warm n servers kind := by
  fun_induction make F servers count id state with
  | case1 => simp at h
  | case2 => simp at h
  | case3 count id state kind next heq later ih =>
      rcases List.mem_cons.mp h with hs | hs
      · exact ⟨id, kind, hs⟩
      · exact ih hs

theorem make_add {F : Factory σ} {servers : Servers} {count : Nat} {id : SessionId} {state : σ}
    (more : Nat) (h : (make F servers count id state).failure = none) :
    make F servers (count + more) id state =
      let first := make F servers count id state
      let second := make F servers more first.nextId first.factory
      { second with made := first.made ++ second.made } := by
  fun_induction make F servers count id state with
  | case1 => simp
  | case2 => simp at h
  | case3 count id state kind next heq later ih =>
      rw [Nat.succ_add, make, heq]
      simp only [ih h]
      rfl

/-- A series that fails at nothing fails at nothing on the way. -/
theorem failure_of_add {F : Factory σ} {servers : Servers} {count : Nat} {id : SessionId}
    {state : σ} {more : Nat} (h : (make F servers (count + more) id state).failure = none) :
    (make F servers count id state).failure = none := by
  induction count generalizing id state with
  | zero => rfl
  | succ count ih =>
      rw [Nat.succ_add] at h
      rcases heq : F id servers state with ⟨result, next⟩
      simp only [make, heq] at h ⊢
      cases result with
      | error e => cases h
      | ok kind => exact ih h

end Series

/-! ### Listening to a factory -/

/-- An attempt to make a session: what the factory was asked with, and what it answered. -/
structure Attempt where
  id : SessionId
  servers : Servers
  result : Except SessionError SessionKind

/-- The session that an attempt brought, as it goes into a pool. -/
def Attempt.session? (attempt : Attempt) : Option PooledSession :=
  match attempt.result with
  | .ok kind => some (.warm attempt.id attempt.servers kind)
  | .error _ => none

/-- The same factory, with a list of all attempts, the oldest first. -/
def Factory.recorded (F : Factory σ) : Factory (σ × List Attempt) := fun id servers state =>
  let (result, next) := F id servers state.1
  (result, next, state.2 ++ [⟨id, servers, result⟩])

namespace Series

/-- The attempts of a series, as a factory that is listened to writes them down. -/
def attempts (F : Factory σ) (servers : Servers) : (count : Nat) → SessionId → σ → List Attempt
  | 0, _, _ => []
  | count + 1, id, state =>
    match F id servers state with
    | (.error e, _) => [⟨id, servers, .error e⟩]
    | (.ok kind, next) => ⟨id, servers, .ok kind⟩ :: attempts F servers count id.next next

theorem make_recorded (F : Factory σ) (servers : Servers) (count : Nat) (id : SessionId)
    (state : σ) (log : List Attempt) :
    make F.recorded servers count id (state, log) =
      let plain := make F servers count id state
      { plain with factory := (plain.factory, log ++ attempts F servers count id state) } := by
  induction count generalizing id state log with
  | zero => simp [make, attempts]
  | succ count ih =>
      rcases heq : F id servers state with ⟨result, next⟩
      cases result with
      | error e => simp [make, attempts, Factory.recorded, heq]
      | ok kind => simp [make, attempts, Factory.recorded, heq, ih]

/-- The sessions of a series are those that the factory returned, in order. -/
theorem filterMap_attempts (F : Factory σ) (servers : Servers) (count : Nat) (id : SessionId)
    (state : σ) :
    (attempts F servers count id state).filterMap Attempt.session? =
      (make F servers count id state).made := by
  induction count generalizing id state with
  | zero => rfl
  | succ count ih =>
      rcases heq : F id servers state with ⟨result, next⟩
      cases result with
      | error e => simp [make, attempts, Attempt.session?, heq]
      | ok kind => simp [make, attempts, Attempt.session?, heq, ih]

end Series

end CandidatePool
