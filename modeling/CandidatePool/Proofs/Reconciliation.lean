import CandidatePool.Allocator.Basic
import CandidatePool.Proofs.Series
/-!
What one reconciliation does, said once for all later proofs.  Adopting a request removes sessions
from the back of the pool and no others, and stops each one that it removes; filling adds new
sessions behind those that are left.

How many sessions stay depends on how many have departed, that is, have left the pool in another way
and still count as created.  If the created count is the pool's size and the departed sessions taken
together, adopting equal servers keeps the first `target - departed` sessions, and the created count
is again the size and the departed sessions.
-/

namespace CandidatePool.Allocator

variable {σ : Type}

/-! ### Adopting -/

section Adopt

variable (a : Allocator) (servers : Servers) (target : Nat)

@[simp] theorem servers_adopt : (a.adopt servers target).allocator.servers = servers := by
  unfold adopt
  split
  · rename_i heq
    exact heq.symm
  · rfl

@[simp] theorem target_adopt : (a.adopt servers target).allocator.target = target := by
  unfold adopt
  split <;> rfl

@[simp] theorem nextId_adopt : (a.adopt servers target).allocator.nextId = a.nextId := by
  unfold adopt
  split <;> rfl

/-- Adopting removes sessions from the back of the pool, and stops those that it removes. -/
theorem exists_removed_adopt :
    ∃ removed, a.pool.sessions = (a.adopt servers target).allocator.pool.sessions ++ removed ∧
      (a.adopt servers target).stopped.Perm (removed.map (·.stop)) := by
  unfold adopt
  split
  · obtain ⟨removed, hsplit, hstopped⟩ :=
      a.pool.exists_removed_shrink (a.pool.created - target)
    refine ⟨removed, hsplit, ?_⟩
    change (a.pool.shrink (a.pool.created - target)).2.Perm _
    rw [hstopped]
    exact removed.reverse_perm.map _
  · exact ⟨a.pool.sessions, rfl, .refl _⟩

variable {a} {servers} in
theorem adopt_of_eq (h : servers = a.servers) :
    (a.adopt servers target).allocator =
        { a with
          target
          pool := (a.pool.shrink (a.pool.created - target)).1
          statistics := a.statistics.addDestroyed
            (a.pool.shrink (a.pool.created - target)).2.length } ∧
      (a.adopt servers target).stopped = (a.pool.shrink (a.pool.created - target)).2 := by
  simp only [adopt, if_pos h, and_self]

variable {a} {target} in
/-- Adopting equal servers removes nothing if the created count is within the size, or if there is
    nothing to remove. -/
theorem adopt_kept (h : target < a.pool.created → a.pool.sessions = []) :
    (a.adopt a.servers target).allocator = { a with target } ∧
      (a.adopt a.servers target).stopped = [] := by
  have hpool : a.pool.shrink (a.pool.created - target) = (a.pool, []) := by
    by_cases hbeyond : target < a.pool.created
    · exact Pool.shrink_of_nil (h hbeyond) _
    · rw [Nat.sub_eq_zero_of_le (Nat.le_of_not_lt hbeyond), Pool.shrink_zero]
  obtain ⟨hallocator, hstopped⟩ := adopt_of_eq target (rfl : a.servers = a.servers)
  rw [hpool] at hallocator hstopped
  rw [List.length_nil, Statistics.addDestroyed_zero] at hallocator
  exact ⟨hallocator, hstopped⟩

variable {a} in
/-- Adopting what is adopted already changes nothing, if the pool is not beyond the target or
    nothing waits. -/
theorem adopt_self (h : a.target < a.pool.created → a.pool.sessions = []) :
    (a.adopt a.servers a.target).allocator = a ∧ (a.adopt a.servers a.target).stopped = [] :=
  adopt_kept h

variable {a} {servers} in
theorem adopt_of_ne (h : servers ≠ a.servers) :
    (a.adopt servers target).allocator =
        { a with
          servers
          target
          pool := {}
          statistics := a.statistics.addDestroyed a.pool.size } ∧
      (a.adopt servers target).stopped = a.pool.sessions.map (·.stop) := by
  simp only [adopt, if_neg h, Pool.clear, Pool.drain, List.length_map, Pool.size, and_self]

/-- The pool that a request for servers starts from. -/
def base : Pool :=
  if servers = a.servers then a.pool else {}

/-- The sessions that a request for servers clears away before it starts. -/
def outdated : List PooledSession :=
  if servers = a.servers then [] else a.pool.sessions

/-- How many sessions are missing does not hang on what a shrink removes. -/
theorem missing_adopt :
    target - (a.adopt servers target).allocator.pool.created =
      target - (a.base servers).created := by
  by_cases hsame : servers = a.servers
  · subst hsame
    simp only [adopt, base, if_true, Pool.shrink, List.length_take, List.length_reverse]
    omega
  · rw [(adopt_of_ne target hsame).1, base, if_neg hsame]

/-- The allocator after it has adopted a request and has shrunk nothing. -/
def rebased : Allocator :=
  { a with
    servers
    target
    pool := a.base servers
    statistics := a.statistics.addDestroyed (a.outdated servers).length }

variable {a} {servers target} in
/-- If the created count is not beyond the size, nothing is shrunk. -/
theorem adopt_of_le (h : (a.base servers).created ≤ target) :
    (a.adopt servers target).allocator = a.rebased servers target ∧
      (a.adopt servers target).stopped = (a.outdated servers).map (·.stop) := by
  by_cases hsame : servers = a.servers
  · subst hsame
    simp only [rebased, base, outdated, if_true] at h ⊢
    obtain ⟨hallocator, hstopped⟩ := adopt_kept fun hlt => absurd h (Nat.not_le.mpr hlt)
    rw [hallocator, hstopped, List.length_nil, Statistics.addDestroyed_zero]
    exact ⟨rfl, rfl⟩
  · simp only [rebased, base, outdated, if_neg hsame]
    exact adopt_of_ne target hsame

variable {a} {servers target} in
/-- Sessions stay only under equal servers. -/
theorem mem_of_mem_sessions_adopt {s : PooledSession}
    (h : s ∈ (a.adopt servers target).allocator.pool.sessions) :
    s ∈ a.pool.sessions ∧ servers = a.servers := by
  unfold adopt at h
  split at h
  · rename_i heq
    exact ⟨List.mem_of_mem_take h, heq⟩
  · cases h

variable {a} {departed : Nat}

theorem sessions_adopt (h : a.pool.created = a.pool.size + departed) :
    (a.adopt servers target).allocator.pool.sessions =
      if servers = a.servers then a.pool.sessions.take (target - departed) else [] := by
  unfold adopt
  split
  · -- beyond the end of the pool the two numbers differ, and nothing is removed
    simp only [Pool.size] at h
    simp only [Pool.shrink, Pool.size, List.take_eq_take_iff]
    omega
  · rfl

theorem created_adopt (h : a.pool.created = a.pool.size + departed) :
    (a.adopt servers target).allocator.pool.created =
      (a.adopt servers target).allocator.pool.size +
        if servers = a.servers then departed else 0 := by
  unfold adopt
  split
  · simp only [Pool.shrink, Pool.size, List.length_take, List.length_reverse] at h ⊢
    omega
  · rfl

end Adopt

/-! ### Filling -/

section Reconcile

variable (F : Factory σ) (a : Allocator) (state : σ) (servers : Servers) (size : Int32)

@[simp] theorem servers_reconcile :
    (a.reconcile F state servers size).allocator.servers = servers := by
  simp [reconcile, settle, absorb]

@[simp] theorem target_reconcile :
    (a.reconcile F state servers size).allocator.target = clampSize size := by
  simp [reconcile, settle, absorb]

@[simp] theorem sessions_reconcile :
    (a.reconcile F state servers size).allocator.pool.sessions =
      (a.adopt servers (clampSize size)).allocator.pool.sessions ++
        (a.reconcile F state servers size).made := rfl

@[simp] theorem created_reconcile :
    (a.reconcile F state servers size).allocator.pool.created =
      (a.adopt servers (clampSize size)).allocator.pool.created +
        (a.reconcile F state servers size).made.length := rfl

@[simp] theorem nextId_settle : a.settle.nextId = a.nextId := rfl

@[simp] theorem nextId_absorb (series : Series σ) : (a.absorb series).nextId = series.nextId := rfl

theorem absorb_nil : a.absorb ⟨[], none, a.nextId, state⟩ = a := by
  simp [absorb, Pool.pushAll, Statistics.addCreated]

/-- All that taking in a series changes. -/
theorem settle_absorb (series : Series σ) :
    (a.absorb series).settle =
      { a with
        pool := ⟨a.pool.sessions ++ series.made, a.pool.created + series.made.length⟩
        nextId := series.nextId
        statistics := (a.statistics.addCreated series.made.length).setPooled
          (a.pool.size + series.made.length) } := by
  simp only [absorb, settle, Pool.pushAll, Pool.size, List.length_append]

/-- Two series taken in one after the other are one series taken in. -/
theorem absorb_absorb (first second : Series σ) :
    ((a.absorb first).settle.absorb second).settle =
      (a.absorb { second with made := first.made ++ second.made }).settle := by
  simp [absorb, settle, Pool.pushAll, Pool.size, Statistics.addCreated, Statistics.setPooled,
    Nat.add_assoc, UInt64.add_assoc]

theorem attempts_adopt (target : Nat) :
    (a.adopt servers target).allocator.attempts F state =
      Series.make F servers (target - (a.adopt servers target).allocator.pool.created) a.nextId
        state := by
  simp only [attempts, servers_adopt, target_adopt, nextId_adopt]

theorem failure_reconcile :
    (a.reconcile F state servers size).failure =
      (Series.make F servers
        (clampSize size - (a.adopt servers (clampSize size)).allocator.pool.created) a.nextId
        state).failure.map fun (_, cause) => .session cause := by
  simp only [reconcile, attempts_adopt]

theorem attempts_rebased (target : Nat) :
    (a.rebased servers target).attempts F state =
      Series.make F servers (target - (a.base servers).created) a.nextId state := rfl

variable {a} {servers size} in
/-- A reconciliation that has nothing to shrink is a series on top of what it starts from. -/
theorem reconcile_of_le (h : (a.base servers).created ≤ clampSize size) :
    let r := a.reconcile F state servers size
    let series :=
      Series.make F servers (clampSize size - (a.base servers).created) a.nextId state
    r.allocator = ((a.rebased servers (clampSize size)).absorb series).settle ∧
      r.factory = series.factory ∧
      r.failure = (series.failure.map fun (_, cause) => .session cause) ∧
      r.made = series.made ∧ r.stopped = (a.outdated servers).map (·.stop) := by
  obtain ⟨hadopt, hstopped⟩ := adopt_of_le h
  simp only [reconcile, hadopt, hstopped, attempts_rebased, and_self]

variable {a} {servers size} in
/-- A reconciliation that finds nothing missing comes to what adopting the request comes to. -/
theorem reconcile_of_ge (h : clampSize size ≤ (a.base servers).created) :
    let r := a.reconcile F state servers size
    r.allocator = (a.adopt servers (clampSize size)).allocator.settle ∧ r.factory = state ∧
      r.failure = none ∧ r.made = [] ∧ r.stopped = (a.adopt servers (clampSize size)).stopped := by
  have hseries : (a.adopt servers (clampSize size)).allocator.attempts F state =
      ⟨[], none, (a.adopt servers (clampSize size)).allocator.nextId, state⟩ := by
    rw [attempts_adopt, missing_adopt, Nat.sub_eq_zero_of_le h, nextId_adopt, Series.make]
  simp only [reconcile, hseries, absorb_nil, Option.map_none, and_self]

theorem length_made_le :
    (a.reconcile F state servers size).made.length ≤
      clampSize size - (a.adopt servers (clampSize size)).allocator.pool.created := by
  have hle : (a.reconcile F state servers size).made.length ≤
      (a.adopt servers (clampSize size)).allocator.target -
        (a.adopt servers (clampSize size)).allocator.pool.created :=
    Series.length_made_le ..
  rwa [target_adopt] at hle

/-- A reconciliation fails exactly when sessions are still missing afterwards. -/
theorem failure_eq_none_iff :
    (a.reconcile F state servers size).failure = none ↔
      (a.reconcile F state servers size).made.length =
        clampSize size - (a.adopt servers (clampSize size)).allocator.pool.created := by
  have hiff : (a.reconcile F state servers size).failure = none ↔
      (a.reconcile F state servers size).made.length =
        (a.adopt servers (clampSize size)).allocator.target -
          (a.adopt servers (clampSize size)).allocator.pool.created :=
    Option.map_eq_none_iff.trans (Series.failure_eq_none_iff ..)
  rwa [target_adopt] at hiff

theorem eq_warm_of_mem_made {s : PooledSession}
    (h : s ∈ (a.reconcile F state servers size).made) :
    ∃ id kind, s = .warm id servers kind := by
  obtain ⟨id, kind, hs⟩ := Series.eq_warm_of_mem_made h
  exact ⟨id, kind, by rw [hs, servers_adopt]⟩

end Reconcile

end CandidatePool.Allocator
