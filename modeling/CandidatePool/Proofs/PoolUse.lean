import CandidatePool.Pool
import Mathlib.Data.List.Basic
/-!
The pool by itself.  Whoever uses a pool can add a session, take the oldest, shrink the pool, drain
it and clear it, in any order.  `PoolUse` is a pool with what has gone in and out of it, so that it
can be said of any use that no session is lost, none is stopped twice, and none that waits or was
taken has been stopped.

Shrinking is defined by what it leaves.  It is carried out in steps: how many sessions go is settled
first, they are taken from the back and stopped one after the other, and only then is the created
count lowered.  The two come to the same.  That the count can be lowered by so much is no matter of
course, since claims and drains make it and the number of sessions part; it holds because no call
ever leaves more sessions than are counted.
-/

namespace CandidatePool

namespace Pool

/-! ### Shrinking step by step -/

/-- Takes the newest session out and stops it, a number of times; where none is left, nothing is
    done. -/
def stopNewest : (times : Nat) → List PooledSession → List PooledSession × List PooledSession
  | 0, waiting => (waiting, [])
  | times + 1, waiting =>
    match waiting.getLast? with
    | none => stopNewest times waiting
    | some s =>
      let (left, stopped) := stopNewest times waiting.dropLast
      (left, s.stop :: stopped)

/-- Shrinking as a loop, with the created count lowered when the loop has ended. -/
def shrinkInSteps (count : Nat) (p : Pool) : Pool × List PooledSession :=
  let removable := min count p.size
  let (left, stopped) := stopNewest removable p.sessions
  (⟨left, p.created - removable⟩, stopped)

theorem stopNewest_concat (times : Nat) (rest : List PooledSession) (s : PooledSession) :
    stopNewest (times + 1) (rest ++ [s]) =
      ((stopNewest times rest).1, s.stop :: (stopNewest times rest).2) := by
  rw [stopNewest, List.getLast?_concat, List.dropLast_concat]

theorem shrink_eq_stopNewest (p : Pool) {count : Nat} (h : count ≤ p.size) :
    p.shrink count =
      (⟨(stopNewest count p.sessions).1, p.created - count⟩, (stopNewest count p.sessions).2) := by
  induction count generalizing p with
  | zero => rw [shrink_zero, stopNewest, Nat.sub_zero]
  | succ count ih =>
      obtain ⟨sessions, created⟩ := p
      rcases List.eq_nil_or_concat' sessions with rfl | ⟨rest, s, rfl⟩
      · cases h
      · have hrest : count ≤ size ⟨rest, created - 1⟩ := by
          simpa [size] using h
        have hback : popBack? ⟨rest ++ [s], created⟩ = some (s, ⟨rest, created - 1⟩) := by
          simp [popBack?]
        -- lowering the count by one each time is lowering it once by all
        have hcount : created - 1 - count = created - (count + 1) := by omega
        simp only [shrink_succ, hback, ih _ hrest, stopNewest_concat, hcount]

theorem shrink_eq_shrinkInSteps (p : Pool) (count : Nat) :
    p.shrink count = p.shrinkInSteps count := by
  rw [← shrink_min, shrink_eq_stopNewest p (Nat.min_le_right count p.size)]
  rfl

/-- What shrinking a pool has to come to. -/
structure Shrunk (p : Pool) (count : Nat) (after : Pool × List PooledSession) : Prop where
  /-- The oldest sessions are kept as they are, and the others stopped, the newest first. -/
  split : ∃ removed, p.sessions = after.1.sessions ++ removed ∧
    after.2 = removed.reverse.map (·.stop)
  kept : after.1.size = p.size - min count p.size
  stopped : after.2.length = min count p.size
  created : p.created = after.1.created + after.2.length

theorem shrunk_shrink {p : Pool} (hsize : p.size ≤ p.created) (count : Nat) :
    p.Shrunk count (p.shrink count) := by
  have hkept : (p.shrink count).1.size = p.size - min count p.size := by
    simp only [shrink, size, List.length_take]
    omega
  exact ⟨p.exists_removed_shrink count, hkept, p.length_shrink count,
    p.created_eq_shrink_add hsize count⟩

end Pool

/-! ### Using a pool -/

/-- What can be done with a pool. -/
inductive PoolCall where
  | push (s : PooledSession)
  | popFront
  | shrink (count : Nat)
  | drain
  | clear

/-- A pool with what has gone in and out of it. -/
structure PoolUse where
  pool : Pool := {}
  /-- The sessions added, the oldest first. -/
  added : List PooledSession := []
  /-- The sessions taken from the front, in order. -/
  taken : List PooledSession := []
  /-- The sessions stopped, in order, as they were then. -/
  stopped : List PooledSession := []

namespace PoolUse

/-- A call has left another pool and stopped sessions. -/
def remove (u : PoolUse) (after : Pool × List PooledSession) : PoolUse :=
  { u with pool := after.1, stopped := u.stopped ++ after.2 }

def call (u : PoolUse) : PoolCall → PoolUse
  | .push s => { u with pool := u.pool.push s, added := u.added ++ [s] }
  | .popFront =>
    match u.pool.popFront? with
    | none => u
    | some (s, pool) => { u with pool, taken := u.taken ++ [s] }
  | .shrink count => u.remove (u.pool.shrink count)
  | .drain => u.remove u.pool.drain
  | .clear => u.remove u.pool.clear

/-- A new pool after calls. -/
def of (calls : List PoolCall) : PoolUse := calls.foldl call {}

/-- What all use of a pool keeps to. -/
structure Sound (u : PoolUse) : Prop where
  size_le : u.pool.size ≤ u.pool.created
  /-- So a machine word holds the count if it holds the number of all sessions ever added. -/
  created_le : u.pool.created ≤ u.added.length
  /-- The sessions taken and those that wait came in this order. -/
  ordered : (u.taken ++ u.pool.sessions).Sublist u.added
  /-- Each session was taken or waits, as it was added, or it was stopped, once. -/
  conserved : ∃ removed, u.stopped = removed.map (·.stop) ∧
    u.added.Perm (u.taken ++ u.pool.sessions ++ removed)

namespace Sound

variable {u : PoolUse}

theorem start : Sound {} :=
  ⟨Nat.le_refl _, Nat.le_refl _, .refl _, [], rfl, .refl _⟩

theorem push (hu : u.Sound) (s : PooledSession) : (u.call (.push s)).Sound := by
  obtain ⟨hsize, hcreated, hordered, removed, hstopped, hperm⟩ := hu
  refine ⟨?_, ?_, ?_, removed, hstopped, ?_⟩
  · simp only [call, Pool.push, Pool.size, List.length_append, List.length_singleton] at hsize ⊢
    omega
  · simp only [call, Pool.push, List.length_append, List.length_singleton]
    omega
  · simp only [call, Pool.push, ← List.append_assoc]
    exact hordered.append (.refl _)
  · -- the new session waits, so it stands in front of those that have gone
    have hlast : (removed ++ [s]).Perm ([s] ++ removed) := List.perm_append_comm
    have hadded := hperm.append_right [s]
    rw [List.append_assoc] at hadded
    simpa only [call, Pool.push, List.append_assoc] using hadded.trans (hlast.append_left _)

theorem popFront (hu : u.Sound) : (u.call .popFront).Sound := by
  cases hpool : u.pool.sessions with
  | nil =>
      have hsame : u.call .popFront = u := by
        simp [call, Pool.popFront?, hpool]
      rwa [hsame]
  | cons s rest =>
      obtain ⟨hsize, hcreated, hordered, hconserved⟩ := hu
      have hcall : u.call .popFront =
          { u with pool := { u.pool with sessions := rest }, taken := u.taken ++ [s] } := by
        simp [call, Pool.popFront?, hpool]
      rw [hpool] at hordered hconserved
      rw [hcall]
      refine ⟨?_, hcreated, ?_, ?_⟩
      · simp only [Pool.size, hpool, List.length_cons] at hsize ⊢
        omega
      · rwa [List.append_assoc]
      · simpa using hconserved

/-- Sessions may go from the pool if they are stopped, and if the others stay in order and are
    counted. -/
theorem remove (hu : u.Sound) {after : Pool × List PooledSession} {removed : List PooledSession}
    (hkept : after.1.sessions.Sublist u.pool.sessions)
    (hsplit : u.pool.sessions.Perm (after.1.sessions ++ removed))
    (hstopped : after.2 = removed.map (·.stop)) (hsize : after.1.size ≤ after.1.created)
    (hcreated : after.1.created ≤ u.pool.created) : (u.remove after).Sound := by
  obtain ⟨-, hbound, hordered, earlier, hearlier, hperm⟩ := hu
  refine ⟨hsize, Nat.le_trans hcreated hbound, ?_, earlier ++ removed, ?_, ?_⟩
  · exact ((List.Sublist.refl u.taken).append hkept).trans hordered
  · simp only [PoolUse.remove, hearlier, hstopped, List.map_append]
  · have hgone : (after.1.sessions ++ removed ++ earlier).Perm
        (after.1.sessions ++ (earlier ++ removed)) := by
      rw [List.append_assoc]
      exact List.perm_append_comm.append_left _
    have hrest := ((hsplit.append_right earlier).trans hgone).append_left u.taken
    rw [List.append_assoc] at hperm
    simpa only [PoolUse.remove, List.append_assoc] using hperm.trans hrest

theorem call (hu : u.Sound) (c : PoolCall) : (u.call c).Sound := by
  cases c with
  | push s => exact hu.push s
  | popFront => exact hu.popFront
  | shrink count =>
      obtain ⟨⟨removed, hsplit, hstopped⟩, hkept, hlength, hcreated⟩ :=
        Pool.shrunk_shrink hu.size_le count
      have hsize := hu.size_le
      refine hu.remove ?_ ?_ hstopped ?_ ?_
      · rw [hsplit]
        exact List.sublist_append_left _ _
      · rw [hsplit]
        exact removed.reverse_perm.symm.append_left _
      · omega
      · omega
  | drain => exact hu.remove (List.nil_sublist _) (.refl _) rfl (Nat.zero_le _) (Nat.le_refl _)
  | clear => exact hu.remove (List.nil_sublist _) (.refl _) rfl (Nat.le_refl _) (Nat.zero_le _)

theorem callAll (hu : u.Sound) (calls : List PoolCall) : (calls.foldl PoolUse.call u).Sound := by
  induction calls generalizing u with
  | nil => exact hu
  | cons c later ih => exact ih (hu.call c)

end Sound

theorem sound_of (calls : List PoolCall) : (of calls).Sound :=
  Sound.start.callAll calls

/-- The laws of the pool, in any use.  It never holds more sessions than it counts.  Shrinking goes on
    step by step and stops exactly the sessions that it takes off the count, which are the newest,
    and two shrinks are one by as much as both together, with the same sessions stopped in the same
    order.  Draining and clearing stop all sessions, and only clearing starts the count anew. -/
theorem laws_in_any_use (calls : List PoolCall) :
    let u := of calls
    let p := u.pool
    u.Sound ∧
      (∀ count, p.shrink count = p.shrinkInSteps count ∧ p.Shrunk count (p.shrink count)) ∧
      (∀ count more,
        ((p.shrink count).1.shrink more).1 = (p.shrink (count + more)).1 ∧
          (p.shrink count).2 ++ ((p.shrink count).1.shrink more).2 = (p.shrink (count + more)).2) ∧
      (p.drain.1.sessions = [] ∧ p.drain.1.created = p.created ∧
        p.drain.2 = p.sessions.map (·.stop)) ∧
      (p.clear.1.sessions = [] ∧ p.clear.1.created = 0 ∧
        p.clear.2 = p.sessions.map (·.stop)) := by
  intro u p
  have hsound : u.Sound := sound_of calls
  refine ⟨hsound, ?_, ?_, ⟨rfl, rfl, rfl⟩, ⟨rfl, rfl, rfl⟩⟩
  · intro count
    exact ⟨p.shrink_eq_shrinkInSteps count, Pool.shrunk_shrink hsound.size_le count⟩
  · intro count more
    obtain ⟨hpool, hstopped⟩ := p.shrink_shrink count more
    exact ⟨hpool.symm, hstopped.symm⟩

end PoolUse

end CandidatePool
