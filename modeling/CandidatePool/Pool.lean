import CandidatePool.Session.Basic
/-!
The pool of waiting sessions.  Front is the oldest session and back the newest: claims take from the
front, growing adds at the back, and shrinking removes from the back, so that the session a caller
has looked at is the last to go.

Beside the sessions stands the created count: how many sessions were made under the servers in
effect.  It grows when a session is added and falls when shrinking removes one.  A claim and a drain
leave it as it is, so that neither makes room for new sessions, and only `clear` sets it back.
-/

namespace CandidatePool

/-- Waiting sessions, the oldest first, and the created count. -/
structure Pool where
  sessions : List PooledSession := []
  created : Nat := 0
deriving DecidableEq

namespace Pool

def size (p : Pool) : Nat := p.sessions.length

/-- The session that the next claim takes. -/
def front? (p : Pool) : Option PooledSession := p.sessions.head?

def push (p : Pool) (s : PooledSession) : Pool :=
  ⟨p.sessions ++ [s], p.created + 1⟩

def pushAll (p : Pool) (sessions : List PooledSession) : Pool :=
  ⟨p.sessions ++ sessions, p.created + sessions.length⟩

/-- Adding sessions in order is adding one after the other. -/
theorem pushAll_eq_foldl_push (p : Pool) (sessions : List PooledSession) :
    p.pushAll sessions = sessions.foldl push p := by
  induction sessions generalizing p with
  | nil => simp [pushAll]
  | cons s rest ih =>
    rw [List.foldl_cons, ← ih]
    simp only [pushAll, push, List.append_assoc, List.singleton_append, List.length_cons]
    congr 1
    omega

def popFront? (p : Pool) : Option (PooledSession × Pool) :=
  match p.sessions with
  | [] => none
  | s :: rest => some (s, { p with sessions := rest })

/-- Takes the newest session out, and out of the created count. -/
def popBack? (p : Pool) : Option (PooledSession × Pool) :=
  p.sessions.getLast?.map fun s => (s, ⟨p.sessions.dropLast, p.created - 1⟩)

/-- Removes `count` sessions from the back, or all if there are fewer.  The second part is the
    sessions removed, each one stopped, the newest first. -/
def shrink (count : Nat) (p : Pool) : Pool × List PooledSession :=
  let removed := p.sessions.reverse.take count
  (⟨p.sessions.take (p.size - count), p.created - removed.length⟩, removed.map (·.stop))

theorem shrink_zero (p : Pool) : p.shrink 0 = (p, []) := by
  simp [shrink, size]

theorem shrink_of_nil {p : Pool} (h : p.sessions = []) (count : Nat) : p.shrink count = (p, []) := by
  obtain ⟨sessions, created⟩ := p
  subst h
  simp [shrink]

/-- Shrinking removes one session after the other, the newest first. -/
theorem shrink_succ (p : Pool) (count : Nat) :
    p.shrink (count + 1) =
      match p.popBack? with
      | none => (p, [])
      | some (s, rest) => ((rest.shrink count).1, s.stop :: (rest.shrink count).2) := by
  rcases List.eq_nil_or_concat p.sessions with h | ⟨rest, s, h⟩
  · obtain ⟨sessions, created⟩ := p
    subst h
    simp [shrink, popBack?, size]
  · obtain ⟨sessions, created⟩ := p
    subst h
    simp [popBack?, shrink, size, List.take_append, Nat.sub_sub, Nat.add_comm]

/-- No more sessions are removed than there are. -/
theorem shrink_min (p : Pool) (count : Nat) : p.shrink (min count p.size) = p.shrink count := by
  have hkept : p.size - min count p.size = p.size - count := by omega
  have hremoved : p.sessions.reverse.take (min count p.size) = p.sessions.reverse.take count := by
    rw [size, ← List.length_reverse, ← List.take_eq_take_min]
  simp only [shrink, hkept, hremoved]

theorem length_shrink (p : Pool) (count : Nat) :
    (p.shrink count).2.length = min count p.size := by
  simp [shrink, size]

/-- The sessions at the front are kept, and the others are stopped, the newest first. -/
theorem exists_removed_shrink (p : Pool) (count : Nat) :
    ∃ removed, p.sessions = (p.shrink count).1.sessions ++ removed ∧
      (p.shrink count).2 = removed.reverse.map (·.stop) := by
  refine ⟨p.sessions.drop (p.size - count), (List.take_append_drop _ _).symm, ?_⟩
  simp only [shrink, size, List.take_reverse]

/-- A shrink never takes more off the created count than there is. -/
theorem created_eq_shrink_add (p : Pool) (hsize : p.size ≤ p.created) (count : Nat) :
    p.created = (p.shrink count).1.created + (p.shrink count).2.length := by
  have hlowered : (p.shrink count).1.created = p.created - (p.shrink count).2.length := by
    simp [shrink]
  have hlength := p.length_shrink count
  omega

/-- Shrinking in two steps is shrinking once. -/
theorem shrink_shrink (p : Pool) (count more : Nat) :
    (p.shrink (count + more)).1 = ((p.shrink count).1.shrink more).1 ∧
      (p.shrink (count + more)).2 = (p.shrink count).2 ++ ((p.shrink count).1.shrink more).2 := by
  have hrest : (p.sessions.take (p.size - count)).reverse = p.sessions.reverse.drop count := by
    rw [List.drop_reverse, size]
  constructor
  · simp only [shrink, size, List.length_take, List.length_reverse, List.take_take, Pool.mk.injEq]
    constructor
    · congr 1
      omega
    · omega
  · simp only [shrink, hrest, ← List.map_append, List.take_add]

/-- Removes and stops all sessions, the oldest first.  The created count stays. -/
def drain (p : Pool) : Pool × List PooledSession :=
  ({ p with sessions := [] }, p.sessions.map (·.stop))

/-- Removes and stops all sessions, and starts the created count anew. -/
def clear (p : Pool) : Pool × List PooledSession :=
  ({}, p.drain.2)

end Pool

end CandidatePool
