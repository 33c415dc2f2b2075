import CandidatePool.Proofs.Handles
import CandidatePool.Proofs.Order
/-!
Tasks that claim at the same moment.  Each task claims once through a handle of its own, and the order
in which they get their turns is not theirs to choose; handles come and go meanwhile.  `Turns` holds one
such order, with the uses of handles that it comes to.

A claim takes the session at the front and answers with it in one step, so the task in the i-th turn
gets the i-th session, if there is one.  Which task that is hangs on the order.  How many tasks get a
session, which sessions they get among them, and what is left behind do not.
-/

namespace CandidatePool

variable {σ : Type}

theorem Allocator.claim_fst (a : Allocator) (i j : Identity) : (a.claim i).1 = (a.claim j).1 := by
  unfold claim
  cases a.pool.popFront? with
  | none => rfl
  | some taken => rfl

/-! ### Claims in a row -/

section Lists

variable {α β τ : Type}

/-- Giving a list out in turns, for as long as it lasts, pairs it with those who have turns. -/
theorem filterMap_mapIdx_getElem? (f : α → τ → β) (supply : List α) (turns : List τ) :
    (turns.mapIdx fun i t => supply[i]?.map (f · t)).filterMap id = List.zipWith f supply turns := by
  induction turns generalizing supply with
  | nil => simp
  | cons t turns ih =>
      rw [List.mapIdx_cons]
      cases supply with
      | nil => simp
      | cons a supply => exact congrArg (f a t :: ·) (ih supply)

theorem mapIdx_eq_map_idxOf {turns : List Nat} (hturns : turns.Nodup) (f : Nat → Nat → β) :
    turns.mapIdx f = turns.map fun t => f (turns.idxOf t) t := by
  refine List.ext_getElem (by simp) ?_
  intro i hi hi'
  rw [List.getElem_mapIdx, List.getElem_map, hturns.idxOf_getElem]

theorem drop_min_length (l : List α) (n : Nat) : l.drop (min n l.length) = l.drop n := by
  rcases Nat.le_total n l.length with hle | hle
  · rw [Nat.min_eq_left hle]
  · rw [Nat.min_eq_right hle, List.drop_length, List.drop_of_length_le hle]

end Lists

namespace History

variable (F : Factory σ) {τ : Type} (identity : τ → Identity)

theorem serve_claim (h : History σ) (i : Identity) :
    let outcome := h.allocator.serve F h.factory (.claim i)
    outcome.answer = .claimed (h.allocator.pool.sessions[0]?.map (·.claim i)) ∧
      outcome.factory = h.factory ∧ outcome.allocator.target = h.allocator.target ∧
      outcome.allocator.servers = h.allocator.servers ∧
      outcome.allocator.pool = { h.allocator.pool with sessions := h.allocator.pool.sessions.tail } := by
  rcases hpool : h.allocator.pool with ⟨sessions, created⟩
  cases sessions with
  | nil => simp [Allocator.serve, Allocator.claim, Pool.popFront?, hpool]
  | cons s rest => simp [Allocator.serve, Allocator.claim, Pool.popFront?, Allocator.settle, hpool]

/-- The i-th claim gets the i-th session of those that wait. -/
theorem answers_claims (h : History σ) (turns : List τ) :
    (h.outcomes F (turns.map fun t => .claim (identity t))).map (·.answer) =
      turns.mapIdx fun i t =>
        .claimed (h.allocator.pool.sessions[i]?.map (·.claim (identity t))) := by
  induction turns generalizing h with
  | nil => rfl
  | cons t turns ih =>
      obtain ⟨hanswer, -, -, -, hpool⟩ := serve_claim F h (identity t)
      -- the session in place i after the claim was in place i + 1 before
      have hlater := ih (h.serve F (.claim (identity t)))
      simp only [serve, hpool, List.getElem?_tail] at hlater
      rw [List.mapIdx_cons]
      exact congrArg₂ List.cons hanswer hlater

/-- Claims leave behind what they did not reach. -/
theorem serveAll_claims (h : History σ) (turns : List τ) :
    let last := h.serveAll F (turns.map fun t => .claim (identity t))
    last.factory = h.factory ∧ last.allocator.target = h.allocator.target ∧
      last.allocator.servers = h.allocator.servers ∧
      last.allocator.pool =
        { h.allocator.pool with sessions := h.allocator.pool.sessions.drop turns.length } := by
  induction turns generalizing h with
  | nil => exact ⟨rfl, rfl, rfl, rfl⟩
  | cons t turns ih =>
      obtain ⟨-, hfactory, htarget, hservers, hpool⟩ := serve_claim F h (identity t)
      obtain ⟨hfactory', htarget', hservers', hpool'⟩ := ih (h.serve F (.claim (identity t)))
      refine ⟨hfactory'.trans hfactory, htarget'.trans htarget, hservers'.trans hservers, ?_⟩
      simp only [serve, hpool, List.drop_tail] at hpool'
      exact hpool'

/-- Who claims makes no difference to the allocator. -/
theorem allocator_serveAll_claims {h h' : History σ} (hsame : h.allocator = h'.allocator)
    {turns turns' : List τ} (hlength : turns.length = turns'.length) :
    (h.serveAll F (turns.map fun t => .claim (identity t))).allocator =
      (h'.serveAll F (turns'.map fun t => .claim (identity t))).allocator := by
  induction turns generalizing h h' turns' with
  | nil =>
      rw [List.eq_nil_of_length_eq_zero hlength.symm]
      exact hsame
  | cons t turns ih =>
      cases turns' with
      | nil => cases hlength
      | cons t' turns' =>
          have hnext : (h.serve F (.claim (identity t))).allocator =
              (h'.serve F (.claim (identity t'))).allocator := by
            change (h.allocator.claim (identity t)).1 = (h'.allocator.claim (identity t')).1
            rw [hsame]
            exact h'.allocator.claim_fst ..
          exact ih hnext (Nat.succ.inj hlength)

end History

namespace Shared

/-- An order in which a number of tasks, each with an identity, claim once each through handles, and the
    uses that it comes to.  Handles may be cloned and dropped in between, as long as one is left. -/
structure Turns (F : Factory σ) (s : Shared σ) (tasks : Nat) (identity : Nat → Identity) where
  order : List Nat
  perm : order.Perm (List.range tasks)
  uses : List (Nat × Use)
  allOpen : s.allOpen F uses
  requests : requests uses = order.map fun task => .claim (identity task)
  left : 0 < (s.run F uses).openCount

namespace Turns

variable {F : Factory σ} {s : Shared σ} {tasks : Nat} {identity : Nat → Identity}

/-- What a task gets: the session that waits in the place of its turn. -/
def got (turns : Turns F s tasks identity) (task : Nat) : Option ClaimedSession :=
  s.allocator.pool.sessions[turns.order.idxOf task]?.map (·.claim (identity task))

/-- Every order has its turns: the tasks race in it through a handle that is open. -/
theorem exists_of_perm (F : Factory σ) {s : Shared σ} {handle : Nat} (hopen : s.isOpen handle)
    {order : List Nat} (hperm : order.Perm (List.range tasks)) (identity : Nat → Identity) :
    ∃ turns : Turns F s tasks identity, turns.order = order := by
  let uses : List (Nat × Use) := [(handle, .command (.race (order.map identity)))]
  have hleft : 0 < (s.run F uses).openCount := by
    -- a race leaves the handles alone, and whatever is behind them is mirrored by itself
    have hm : s.Mirrors ⟨s.factory, s.allocator, [], [], [], s.stopped, 0⟩ := ⟨rfl, rfl, rfl⟩
    obtain ⟨-, hhandles, -⟩ := hm.race (F := F) (order.map identity)
    simp only [uses, run, use, step, hopen, if_true, perform, List.foldl_cons, List.foldl_nil]
    rw [openCount, hhandles]
    exact openCount_pos hopen
  let turns : Turns F s tasks identity :=
    { order
      perm := hperm
      uses
      allOpen := by simp [uses, Shared.allOpen, hopen]
      requests := by simp [uses, Shared.requests, Use.requests]
      left := hleft }
  exact ⟨turns, rfl⟩

section

variable (turns : Turns F s tasks identity)

theorem nodup : turns.order.Nodup := turns.perm.nodup_iff.mpr List.nodup_range

theorem length_order : turns.order.length = tasks := by
  rw [turns.perm.length_eq, List.length_range]

/-- The sessions that the tasks get, in the order of their turns. -/
theorem filterMap_got :
    turns.order.filterMap turns.got =
      List.zipWith (fun p task => p.claim (identity task)) s.allocator.pool.sessions turns.order := by
  rw [← filterMap_mapIdx_getElem?, mapIdx_eq_map_idxOf turns.nodup, List.filterMap_map]
  rfl

theorem map_id_filterMap_got :
    (turns.order.filterMap turns.got).map (·.id) =
      (s.allocator.pool.sessions.map (·.id)).take (min tasks s.allocator.pool.sessions.length) := by
  rw [filterMap_got]
  apply List.ext_getElem
  · simp [turns.length_order, Nat.min_comm]
  · intro i hi hi'
    simp [PooledSession.claim]

/-- The sessions given out are those at the front. -/
theorem perm_map_id_got :
    (((List.range tasks).filterMap turns.got).map (·.id)).Perm
      ((s.allocator.pool.sessions.map (·.id)).take
        (min tasks s.allocator.pool.sessions.length)) := by
  rw [← turns.map_id_filterMap_got]
  exact (turns.perm.symm.filterMap _).map _

theorem countP_isSome_got :
    ((List.range tasks).countP fun task => (turns.got task).isSome) =
      min tasks s.allocator.pool.sessions.length := by
  rw [← turns.perm.countP_eq, ← List.length_filterMap_eq_countP, filterMap_got, List.length_zipWith,
    turns.length_order, Nat.min_comm]

theorem countP_isNone_got :
    ((List.range tasks).countP fun task => (turns.got task).isNone) =
      tasks - min tasks s.allocator.pool.sessions.length := by
  have hall := List.length_eq_countP_add_countP (fun task => (turns.got task).isSome)
    (l := List.range tasks)
  have hnone : (List.range tasks).countP (fun task => (turns.got task).isNone) =
      (List.range tasks).countP fun task => decide ¬ (turns.got task).isSome = true := by
    refine List.countP_congr ?_
    intro task _
    cases turns.got task <;> simp
  rw [List.length_range, countP_isSome_got] at hall
  omega

include turns in
theorem openCount_pos_of_turns : 0 < s.openCount := by
  cases huses : turns.uses with
  | nil =>
      have hleft := turns.left
      rwa [huses] at hleft
  | cons first later =>
      have hopen := turns.allOpen
      rw [huses, Shared.allOpen, Bool.and_eq_true] at hopen
      exact openCount_pos hopen.1

/-- The turns are claims of an allocator by itself. -/
theorem mirrors {h : History σ} (hm : s.Mirrors h) :
    s.answers F turns.uses = turns.order.map (fun task => .claimed (turns.got task)) ∧
      (s.run F turns.uses).Mirrors
        (h.serveAll F (turns.order.map fun task => .claim (identity task))) := by
  have hstart : s.Mirrors (s.mirrored h) := by
    rwa [mirrored_of_pos turns.openCount_pos_of_turns]
  obtain ⟨hanswers, -, hlast⟩ := hstart.run turns.allOpen
  rw [mirrored_of_pos turns.left] at hlast
  rw [turns.requests] at hanswers hlast
  refine ⟨?_, hlast⟩
  rw [hanswers, History.answers_claims, mapIdx_eq_map_idxOf turns.nodup, ← hm.allocator]
  rfl

end

end Turns

/-- However many tasks claim at the same moment, and in whatever order they get their turns, each
    session at the front of the pool goes to one task, for as many sessions and tasks as there are.
    The other tasks get nothing, and the sessions behind stay.  Who gets which session hangs on the
    order; the sessions given out and the allocator left behind are the same for every order.
    (Numbers tell sessions apart as long as the factory has not been asked so often that they start
    over.) -/
theorem claims_in_any_order (F : Factory σ) (state : σ) (before : List Request)
    (uses : List (Nat × Use)) (hopen : (wrap (.of F state before)).allOpen F uses) (tasks : Nat)
    (identity : Nat → Identity)
    (turns : Turns F ((wrap (.of F state before)).run F uses) tasks identity) :
    let s := (wrap (.of F state before)).run F uses
    let waiting := s.allocator.pool.sessions
    let served := min tasks waiting.length
    let last := s.run F turns.uses
    s.answers F turns.uses = turns.order.map (fun task => .claimed (turns.got task)) ∧
    ((List.range tasks).countP fun task => (turns.got task).isSome) = served ∧
    ((List.range tasks).countP fun task => (turns.got task).isNone) = tasks - served ∧
    (((List.range tasks).filterMap turns.got).map (·.id)).Perm
      ((waiting.map (·.id)).take served) ∧
    ((History.of F.recorded (state, []) (before ++ requests uses)).factory.2.length < 2 ^ 64 - 1 →
      (((List.range tasks).filterMap turns.got).map (·.id)).Nodup) ∧
    (∀ task session, turns.got task = some session → session.identity = identity task ∧
      session.session.calls = [.start, .assign (identity task)]) ∧
    last.allocator.pool = { s.allocator.pool with sessions := waiting.drop served } ∧
    last.allocator.target = s.allocator.target ∧ last.allocator.servers = s.allocator.servers ∧
    ∀ other : Turns F s tasks identity, (s.run F other.uses).allocator = last.allocator ∧
      (((List.range tasks).filterMap other.got).map (·.id)).Perm
        (((List.range tasks).filterMap turns.got).map (·.id)) := by
  intro s waiting served last
  have hm : s.Mirrors (s.mirrored (.of F state (before ++ requests uses))) := mirrors_run_wrap hopen
  rw [mirrored_of_pos turns.openCount_pos_of_turns] at hm
  obtain ⟨hanswers, hlast⟩ := turns.mirrors hm
  obtain ⟨-, htarget, hservers, hpool⟩ := History.serveAll_claims F identity
    (.of F state (before ++ requests uses)) turns.order
  refine ⟨hanswers, turns.countP_isSome_got, turns.countP_isNone_got, turns.perm_map_id_got, ?_, ?_,
    ?_, ?_, ?_, ?_⟩
  · -- the sessions that wait come last among those numbered so far, and numbers only grow
    intro hattempts
    rw [History.log_eq_attemptedAll] at hattempts
    have hwaiting := (List.pairwise_append.mp (History.pairwise_id_claimed hattempts)).2.1
    rw [← hm.allocator] at hwaiting
    rw [turns.perm_map_id_got.nodup_iff]
    refine (hwaiting.sublist (List.take_sublist ..)).imp ?_
    intro a b hab heq
    rw [heq] at hab
    exact UInt64.lt_irrefl _ hab
  · intro task session hgot
    obtain ⟨p, hp, rfl⟩ := Option.map_eq_some_iff.mp hgot
    obtain ⟨l, hl⟩ := Ledger.exists_accounts F state (before ++ requests uses)
    have hmem := List.mem_of_getElem? hp
    rw [hm.allocator] at hmem
    refine ⟨rfl, ?_⟩
    simp only [PooledSession.claim, Session.call, hl.calls_of_mem_pool hmem]
    rfl
  · have hdrop : waiting.drop served = waiting.drop turns.order.length := by
      rw [turns.length_order]
      exact drop_min_length ..
    rw [hlast.allocator, hpool, hdrop, ← hm.allocator]
  · rw [hlast.allocator, htarget, hm.allocator]
  · rw [hlast.allocator, hservers, hm.allocator]
  · intro other
    obtain ⟨-, hother⟩ := other.mirrors hm
    refine ⟨?_, other.perm_map_id_got.trans turns.perm_map_id_got.symm⟩
    rw [hother.allocator, hlast.allocator]
    exact History.allocator_serveAll_claims F identity rfl
      (other.length_order.trans turns.length_order.symm)

/-- Three tasks claim where two sessions wait, the last of them first, and handles come and go.  Any
    other order of theirs leaves the same allocator behind. -/
theorem three_claims_of_two_sessions :
    let F := FactoryPlan.factory { failures := [(3, .create "no port")] }
    let uses : List (Nat × Use) :=
      [(0, .command .clone), (1, .command (.serve (.reconcile .empty 3)))]
    let s := (wrap (.of F {} [])).run F uses
    let identity (task : Nat) : Identity := ⟨"task", .ofNat task, "u", "p"⟩
    let claim (handle task : Nat) : Nat × Use :=
      (handle, .command (.serve (.claim (identity task))))
    (wrap (.of F {} [])).allOpen F uses ∧ s.allocator.pool.sessions.length = 2 ∧
      (History.of F.recorded ({}, []) (requests uses)).factory.2.length < 2 ^ 64 - 1 ∧
      ∃ turns : Turns F s 3 identity,
        turns.uses = [claim 1 2, (1, .command .clone), claim 2 0, (1, .drop), claim 0 1] ∧
        turns.got 2 = some ((PooledSession.warm ⟨1⟩ .empty .recording).claim (identity 2)) ∧
        ((List.range 3).countP fun task => (turns.got task).isSome) = 2 ∧
        (((List.range 3).filterMap turns.got).map (·.id)).Nodup ∧
        (∀ other : Turns F s 3 identity,
          (s.run F other.uses).allocator = (s.run F turns.uses).allocator) ∧
        ∀ order : List Nat, order.Perm (List.range 3) →
          ∃ other : Turns F s 3 identity, other.order = order ∧
            (s.run F other.uses).allocator = (s.run F turns.uses).allocator := by
  intro F uses s identity claim
  let turns : Turns F s 3 identity :=
    { order := [2, 0, 1]
      perm := by decide
      uses := [claim 1 2, (1, .command .clone), claim 2 0, (1, .drop), claim 0 1]
      allOpen := by decide +kernel
      requests := rfl
      left := by decide +kernel }
  have hopen : (wrap (.of F {} [])).allOpen F uses := by decide +kernel
  have hfirst : s.isOpen 0 := by decide +kernel
  have hsize : s.allocator.pool.sessions.length = 2 := by decide +kernel
  have hattempts :
      (History.of F.recorded ({}, []) (requests uses)).factory.2.length < 2 ^ 64 - 1 := by
    decide +kernel
  obtain ⟨-, hserved, -, -, hnodup, -, -, -, -, hothers⟩ :=
    claims_in_any_order F {} [] uses hopen 3 identity turns
  rw [hsize] at hserved
  refine ⟨hopen, hsize, hattempts, turns, rfl, by decide +kernel, hserved, hnodup hattempts,
    fun other => (hothers other).1, ?_⟩
  intro order hperm
  obtain ⟨other, horder⟩ := Turns.exists_of_perm F hfirst hperm identity
  exact ⟨other, horder, (hothers other).1⟩

end Shared

end CandidatePool
