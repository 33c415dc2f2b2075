import CandidatePool.Proofs.Ledger
import CandidatePool.Shared
/-!
Handles of a shared allocator.  However many handles there are, there is one allocator behind them, and
what is asked through any of them is asked of that one.  So the handles can be left out: an allocator
by itself that serves the same requests gives the same answers, and after each of them the two are in
the same state (`Mirrors`).

Making a handle and dropping one leave no trace, save for the handle that is dropped last.  With it
the allocator is given up, and of all sessions that were ever made those that still wait are stopped.
-/

namespace CandidatePool

variable {σ : Type}

namespace Shared

/-! ### Using handles -/

/-- What can be done with a handle: give a command through it, or drop it, even if it is the last. -/
inductive Use where
  | command (command : Command)
  | drop

section Uses

variable (F : Factory σ)

def use (s : Shared σ) (handle : Nat) : Use → Effect σ
  -- the command `close` leaves the last handle open
  | .command command => s.step F handle command
  | .drop =>
    let after := if s.isOpen handle then s.closeHandle handle else s
    ⟨after, .closed after.openCount, []⟩

def effects : Shared σ → List (Nat × Use) → List (Effect σ)
  | _, [] => []
  | s, (handle, use) :: later =>
    s.use F handle use :: effects (s.use F handle use).shared later

def run (s : Shared σ) (uses : List (Nat × Use)) : Shared σ :=
  uses.foldl (fun s (handle, use) => (s.use F handle use).shared) s

/-- Whether each handle is open when it is used. -/
def allOpen : Shared σ → List (Nat × Use) → Bool
  | _, [] => true
  | s, (handle, use) :: later => s.isOpen handle && allOpen (s.use F handle use).shared later

variable {F} in
theorem allOpen_append {s : Shared σ} {uses later : List (Nat × Use)}
    (hopen : s.allOpen F (uses ++ later)) :
    s.allOpen F uses ∧ (s.run F uses).allOpen F later := by
  induction uses generalizing s with
  | nil => exact ⟨rfl, hopen⟩
  | cons first uses ih =>
      rw [List.cons_append, allOpen, Bool.and_eq_true] at hopen
      obtain ⟨huses, hlater⟩ := ih hopen.2
      rw [allOpen, Bool.and_eq_true]
      exact ⟨⟨hopen.1, huses⟩, hlater⟩

end Uses

/-- The allocator of a history, put behind a handle. -/
def wrap (h : History σ) : Shared σ :=
  { allocator := h.allocator, factory := h.factory, stopped := h.stopped }

/-- The requests that a use of a handle comes to: none for what concerns handles alone. -/
def Use.requests : Use → List Request
  | .command (.serve request) => [request]
  | .command (.race identities) => identities.map .claim
  | .command .servers | .command .clone | .command .close | .drop => []

def requests (uses : List (Nat × Use)) : List Request :=
  uses.flatMap fun (_, use) => use.requests

/-- The answers of the allocator that are in a reply. -/
def Reply.answers : Reply → List Answer
  | .answer a => [a]
  | .raced sessions => sessions.map .claimed
  | .servers _ | .cloned _ | .closed _ | .noSuchHandle => []

def answers (F : Factory σ) (s : Shared σ) (uses : List (Nat × Use)) : List Answer :=
  (s.effects F uses).flatMap (·.reply.answers)

def told (F : Factory σ) (s : Shared σ) (uses : List (Nat × Use)) : List Event :=
  (s.effects F uses).flatMap (·.events)

/-! ### Counting handles -/

section Counting

variable {s : Shared σ} {handle : Nat}

theorem getElem?_of_isOpen (hopen : s.isOpen handle) : s.handles[handle]? = some true := by
  rw [isOpen, List.getD_eq_getElem?_getD] at hopen
  cases hplace : s.handles[handle]? with
  | none => simp [hplace] at hopen
  | some flag => simpa [hplace] using hopen

theorem openCount_pos (hopen : s.isOpen handle) : 0 < s.openCount :=
  List.count_pos_iff.mpr (List.mem_of_getElem? (getElem?_of_isOpen hopen))

theorem count_set_false (hopen : s.isOpen handle) :
    (s.handles.set handle false).count true = s.openCount - 1 := by
  obtain ⟨hlt, htrue⟩ := List.getElem?_eq_some_iff.mp (getElem?_of_isOpen hopen)
  rw [List.count_set hlt, htrue]
  rfl

/-- A handle that is not the last one leaves nothing behind when it is closed. -/
theorem closeHandle_of_others (hopen : s.isOpen handle) (hothers : 1 < s.openCount) :
    s.closeHandle handle = { s with handles := s.handles.set handle false } := by
  have hleft : (s.handles.set handle false).count true ≠ 0 := by
    rw [count_set_false hopen]
    omega
  simp only [closeHandle, openCount]
  exact if_neg hleft

/-- The last handle takes the allocator with it. -/
theorem closeHandle_of_last (hopen : s.isOpen handle) (hlast : s.openCount = 1) :
    s.closeHandle handle =
      { allocator := s.allocator.close.1
        factory := s.factory
        stopped := s.stopped ++ s.allocator.close.2
        handles := s.handles.set handle false } := by
  have hleft : (s.handles.set handle false).count true = 0 := by
    rw [count_set_false hopen, hlast]
  simp only [closeHandle, openCount]
  exact if_pos hleft

theorem openCount_closeHandle (hopen : s.isOpen handle) :
    (s.closeHandle handle).openCount = s.openCount - 1 := by
  have hpos := openCount_pos hopen
  rcases Nat.lt_or_eq_of_le hpos with hothers | hlast
  · rw [closeHandle_of_others hopen hothers]
    exact count_set_false hopen
  · rw [closeHandle_of_last hopen hlast.symm]
    exact count_set_false hopen

end Counting

/-! ### One allocator behind all handles -/

/-- Allocator and factory are in the same state, and the same sessions were stopped. -/
structure Mirrors (s : Shared σ) (h : History σ) : Prop where
  allocator : s.allocator = h.allocator
  factory : s.factory = h.factory
  stopped : s.stopped = h.stopped

/-- The history, whose allocator is given up when no handle is open any more. -/
def mirrored (s : Shared σ) (h : History σ) : History σ :=
  if s.openCount = 0 then h.close else h

theorem mirrored_of_pos {s : Shared σ} (hpos : 0 < s.openCount) (h : History σ) :
    s.mirrored h = h :=
  if_neg (Nat.pos_iff_ne_zero.mp hpos)

namespace Mirrors

variable {F : Factory σ} {s : Shared σ} {h : History σ} {handle : Nat}

theorem ask (hm : s.Mirrors h) (request : Request) :
    let outcome := h.allocator.serve F h.factory request
    let next := s.ask F request
    next.1.Mirrors (h.serve F request) ∧ next.1.handles = s.handles ∧
      next.2 = (outcome.answer, outcome.events) := by
  have hserve : s.allocator.serve F s.factory request =
      h.allocator.serve F h.factory request := by
    rw [hm.allocator, hm.factory]
  refine ⟨⟨?_, ?_, ?_⟩, rfl, ?_⟩
  · exact congrArg (·.allocator) hserve
  · exact congrArg (·.factory) hserve
  · exact congrArg₂ (· ++ ·) hm.stopped (congrArg (·.stopped) hserve)
  · exact congrArg (fun outcome => (outcome.answer, outcome.events)) hserve

/-- Claims in a race are claims in a row. -/
theorem race (hm : s.Mirrors h) (identities : List Identity) :
    let claims := identities.map Request.claim
    let next := s.race F identities
    next.1.Mirrors (h.serveAll F claims) ∧ next.1.handles = s.handles ∧
      next.2.1.map .claimed = (h.outcomes F claims).map (·.answer) ∧
      next.2.2 = (h.outcomes F claims).flatMap (·.events) := by
  induction identities generalizing s h with
  | nil => exact ⟨hm, rfl, rfl, rfl⟩
  | cons identity later ih =>
      obtain ⟨hnext, hsame, hanswer⟩ := hm.ask (F := F) (.claim identity)
      obtain ⟨hlast, hhandles, hsessions, hevents⟩ := ih hnext
      simp only [Shared.race, hanswer]
      refine ⟨hlast, hhandles.trans hsame, congrArg (_ :: ·) hsessions, congrArg (_ ++ ·) hevents⟩

theorem closeHandle (hm : s.Mirrors h) (hopen : s.isOpen handle) :
    (s.closeHandle handle).Mirrors ((s.closeHandle handle).mirrored h) := by
  rw [mirrored, openCount_closeHandle hopen]
  have hpos := openCount_pos hopen
  split
  · rename_i hnone
    rw [closeHandle_of_last hopen (by omega)]
    obtain ⟨hallocator, hfactory, hstopped⟩ := hm
    rw [hallocator, hfactory, hstopped]
    exact ⟨rfl, rfl, rfl⟩
  · rename_i hsome
    rw [closeHandle_of_others hopen (by omega)]
    exact ⟨hm.allocator, hm.factory, hm.stopped⟩

/-- A use of a handle does to the one allocator what the requests do, and gets the same answers. -/
theorem use (hm : s.Mirrors h) (hopen : s.isOpen handle) (use : Use) :
    let effect := s.use F handle use
    effect.reply.answers = (h.outcomes F use.requests).map (·.answer) ∧
      effect.events = (h.outcomes F use.requests).flatMap (·.events) ∧
      effect.shared.Mirrors (effect.shared.mirrored (h.serveAll F use.requests)) := by
  have hpos := openCount_pos hopen
  cases use with
  | command command =>
      simp only [Shared.use, step, hopen, if_true]
      cases command with
      | serve request =>
          obtain ⟨hnext, hhandles, hanswer⟩ := hm.ask (F := F) request
          simp only [perform, hanswer]
          refine ⟨rfl, (List.append_nil _).symm, ?_⟩
          rw [mirrored_of_pos (by rwa [openCount, hhandles])]
          exact hnext
      | servers =>
          refine ⟨rfl, rfl, ?_⟩
          simp only [perform]
          rw [mirrored_of_pos hpos]
          exact hm
      | race identities =>
          obtain ⟨hnext, hhandles, hsessions, hevents⟩ := hm.race (F := F) identities
          refine ⟨hsessions, hevents, ?_⟩
          rw [mirrored_of_pos (by rwa [perform, openCount, hhandles])]
          exact hnext
      | clone =>
          -- one handle more is open than before, so that the allocator is not given up
          refine ⟨rfl, rfl, ?_⟩
          rw [mirrored_of_pos (by simp [perform, openCount])]
          exact ⟨hm.allocator, hm.factory, hm.stopped⟩
      | close =>
          refine ⟨rfl, rfl, ?_⟩
          simp only [perform]
          split
          · rw [mirrored_of_pos hpos]
            exact hm
          · exact hm.closeHandle hopen
  | drop =>
      simp only [Shared.use, hopen, if_true]
      exact ⟨rfl, rfl, hm.closeHandle hopen⟩

/-- As long as the handles used are open, the handles and the allocator by itself stay together. -/
theorem run (hm : s.Mirrors (s.mirrored h)) {uses : List (Nat × Use)} (hopen : s.allOpen F uses) :
    s.answers F uses = (h.outcomes F (requests uses)).map (·.answer) ∧
      s.told F uses = (h.outcomes F (requests uses)).flatMap (·.events) ∧
      (s.run F uses).Mirrors ((s.run F uses).mirrored (h.serveAll F (requests uses))) := by
  induction uses generalizing s h with
  | nil => exact ⟨rfl, rfl, hm⟩
  | cons first uses ih =>
      obtain ⟨handle, use⟩ := first
      rw [allOpen, Bool.and_eq_true] at hopen
      -- a handle is used now, so the allocator cannot have been given up before
      rw [mirrored_of_pos (openCount_pos hopen.1)] at hm
      obtain ⟨hanswers, hevents, hnext⟩ := hm.use (F := F) hopen.1 use
      obtain ⟨hlater, htold, hlast⟩ := ih hnext hopen.2
      have hrequests : requests ((handle, use) :: uses) = use.requests ++ requests uses := rfl
      rw [hrequests, History.outcomes_append, List.map_append, List.flatMap_append,
        History.serveAll_append, ← hanswers, ← hevents, ← hlater, ← htold]
      exact ⟨rfl, rfl, hlast⟩

end Mirrors

/-- Behind every shared allocator there is a history of an allocator by itself. -/
theorem mirrors_run_wrap {F : Factory σ} {state : σ} {before : List Request}
    {uses : List (Nat × Use)} (hopen : (wrap (.of F state before)).allOpen F uses) :
    let s := (wrap (.of F state before)).run F uses
    s.Mirrors (s.mirrored (.of F state (before ++ requests uses))) := by
  have hnew : (wrap (.of F state before)).Mirrors
      ((wrap (.of F state before)).mirrored (.of F state before)) := ⟨rfl, rfl, rfl⟩
  obtain ⟨-, -, hm⟩ := hnew.run hopen
  have hserved : (History.of F state before).serveAll F (requests uses) =
      .of F state (before ++ requests uses) :=
    (History.serveAll_append ..).symm
  rwa [hserved] at hm

end Shared

/-! ### Giving the allocator up -/

namespace Ledger

variable {l : Ledger} {h : History σ}

/-- When the allocator is given up, the sessions that wait are stopped, and no other entry changes. -/
theorem Accounts.close (hl : l.Accounts h) : Accounts (l.map Entry.stopWaiting) h.close := by
  refine ⟨?_, pooled_stopWaiting l, ?_, ?_⟩
  · rw [map_born_of_forall₂ (forall₂_stopWaiting l)]
    exact hl.made
  · rw [handed_stopWaiting]
    exact hl.handed
  · have hstopped := hl.stopped.append_right (l.pooled.map (·.stop))
    rw [hl.pooled] at hstopped
    have hall := stopped_stopWaiting l
    rw [hl.pooled] at hall
    exact hall.trans hstopped

/-- A session that waits has been started once, and nothing else has been done to it. -/
theorem Accounts.calls_of_mem_pool (hl : l.Accounts h) {s : PooledSession}
    (hs : s ∈ h.allocator.pool.sessions) : s.session.calls = [.start] := by
  rw [← hl.pooled] at hs
  obtain ⟨e, -, he⟩ := List.mem_filterMap.mp hs
  obtain ⟨hplace, rfl⟩ := Entry.pooled?_eq_some he
  exact congrArg Place.calls hplace

end Ledger

namespace Shared

/-- Through however many handles an allocator is used, and whatever fails, what its users are answered
    and what is told is what an allocator by itself answers and tells when it serves the same requests.
    At each moment the two are in the same state.  A clone is one more handle, and nothing else; a
    handle that is dropped is one handle less, and nothing else, unless it is the last one.  That
    one stops each session that waits, and in the ledger of all sessions no other entry changes. -/
theorem handles_refine_one_allocator (F : Factory σ) (state : σ) (before : List Request)
    (uses : List (Nat × Use)) (hopen : (wrap (.of F state before)).allOpen F uses) :
    let new := wrap (.of F state before)
    let outcomes := (History.of F state before).outcomes F (requests uses)
    new.answers F uses = outcomes.map (·.answer) ∧
    new.told F uses = outcomes.flatMap (·.events) ∧
    ∀ earlier later, uses = earlier ++ later →
      let s := new.run F earlier
      let h := History.of F state (before ++ requests earlier)
      s.Mirrors (s.mirrored h) ∧
      ∀ handle, s.isOpen handle →
        (s.step F handle .servers).reply = .servers h.allocator.servers ∧
        (s.step F handle .clone).shared = { s with handles := s.handles ++ [true] } ∧
        (1 < s.openCount →
          (s.use F handle .drop).shared = { s with handles := s.handles.set handle false }) ∧
        (s.openCount = 1 →
          let gone := (s.use F handle .drop).shared
          gone.openCount = 0 ∧ gone.Mirrors h.close ∧
          gone.stopped = s.stopped ++ s.allocator.pool.sessions.map (·.stop) ∧
          (∀ p ∈ s.allocator.pool.sessions, p.stop.session.calls = [.start, .stop]) ∧
          ∃ l : Ledger, l.Accounts h ∧ Ledger.Accounts (l.map Entry.stopWaiting) h.close) := by
  intro new outcomes
  have hnew : new.Mirrors (new.mirrored (.of F state before)) := ⟨rfl, rfl, rfl⟩
  obtain ⟨hanswers, htold, -⟩ := hnew.run hopen
  refine ⟨hanswers, htold, ?_⟩
  rintro earlier later rfl s h
  have hm : s.Mirrors (s.mirrored h) := mirrors_run_wrap (allOpen_append hopen).1
  refine ⟨hm, ?_⟩
  intro handle hhandle
  rw [mirrored_of_pos (openCount_pos hhandle)] at hm
  simp only [step, use, hhandle, if_true]
  refine ⟨?_, rfl, closeHandle_of_others hhandle, ?_⟩
  · exact congrArg (fun a => Reply.servers a.servers) hm.allocator
  · intro hlast
    obtain ⟨l, hl⟩ := Ledger.exists_accounts F state (before ++ requests earlier)
    have hnone : (s.closeHandle handle).openCount = 0 := by
      rw [openCount_closeHandle hhandle, hlast]
    have hgone := hm.closeHandle hhandle
    rw [mirrored, if_pos hnone] at hgone
    refine ⟨hnone, hgone, ?_, ?_, l, hl, hl.close⟩
    · rw [closeHandle_of_last hhandle hlast]
      rfl
    · intro p hp
      rw [hm.allocator] at hp
      simp only [PooledSession.stop, Session.call, hl.calls_of_mem_pool hp]
      rfl

/-- A filling fails half way, two handles take turns, and the first of them goes. -/
theorem last_of_two_handles :
    let F := FactoryPlan.factory { failures := [(3, .create "no port")] }
    let audio : Identity := ⟨"audio", 1, "u", "p"⟩
    let uses : List (Nat × Use) :=
      [(0, .command (.serve (.reconcile .empty 3))), (0, .command .clone),
        (1, .command (.race [audio])), (0, .drop), (1, .command (.serve (.reconcile .empty 4)))]
    let new := wrap (.of F {} [])
    let s := new.run F uses
    let gone := (s.use F 1 .drop).shared
    new.allOpen F uses ∧ s.openCount = 1 ∧ s.isOpen 1 ∧ s.allocator.pool.size = 3 ∧
      new.answers F uses = ((History.of F {} []).outcomes F (requests uses)).map (·.answer) ∧
      gone.openCount = 0 ∧ gone.stopped = s.allocator.pool.sessions.map (·.stop) ∧
      ∃ l : Ledger, l.Accounts (.of F {} (requests uses)) ∧
        Ledger.Accounts (l.map Entry.stopWaiting) (History.of F {} (requests uses)).close := by
  intro F audio uses new s gone
  have hopen : new.allOpen F uses := by decide +kernel
  have hlast : s.openCount = 1 := by decide +kernel
  have hhandle : s.isOpen 1 := by decide +kernel
  obtain ⟨hanswers, -, hstates⟩ := handles_refine_one_allocator F {} [] uses hopen
  obtain ⟨-, hhandles⟩ := hstates uses [] (List.append_nil _).symm
  obtain ⟨-, -, -, hgone⟩ := hhandles 1 hhandle
  obtain ⟨hnone, -, hstopped, -, hledger⟩ := hgone hlast
  have hbefore : s.stopped = [] := by decide +kernel
  have hsize : s.allocator.pool.size = 3 := by decide +kernel
  rw [hbefore, List.nil_append] at hstopped
  rw [List.nil_append] at hledger
  exact ⟨hopen, hlast, hhandle, hsize, hanswers, hnone, hstopped, hledger⟩

end Shared

end CandidatePool
