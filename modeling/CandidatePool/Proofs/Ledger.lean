import CandidatePool.Proofs.History
import Mathlib.Data.List.Forall2
/-!
Where every session is.  A ledger has one entry for each session that the factory returned, in the
order in which they came.  An entry says what the session was made for and where it is now: in the
pool, with the caller who claimed it, or stopped.  Where it is also says which hooks the allocator
has called on it by then, and in which order.

A ledger accounts for a history when the pool holds exactly the sessions entered as waiting, and the
sessions handed over and stopped are exactly those entered so.  Since an entry has one place, no
session is in two of them, and since the later ledger follows the earlier one, a session that has
left the pool stays where it went.
-/

namespace CandidatePool

variable {σ : Type}

/-! ### Entries -/

inductive Place where
  | pool
  /-- With the caller who claimed it for an identity. -/
  | caller (identity : Identity)
  | stopped
deriving DecidableEq

/-- The hooks that the allocator has called on a session by the time it is there, in order. -/
def Place.calls : Place → List Hook
  | .pool => [.start]
  | .caller identity => [.start, .assign identity]
  | .stopped => [.start, .stop]

/-- A session that a factory returned, and where it is. -/
structure Entry where
  id : SessionId
  servers : Servers
  kind : SessionKind
  place : Place

namespace Entry

/-- The session of an entry, with the hooks that its place implies. -/
def session (e : Entry) : Session := ⟨e.id, e.servers, e.kind, e.place.calls⟩

/-- The session as it went into the pool. -/
def born (e : Entry) : PooledSession := .warm e.id e.servers e.kind

def pooled? (e : Entry) : Option PooledSession :=
  match e.place with
  | .pool => some ⟨e.id, e.servers, e.session⟩
  | .caller _ | .stopped => none

def handed? (e : Entry) : Option (Identity × ClaimedSession) :=
  match e.place with
  | .caller identity => some (identity, ⟨e.id, e.servers, identity, e.session⟩)
  | .pool | .stopped => none

def stopped? (e : Entry) : Option PooledSession :=
  match e.place with
  | .stopped => some ⟨e.id, e.servers, e.session⟩
  | .pool | .caller _ => none

def waiting (id : SessionId) (servers : Servers) (kind : SessionKind) : Entry :=
  ⟨id, servers, kind, .pool⟩

def handOver (identity : Identity) (e : Entry) : Entry := { e with place := .caller identity }

def stopWaiting (e : Entry) : Entry :=
  match e.place with
  | .pool => { e with place := .stopped }
  | .caller _ | .stopped => e

/-- A session stays what it is, and leaves no place but the pool. -/
structure Follows (e later : Entry) : Prop where
  id : later.id = e.id
  servers : later.servers = e.servers
  kind : later.kind = e.kind
  place : later.place = e.place ∨ e.place = .pool

theorem Follows.refl (e : Entry) : e.Follows e := ⟨rfl, rfl, rfl, .inl rfl⟩

theorem follows_handOver {e : Entry} (h : e.place = .pool) (identity : Identity) :
    e.Follows (e.handOver identity) := ⟨rfl, rfl, rfl, .inr h⟩

theorem follows_stopWaiting (e : Entry) : e.Follows e.stopWaiting := by
  rcases e with ⟨id, servers, kind, place⟩
  cases place with
  | pool => exact ⟨rfl, rfl, rfl, .inr rfl⟩
  | caller identity => exact .refl _
  | stopped => exact .refl _

theorem Follows.born {e later : Entry} (h : e.Follows later) : later.born = e.born := by
  rw [Entry.born, Entry.born, h.id, h.servers, h.kind]

theorem pooled?_eq_some {e : Entry} {s : PooledSession} (h : e.pooled? = some s) :
    e.place = .pool ∧ s = ⟨e.id, e.servers, e.session⟩ := by
  rcases e with ⟨id, servers, kind, place⟩
  cases place with
  | pool => exact ⟨rfl, (Option.some.inj h).symm⟩
  | caller identity => simp [pooled?] at h
  | stopped => simp [pooled?] at h

theorem handed?_eq_none {e : Entry} (h : e.place = .pool) : e.handed? = none := by
  simp [handed?, h]

theorem stopped?_eq_none {e : Entry} (h : e.place = .pool) : e.stopped? = none := by
  simp [stopped?, h]

/-- What the ledger says of a session handed over is what the pool's claim makes of it. -/
theorem handed?_handOver {e : Entry} (h : e.place = .pool) (identity : Identity) :
    (e.handOver identity).handed? =
      some (identity, PooledSession.claim ⟨e.id, e.servers, e.session⟩ identity) := by
  simp [handed?, handOver, session, PooledSession.claim, Session.call, Place.calls, h]

end Entry

/-! ### Ledgers -/

/-- Entries, in the order in which the factory returned their sessions. -/
abbrev Ledger := List Entry

namespace Ledger

def pooled (l : Ledger) : List PooledSession := l.filterMap Entry.pooled?

def handed (l : Ledger) : List (Identity × ClaimedSession) := l.filterMap Entry.handed?

def stopped (l : Ledger) : List PooledSession := l.filterMap Entry.stopped?

/-- Entries are added at the end, and those that are there change as entries may. -/
def Follows (l later : Ledger) : Prop :=
  ∃ kept added, later = kept ++ added ∧ List.Forall₂ Entry.Follows l kept

/-- The ledger is true of a history. -/
structure Accounts (l : Ledger) (h : History σ) : Prop where
  made : l.map Entry.born = h.made
  pooled : l.pooled = h.allocator.pool.sessions
  handed : l.handed.Perm h.handed
  stopped : l.stopped.Perm h.stopped

/-! ### Keeping a ledger -/

theorem pooled_append (l more : Ledger) : pooled (l ++ more) = pooled l ++ pooled more :=
  List.filterMap_append

theorem handed_append (l more : Ledger) : handed (l ++ more) = handed l ++ handed more :=
  List.filterMap_append

theorem stopped_append (l more : Ledger) : stopped (l ++ more) = stopped l ++ stopped more :=
  List.filterMap_append

theorem forall₂_follows_refl (l : Ledger) : List.Forall₂ Entry.Follows l l :=
  List.forall₂_same.mpr fun e _ => .refl e

theorem Follows.of_forall₂ {l later : Ledger} (h : List.Forall₂ Entry.Follows l later) :
    l.Follows later := ⟨later, [], (List.append_nil _).symm, h⟩

theorem map_born_of_forall₂ {l later : Ledger} (h : List.Forall₂ Entry.Follows l later) :
    later.map Entry.born = l.map Entry.born := by
  induction h with
  | nil => rfl
  | cons hhead htail ih => rw [List.map_cons, List.map_cons, hhead.born, ih]

section StopWaiting

variable (l : Ledger)

theorem forall₂_stopWaiting : List.Forall₂ Entry.Follows l (l.map Entry.stopWaiting) :=
  List.forall₂_map_right_iff.mpr (List.forall₂_same.mpr fun e _ => e.follows_stopWaiting)

theorem pooled_stopWaiting : pooled (l.map Entry.stopWaiting) = [] := by
  simp only [pooled, List.filterMap_eq_nil_iff, List.forall_mem_map]
  rintro ⟨id, servers, kind, place⟩ -
  cases place <;> rfl

theorem handed_stopWaiting : handed (l.map Entry.stopWaiting) = l.handed := by
  simp only [handed, List.filterMap_map]
  refine List.filterMap_congr ?_
  rintro ⟨id, servers, kind, place⟩ -
  cases place <;> rfl

theorem stopped_stopWaiting :
    (stopped (l.map Entry.stopWaiting)).Perm (l.stopped ++ l.pooled.map (·.stop)) := by
  induction l with
  | nil => exact .refl _
  | cons e l ih =>
      rcases e with ⟨id, servers, kind, place⟩
      cases place with
      | pool => exact (ih.cons _).trans List.perm_middle.symm
      | caller identity => exact ih
      | stopped => exact ih.cons _

end StopWaiting

/-- Sessions at the back of the pool can be stopped. -/
theorem exists_stop {l : Ledger} {kept removed : List PooledSession}
    (h : l.pooled = kept ++ removed) :
    ∃ later : Ledger, List.Forall₂ Entry.Follows l later ∧ later.pooled = kept ∧
      later.handed = l.handed ∧ later.stopped.Perm (l.stopped ++ removed.map (·.stop)) := by
  obtain ⟨front, back, rfl, hfront, hback⟩ := List.filterMap_eq_append_iff.mp h
  refine ⟨front ++ back.map Entry.stopWaiting, ?_, ?_, ?_, ?_⟩
  · exact List.rel_append (forall₂_follows_refl front) (forall₂_stopWaiting back)
  · rw [pooled_append, pooled_stopWaiting, List.append_nil]
    exact hfront
  · rw [handed_append, handed_stopWaiting, ← handed_append]
  · rw [stopped_append, stopped_append, List.append_assoc, ← hback]
    exact (stopped_stopWaiting back).append_left _

theorem exists_handOver {l : Ledger} {s : PooledSession} {rest : List PooledSession}
    (h : l.pooled = s :: rest) (identity : Identity) :
    ∃ later : Ledger, List.Forall₂ Entry.Follows l later ∧ later.pooled = rest ∧
      later.handed.Perm (l.handed ++ [(identity, s.claim identity)]) ∧
      later.stopped = l.stopped := by
  obtain ⟨front, e, back, rfl, hfront, he, hback⟩ := List.filterMap_eq_cons_iff.mp h
  obtain ⟨hplace, rfl⟩ := Entry.pooled?_eq_some he
  refine ⟨front ++ e.handOver identity :: back, ?_, ?_, ?_, ?_⟩
  · exact List.rel_append (forall₂_follows_refl front)
      (.cons (Entry.follows_handOver hplace identity) (forall₂_follows_refl back))
  · have hnone : pooled front = [] := List.filterMap_eq_nil_iff.mpr hfront
    rw [pooled_append, hnone]
    exact hback
  · have hback' : handed (e :: back) = handed back :=
      List.filterMap_cons_none (Entry.handed?_eq_none hplace)
    have hnew : handed (e.handOver identity :: back) = _ :: handed back :=
      List.filterMap_cons_some (Entry.handed?_handOver hplace identity)
    rw [handed_append, handed_append, hback', hnew, List.append_assoc]
    exact (List.perm_append_singleton ..).symm.append_left _
  · have hback' : stopped (e :: back) = stopped back :=
      List.filterMap_cons_none (Entry.stopped?_eq_none hplace)
    rw [stopped_append, stopped_append, hback']
    rfl

theorem exists_added {made : List PooledSession}
    (h : ∀ s ∈ made, ∃ id servers kind, s = .warm id servers kind) :
    ∃ added : Ledger, added.map Entry.born = made ∧ added.pooled = made ∧ added.handed = [] ∧
      added.stopped = [] := by
  induction made with
  | nil => exact ⟨[], rfl, rfl, rfl, rfl⟩
  | cons s made ih =>
      obtain ⟨added, hborn, hpooled, hhanded, hstopped⟩ :=
        ih fun t ht => h t (List.mem_cons_of_mem s ht)
      obtain ⟨id, servers, kind, rfl⟩ := h s List.mem_cons_self
      refine ⟨.waiting id servers kind :: added, ?_, ?_, hhanded, hstopped⟩
      · rw [List.map_cons, hborn]
        rfl
      · rw [← hpooled]
        rfl

theorem length_eq (l : Ledger) :
    l.length = l.pooled.length + l.handed.length + l.stopped.length := by
  induction l with
  | nil => rfl
  | cons e l ih =>
      rcases e with ⟨id, servers, kind, place⟩
      cases place with
      | pool =>
          change l.length + 1 = (pooled l).length + 1 + (handed l).length + (stopped l).length
          omega
      | caller identity =>
          change l.length + 1 = (pooled l).length + ((handed l).length + 1) + (stopped l).length
          omega
      | stopped =>
          change l.length + 1 = (pooled l).length + (handed l).length + ((stopped l).length + 1)
          omega

theorem Accounts.start (state : σ) : Accounts [] (History.start state) :=
  ⟨rfl, rfl, .refl _, .refl _⟩

theorem Accounts.exists_stopAll {l : Ledger} {h : History σ} (hl : l.Accounts h) :
    ∃ later : Ledger, l.Follows later ∧ later.map Entry.born = h.made ∧ later.pooled = [] ∧
      later.handed.Perm h.handed ∧
      later.stopped.Perm (h.stopped ++ h.allocator.pool.sessions.map (·.stop)) := by
  have hall : l.pooled = [] ++ h.allocator.pool.sessions := hl.pooled
  obtain ⟨later, hlater, hpooled, hhanded, hstopped⟩ := exists_stop hall
  refine ⟨later, .of_forall₂ hlater, ?_, hpooled, ?_, ?_⟩
  · rw [map_born_of_forall₂ hlater, hl.made]
  · rw [hhanded]
    exact hl.handed
  · exact hstopped.trans (hl.stopped.append_right _)

/-- A ledger that accounts for a history can be kept up through any request. -/
theorem Accounts.exists_serve {l : Ledger} {h : History σ} (hl : l.Accounts h) (F : Factory σ)
    (request : Request) : ∃ later, l.Follows later ∧ later.Accounts (h.serve F request) := by
  rcases History.serve_cases F h request with ⟨answer, heq⟩ | ⟨servers, size, rfl⟩ |
    ⟨identity, s, rest, rfl, hpool⟩ | rfl
  · rw [heq]
    exact ⟨l, .of_forall₂ (forall₂_follows_refl l), hl.made, hl.pooled, hl.handed, hl.stopped⟩
  · -- what is removed is the back of the pool, and what is made is new
    obtain ⟨removed, hsplit, hremoved⟩ :=
      h.allocator.exists_removed_adopt servers (clampSize size)
    obtain ⟨kept, hkept, hpooled, hhanded, hstopped⟩ := exists_stop (hl.pooled.trans hsplit)
    have hwarm : ∀ s ∈ (h.allocator.reconcile F h.factory servers size).made,
        ∃ id servers kind, s = .warm id servers kind := by
      intro s hs
      obtain ⟨id, kind, hid⟩ := h.allocator.eq_warm_of_mem_made F h.factory servers size hs
      exact ⟨id, servers, kind, hid⟩
    obtain ⟨added, hborn, hnew, hnone, hnone'⟩ := exists_added hwarm
    refine ⟨kept ++ added, ⟨kept, added, rfl, hkept⟩, ?_⟩
    rw [History.serve_reconcile]
    constructor
    · rw [List.map_append, map_born_of_forall₂ hkept, hl.made, hborn]
    · rw [pooled_append, hpooled, hnew, Allocator.sessions_reconcile]
    · rw [handed_append, hhanded, hnone, List.append_nil]
      exact hl.handed
    · rw [stopped_append, hnone', List.append_nil]
      exact hstopped.trans (hl.stopped.append hremoved.symm)
  · rw [History.serve_claim_of_cons F identity hpool]
    obtain ⟨later, hlater, hpooled, hhanded, hstopped⟩ :=
      exists_handOver (hl.pooled.trans hpool) identity
    refine ⟨later, .of_forall₂ hlater, ?_, hpooled, ?_, ?_⟩
    · rw [map_born_of_forall₂ hlater, hl.made]
    · exact hhanded.trans (hl.handed.append_right _)
    · rw [hstopped]
      exact hl.stopped
  · rw [History.serve_discard]
    obtain ⟨later, hlater, hborn, hpooled, hhanded, hstopped⟩ := hl.exists_stopAll
    exact ⟨later, hlater, hborn, hpooled, hhanded, hstopped⟩

theorem Accounts.exists_close {l : Ledger} {h : History σ} (hl : l.Accounts h) :
    ∃ last, l.Follows last ∧ last.Accounts h.close ∧ last.pooled = [] := by
  obtain ⟨last, hlast, hborn, hpooled, hhanded, hstopped⟩ := hl.exists_stopAll
  exact ⟨last, hlast, ⟨hborn, hpooled, hhanded, hstopped⟩, hpooled⟩

theorem Accounts.exists_serveAll {l : Ledger} {h : History σ} (hl : l.Accounts h) (F : Factory σ)
    (requests : List Request) :
    ∃ ledgers : Nat → Ledger, ledgers 0 = l ∧
      (∀ n ≤ requests.length, (ledgers n).Accounts (h.serveAll F (requests.take n))) ∧
      ∀ n < requests.length, (ledgers n).Follows (ledgers (n + 1)) := by
  induction requests generalizing h l with
  | nil =>
      refine ⟨fun _ => l, rfl, ?_, ?_⟩
      · intro n hn
        simpa using hl
      · intro n hn
        simp at hn
  | cons request later ih =>
      obtain ⟨next, hnext, haccounts⟩ := hl.exists_serve F request
      obtain ⟨ledgers, hzero, hall, hfollows⟩ := ih haccounts
      refine ⟨fun n => n.casesOn l ledgers, rfl, ?_, ?_⟩
      · intro n hn
        cases n with
        | zero => exact hl
        | succ n => exact hall n (Nat.le_of_succ_le_succ hn)
      · intro n hn
        cases n with
        | zero =>
            change l.Follows (ledgers 0)
            rwa [hzero]
        | succ n => exact hfollows n (Nat.lt_of_succ_lt_succ hn)

theorem exists_accounts (F : Factory σ) (state : σ) (requests : List Request) :
    ∃ l : Ledger, l.Accounts (History.of F state requests) := by
  obtain ⟨ledgers, -, hall, -⟩ := (Accounts.start state).exists_serveAll F requests
  have hlast := hall requests.length (Nat.le_refl _)
  rw [List.take_length] at hlast
  exact ⟨_, hlast⟩

end Ledger

/-! ### Every run -/

/-- At each boundary between requests there is a ledger of exactly the sessions that the factory
    has returned, each ledger follows the one before, and so does the ledger at the end, when the
    allocator is given up: then each session was either handed over or stopped. -/
theorem History.exists_ledger_at_each_boundary (F : Factory σ) (state : σ)
    (requests : List Request) :
    ∃ ledgers : Nat → Ledger,
      (∀ n ≤ requests.length,
        (ledgers n).Accounts (of F state (requests.take n)) ∧
          (ledgers n).map Entry.born =
            (of F.recorded (state, []) (requests.take n)).factory.2.filterMap Attempt.session?) ∧
      (∀ n < requests.length, (ledgers n).Follows (ledgers (n + 1))) ∧
      ∃ last, (ledgers requests.length).Follows last ∧
        last.Accounts (of F state requests).close ∧ last.pooled = [] ∧
        (of F state requests).made.length =
          (of F state requests).handed.length + (of F state requests).close.stopped.length := by
  obtain ⟨ledgers, -, hall, hfollows⟩ := (Ledger.Accounts.start state).exists_serveAll F requests
  have hend : (ledgers requests.length).Accounts (of F state requests) := by
    have hfull := hall requests.length (Nat.le_refl _)
    rwa [List.take_length] at hfull
  obtain ⟨last, hlast, haccounts, hempty⟩ := hend.exists_close
  refine ⟨ledgers, ?_, hfollows, last, hlast, haccounts, hempty, ?_⟩
  · intro n hn
    refine ⟨hall n hn, ?_⟩
    rw [filterMap_log]
    exact (hall n hn).made
  · have hmade : last.length = (of F state requests).made.length := by
      rw [← List.length_map Entry.born, haccounts.made]
      rfl
    calc (of F state requests).made.length
        = last.length := hmade.symm
      _ = last.handed.length + last.stopped.length := by
        rw [last.length_eq, hempty, List.length_nil, Nat.zero_add]
      _ = (of F state requests).handed.length + (of F state requests).close.stopped.length := by
        rw [haccounts.handed.length_eq, haccounts.stopped.length_eq]
        rfl

/-- A claim after a reconciliation that failed half way, then other servers. -/
theorem History.exists_ledger_past_a_failure :
    let F := FactoryPlan.factory { failures := [(3, .create "no port")] }
    let other : Servers := ⟨.empty, [{ address := "relay", port := 3478 }]⟩
    let requests : List Request :=
      [.reconcile .empty 3, .claim ⟨"audio", 1, "u", "p"⟩, .reconcile other 2]
    (2 ≤ requests.length ∧ 2 < requests.length) ∧
      ((of F {} requests).made.length = 4 ∧ (of F {} requests).handed.length = 1 ∧
        (of F {} requests).stopped.length = 1) ∧
      ∃ ledgers : Nat → Ledger,
        (ledgers 2).Accounts (of F {} (requests.take 2)) ∧ (ledgers 2).Follows (ledgers 3) ∧
          ∃ last, (ledgers 3).Follows last ∧ last.Accounts (of F {} requests).close ∧
            last.pooled = [] := by
  intro F other requests
  obtain ⟨ledgers, hall, hfollows, last, hlast, haccounts, hempty, -⟩ :=
    exists_ledger_at_each_boundary F {} requests
  have hle : 2 ≤ requests.length := by decide
  have hlt : 2 < requests.length := by decide
  exact ⟨⟨hle, hlt⟩, by decide +kernel, ledgers, (hall 2 hle).1, hfollows 2 hlt, last, hlast,
    haccounts, hempty⟩

end CandidatePool
