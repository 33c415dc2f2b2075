import CandidatePool.Proofs.Attempts
import CandidatePool.Proofs.History
/-!
Two runs of one list of requests over different factories.  The sessions differ in their numbers,
and one of the runs may meet errors; all else that an allocator does is the same on both sides.
-/

namespace CandidatePool

variable {σ τ : Type}

/-- Whether an answer says that the pool could not be filled. -/
def Answer.isFailure : Answer → Bool
  | .reconciled failure => failure.isSome
  | .claimed _ | .discarded | .peeked _ | .told => false

/-! ### Runs that differ in the numbers of sessions -/

section Twin

variable (ids : SessionId → SessionId → Prop)

structure ClaimedSession.Twin (s t : ClaimedSession) : Prop where
  id : ids s.id t.id
  servers : t.servers = s.servers
  identity : t.identity = s.identity
  bound : t.session.servers = s.session.servers
  calls : t.session.calls = s.session.calls

/-- The answers are the same, and neither is an error. -/
inductive Answer.Twin : Answer → Answer → Prop where
  | reconciled : Twin (.reconciled none) (.reconciled none)
  | claimed {s t : Option ClaimedSession} (h : Option.Rel (ClaimedSession.Twin ids) s t) :
      Twin (.claimed s) (.claimed t)
  | discarded : Twin .discarded .discarded
  | peeked {s t : Option PooledSession} (h : Option.Rel (PooledSession.Twin ids) s t) :
      Twin (.peeked s) (.peeked t)
  | told : Twin .told .told

structure Allocator.Twin (a b : Allocator) : Prop where
  servers : b.servers = a.servers
  target : b.target = a.target
  created : b.pool.created = a.pool.created
  statistics : b.statistics = a.statistics
  sessions : List.Forall₂ (PooledSession.Twin ids) a.pool.sessions b.pool.sessions

/-- The histories are the same but for the numbers of sessions and for the errors that the second
    one has met. -/
structure History.Agrees (h : History σ) (k : History τ) : Prop where
  allocator : h.allocator.Twin ids k.allocator
  answers : List.Forall₂ (Answer.Twin ids) h.answers (k.answers.filter (!·.isFailure))
  made : List.Forall₂ (PooledSession.Twin ids) h.made k.made
  handed : List.Forall₂ (fun p q => q.1 = p.1 ∧ p.2.Twin ids q.2) h.handed k.handed
  stopped : List.Forall₂ (PooledSession.Twin ids) h.stopped k.stopped

end Twin

section Mono

variable {ids ids' : SessionId → SessionId → Prop} (himp : ∀ a b, ids a b → ids' a b)

include himp

theorem ClaimedSession.Twin.mono {s t : ClaimedSession} (h : s.Twin ids t) : s.Twin ids' t :=
  ⟨himp _ _ h.id, h.servers, h.identity, h.bound, h.calls⟩

theorem PooledSession.Twin.mono_list {l m : List PooledSession}
    (h : List.Forall₂ (PooledSession.Twin ids) l m) :
    List.Forall₂ (PooledSession.Twin ids') l m :=
  h.imp fun _ _ hst => hst.mono himp

theorem Answer.Twin.mono {x y : Answer} (h : x.Twin ids y) : x.Twin ids' y := by
  cases h with
  | reconciled => exact .reconciled
  | claimed h =>
      cases h with
      | some hst => exact .claimed (.some (hst.mono himp))
      | none => exact .claimed .none
  | discarded => exact .discarded
  | peeked h =>
      cases h with
      | some hst => exact .peeked (.some (hst.mono himp))
      | none => exact .peeked .none
  | told => exact .told

theorem Allocator.Twin.mono {a b : Allocator} (h : a.Twin ids b) : a.Twin ids' b :=
  ⟨h.servers, h.target, h.created, h.statistics, PooledSession.Twin.mono_list himp h.sessions⟩

theorem History.Agrees.mono {h : History σ} {k : History τ} (hk : h.Agrees ids k) :
    h.Agrees ids' k where
  allocator := hk.allocator.mono himp
  answers := hk.answers.imp fun _ _ hxy => hxy.mono himp
  made := PooledSession.Twin.mono_list himp hk.made
  handed := hk.handed.imp fun _ _ hpq => ⟨hpq.1, hpq.2.mono himp⟩
  stopped := PooledSession.Twin.mono_list himp hk.stopped

end Mono

/-! ### Operations on both sides -/

/-- Pools whose sessions correspond are shrunk alike, if sessions that correspond still do so when
    they are stopped. -/
theorem Pool.forall₂_shrink {R : PooledSession → PooledSession → Prop}
    (hstop : ∀ s t, R s t → R s.stop t.stop) {p q : Pool} (hcreated : q.created = p.created)
    (h : List.Forall₂ R p.sessions q.sessions) (count : Nat) :
    (q.shrink count).1.created = (p.shrink count).1.created ∧
      List.Forall₂ R (p.shrink count).1.sessions (q.shrink count).1.sessions ∧
      List.Forall₂ R (p.shrink count).2 (q.shrink count).2 := by
  have hlength : p.sessions.length = q.sessions.length := h.length_eq
  refine ⟨?_, ?_, ?_⟩
  · simp only [shrink, List.length_take, List.length_reverse, hcreated, hlength]
  · simp only [shrink, size, hlength]
    exact List.forall₂_take _ h
  · exact List.rel_map hstop (List.forall₂_take _ (List.rel_reverse h))

section Operations

variable {ids : SessionId → SessionId → Prop}

theorem PooledSession.Twin.claim {s t : PooledSession} (h : s.Twin ids t) (identity : Identity) :
    (s.claim identity).Twin ids (t.claim identity) := by
  refine ⟨h.id, h.servers, rfl, h.bound, ?_⟩
  simp only [PooledSession.claim, Session.call, h.calls]

theorem PooledSession.Twin.map_stop {l m : List PooledSession}
    (h : List.Forall₂ (PooledSession.Twin ids) l m) :
    List.Forall₂ (PooledSession.Twin ids) (l.map (·.stop)) (m.map (·.stop)) :=
  List.rel_map (fun _ _ hst => hst.stop) h

theorem PooledSession.Twin.head? {l m : List PooledSession}
    (h : List.Forall₂ (PooledSession.Twin ids) l m) :
    Option.Rel (PooledSession.Twin ids) l.head? m.head? := by
  cases h with
  | nil => exact .none
  | cons hst hrest => exact .some hst

theorem Pool.shrink_twin {p q : Pool} (hcreated : q.created = p.created)
    (h : List.Forall₂ (PooledSession.Twin ids) p.sessions q.sessions) (count : Nat) :
    (q.shrink count).1.created = (p.shrink count).1.created ∧
      List.Forall₂ (PooledSession.Twin ids) (p.shrink count).1.sessions
        (q.shrink count).1.sessions ∧
      List.Forall₂ (PooledSession.Twin ids) (p.shrink count).2 (q.shrink count).2 :=
  forall₂_shrink (fun _ _ hst => hst.stop) hcreated h count

theorem Allocator.Twin.adopt {a b : Allocator} (h : a.Twin ids b) (servers : Servers)
    (target : Nat) :
    (a.adopt servers target).allocator.Twin ids (b.adopt servers target).allocator ∧
      List.Forall₂ (PooledSession.Twin ids) (a.adopt servers target).stopped
        (b.adopt servers target).stopped := by
  unfold Allocator.adopt
  rw [h.servers]
  split
  · obtain ⟨hcreated, hsessions, hstopped⟩ :=
      Pool.shrink_twin h.created h.sessions (a.pool.created - target)
    rw [h.created]
    refine ⟨⟨rfl, rfl, hcreated, ?_, hsessions⟩, hstopped⟩
    simp only [h.statistics, hstopped.length_eq]
  · have hstopped := PooledSession.Twin.map_stop h.sessions
    refine ⟨⟨rfl, rfl, rfl, ?_, .nil⟩, hstopped⟩
    simp only [Pool.clear, Pool.drain, h.statistics, hstopped.length_eq]

theorem Allocator.Twin.absorb {a b : Allocator} (h : a.Twin ids b) {series : Series σ}
    {series' : Series τ} (hmade : List.Forall₂ (PooledSession.Twin ids) series.made series'.made) :
    (a.absorb series).settle.Twin ids (b.absorb series').settle := by
  have hlength := hmade.length_eq
  refine ⟨h.servers, h.target, ?_, ?_, List.rel_append h.sessions hmade⟩
  · simp only [Allocator.settle, Allocator.absorb, Pool.pushAll, h.created, hlength]
  · simp only [Allocator.settle, Allocator.absorb, Pool.pushAll, Pool.size, List.length_append,
      h.statistics, h.sessions.length_eq, hlength]

theorem Answer.Twin.isFailure_eq_false {x y : Answer} (h : x.Twin ids y) : y.isFailure = false := by
  cases h <;> rfl

theorem Answer.forall₂_append {l m : List Answer}
    (h : List.Forall₂ (Answer.Twin ids) l (m.filter (!·.isFailure))) {x y : Answer}
    (hxy : x.Twin ids y) :
    List.Forall₂ (Answer.Twin ids) (l ++ [x]) ((m ++ [y]).filter (!·.isFailure)) := by
  have hy : [y].filter (!·.isFailure) = [y] := by simp [hxy.isFailure_eq_false]
  rw [List.filter_append, hy]
  exact List.rel_append h (.cons hxy .nil)

end Operations

end CandidatePool
