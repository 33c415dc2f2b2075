import CandidatePool.Proofs.Counts
/-!
Resizing keeps the oldest sessions.  While the servers stay the same, a dip in the sizes takes the
newest sessions away and a rise adds new ones behind those that are left.  So after any number of
changes of the size, failed ones among them, the pool is a first part of what it was, as long as the
smallest of the sizes allows, and behind it stand only sessions that are new.
-/

namespace CandidatePool

variable {σ : Type}

/-- A minimum along a list is positive when nothing in the list brings it down to zero. -/
theorem foldl_min_pos {first : Nat} {sizes : List Nat} (hfirst : 0 < first)
    (hsizes : ∀ size ∈ sizes, 0 < size) : 0 < sizes.foldl min first := by
  induction sizes generalizing first with
  | nil => exact hfirst
  | cons size sizes ih =>
      refine ih ?_ fun n hn => hsizes n (List.mem_cons_of_mem size hn)
      exact Nat.lt_min.mpr ⟨hfirst, hsizes size List.mem_cons_self⟩

namespace History

section Resize

variable {h : History σ} {servers : Servers} {departed : Nat}

/-- One change of the size cuts the pool off and adds what is made. -/
theorem Balanced.sessions_resize (hb : h.Balanced) (hservers : h.allocator.servers = servers)
    (hdeparted : h.departed = departed) (F : Factory σ) (size : Int32) :
    ∃ created, (h.serve F (.reconcile servers size)).made = h.made ++ created ∧
      (h.serve F (.reconcile servers size)).allocator.pool.sessions =
        h.allocator.pool.sessions.take (clampSize size - departed) ++ created := by
  subst hservers hdeparted
  refine ⟨_, by rw [serve_reconcile], ?_⟩
  rw [serve_reconcile, Allocator.sessions_reconcile, Allocator.sessions_adopt _ _ hb, if_pos rfl]

/-- The invariant of changing the size: of the sessions that the pool held at first, it still holds
    the first `kept`, and behind them sessions that came later. -/
theorem Balanced.sessions_serveAll_resize (hb : h.Balanced)
    (hservers : h.allocator.servers = servers) (hdeparted : h.departed = departed) (F : Factory σ)
    (sizes : List Int32) {first later : List PooledSession} {kept : Nat}
    (hpool : h.allocator.pool.sessions = first.take kept ++ later) :
    ∃ created new,
      (h.serveAll F (sizes.map (.reconcile servers))).made = h.made ++ created ∧
        new.Sublist (later ++ created) ∧
        (h.serveAll F (sizes.map (.reconcile servers))).allocator.pool.sessions =
          first.take ((sizes.map (clampSize · - departed)).foldl min kept) ++ new := by
  induction sizes generalizing h later kept with
  | nil => exact ⟨[], later, by simp, by simp, by simpa using hpool⟩
  | cons size sizes ih =>
      obtain ⟨made, hmade, hsessions⟩ := hb.sessions_resize hservers hdeparted F size
      have hservers' : (h.serve F (.reconcile servers size)).allocator.servers = servers :=
        Allocator.servers_reconcile ..
      have hdeparted' : (h.serve F (.reconcile servers size)).departed = departed := by
        simp only [serve_reconcile, if_pos hservers.symm, hdeparted]
      -- what is cut off comes from the back of the later sessions first
      have hcut : (h.serve F (.reconcile servers size)).allocator.pool.sessions =
          first.take (min kept (clampSize size - departed)) ++
            (later.take (clampSize size - departed - (first.take kept).length) ++ made) := by
        rw [hsessions, hpool, List.take_append, List.take_take, Nat.min_comm, List.append_assoc]
      obtain ⟨created, new, hall, hnew, hfinal⟩ :=
        ih (hb.serve F (.reconcile servers size)) hservers' hdeparted' hcut
      refine ⟨made ++ created, new, ?_, ?_, hfinal⟩
      · rw [List.map_cons, serveAll_cons, hall, hmade, List.append_assoc]
      · refine hnew.trans ?_
        rw [List.append_assoc]
        exact (List.take_sublist _ later).append_right _

end Resize

/-- After any changes of the size the pool holds its first sessions, as many as the smallest size
    leaves room for beside the departed ones, and behind them new sessions in order.  So a session
    that was at the front is the next to be claimed if no size fell to the departed sessions. -/
theorem resizing_keeps_oldest (F : Factory σ) (state : σ) (requests : List Request)
    (sizes : List Int32) :
    let h := of F state requests
    let after := h.serveAll F (sizes.map (.reconcile h.allocator.servers))
    let kept := (sizes.map (clampSize · - h.departed)).foldl min h.allocator.pool.size
    (∃ created new, after.made = h.made ++ created ∧ new.Sublist created ∧
      after.allocator.pool.sessions = h.allocator.pool.sessions.take kept ++ new) ∧
    ∀ s, (h.allocator.serve F h.factory .peek).answer = .peeked (some s) →
      (∀ size ∈ sizes, h.departed < clampSize size) →
      ∀ identity, (after.allocator.serve F after.factory (.claim identity)).answer =
        .claimed (some (s.claim identity)) := by
  intro h after kept
  have hb : h.Balanced := balanced_of F state requests
  have hpool : h.allocator.pool.sessions =
      h.allocator.pool.sessions.take h.allocator.pool.size ++ [] := by
    rw [Pool.size, List.take_length, List.append_nil]
  obtain ⟨created, new, hmade, hnew, hsessions⟩ := hb.sessions_serveAll_resize rfl rfl F sizes hpool
  refine ⟨⟨created, new, hmade, hnew, hsessions⟩, ?_⟩
  intro s hpeek hsizes identity
  have hfront : h.allocator.pool.sessions.head? = some s := Answer.peeked.inj hpeek
  obtain ⟨rest, hcons⟩ := List.head?_eq_some_iff.mp hfront
  have hkept : 0 < kept := by
    refine foldl_min_pos ?_ ?_
    · rw [Pool.size, hcons]
      exact Nat.succ_pos _
    · intro n hn
      obtain ⟨size, hsize, rfl⟩ := List.mem_map.mp hn
      exact Nat.sub_pos_of_lt (hsizes size hsize)
  have hafter : after.allocator.pool.sessions = s :: (rest.take (kept - 1) ++ new) := by
    obtain ⟨n, hn⟩ := Nat.exists_eq_succ_of_ne_zero (Nat.pos_iff_ne_zero.mp hkept)
    change after.allocator.pool.sessions = _ at hsessions
    rw [hsessions, hcons]
    change (s :: rest).take kept ++ new = _
    rw [hn]
    rfl
  simp [Allocator.serve, Allocator.claim, Pool.popFront?, hafter]

/-- One of three sessions is claimed, and then the size dips to 2, where one session stays. -/
theorem claim_after_a_dip :
    let F := FactoryPlan.factory {}
    let h := of F {} [.reconcile .empty 3, .claim ⟨"audio", 1, "u", "p"⟩]
    let after := h.serveAll F ([4, 2, 3].map (.reconcile .empty))
    let next := PooledSession.warm ⟨2⟩ .empty .recording
    (h.allocator.serve F h.factory .peek).answer = .peeked (some next) ∧
      (∀ size ∈ ([4, 2, 3] : List Int32), h.departed < clampSize size) ∧
      (after.allocator.serve F after.factory (.claim ⟨"video", 1, "u", "p"⟩)).answer =
        .claimed (some (next.claim ⟨"video", 1, "u", "p"⟩)) := by
  intro F h after next
  have hpeek : (h.allocator.serve F h.factory .peek).answer = .peeked (some next) := by
    decide +kernel
  have hsizes : ∀ size ∈ ([4, 2, 3] : List Int32), h.departed < clampSize size := by
    rw [List.forall_mem_cons, List.forall_mem_cons, List.forall_mem_singleton]
    decide +kernel
  exact ⟨hpeek, hsizes, (resizing_keeps_oldest F {} _ [4, 2, 3]).2 next hpeek hsizes _⟩

end History

end CandidatePool
