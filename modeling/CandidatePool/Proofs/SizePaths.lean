import CandidatePool.Proofs.History
/-!
Changing the size in steps.  As long as the sizes lead in one direction, a step on the way makes no
difference: what it makes would be made anyway, and what it removes would be removed anyway, so that
the last size alone comes to the same.

On the way up the second step goes on with the series of the first one.  On the way down the second
step goes on with the shrink of the first one, also where that has come to its end early because the
created count consists of departed sessions only: then neither finds anything more to remove.  Other
servers take the created count back to none, so that from there every way leads up.
-/

namespace CandidatePool

variable {σ : Type}

/-- Shrinking to a size on the way down makes no difference, also where there are too few sessions
    to come down to it. -/
theorem Pool.shrink_on_the_way (p : Pool) {mid low : Nat} (hle : low ≤ mid)
    (hmid : mid ≤ p.created) :
    let first := p.shrink (p.created - mid)
    let second := first.1.shrink (first.1.created - low)
    mid ≤ first.1.created ∧ p.shrink (p.created - low) = (second.1, first.2 ++ second.2) := by
  intro first second
  have hcreated : first.1.created = p.created - min (p.created - mid) p.size := by
    simp only [first, shrink, List.length_take, List.length_reverse, size]
  have hsame : min (p.created - low) p.size =
      min (p.created - mid + (first.1.created - low)) p.size := by
    rw [hcreated]
    omega
  obtain ⟨hpool, hstopped⟩ := p.shrink_shrink (p.created - mid) (first.1.created - low)
  constructor
  · rw [hcreated]
    omega
  · rw [← shrink_min, hsame, shrink_min]
    exact Prod.ext hpool hstopped

namespace Allocator

/-! ### Two steps -/

/-- The second of two reconciliations has come to what one has come to at once, and both of them
    together have made and stopped the same sessions as that one. -/
structure Reconciliation.Composes (first second direct : Reconciliation σ) : Prop where
  allocator : second.allocator = direct.allocator
  factory : second.factory = direct.factory
  failure : second.failure = direct.failure
  made : first.made ++ second.made = direct.made
  stopped : first.stopped ++ second.stopped = direct.stopped

section Up

variable {F : Factory σ} {a : Allocator} {state : σ} {servers : Servers} {size₁ size₂ : Int32}

/-- A step up is part of every longer step. -/
theorem failure_of_le (hbase : (a.base servers).created ≤ clampSize size₁)
    (hle : clampSize size₁ ≤ clampSize size₂)
    (hok : (a.reconcile F state servers size₂).failure = none) :
    (a.reconcile F state servers size₁).failure = none := by
  rw [failure_reconcile, missing_adopt, Option.map_eq_none_iff] at hok ⊢
  have hsplit : clampSize size₂ - (a.base servers).created =
      clampSize size₁ - (a.base servers).created + (clampSize size₂ - clampSize size₁) := by
    omega
  rw [hsplit] at hok
  exact Series.failure_of_add hok

variable (hbase : (a.base servers).created ≤ clampSize size₁)
  (hok : (a.reconcile F state servers size₁).failure = none)

include hbase hok

/-- A step up that succeeds leaves as many sessions created as were asked for. -/
theorem created_of_le :
    (a.reconcile F state servers size₁).allocator.pool.created = clampSize size₁ := by
  rw [failure_eq_none_iff] at hok
  rw [created_reconcile, hok, (adopt_of_le hbase).1]
  exact Nat.add_sub_cancel' hbase

variable (hle : clampSize size₁ ≤ clampSize size₂)

include hle

/-- The attempts of a step up go on where those of the step before have ended. -/
theorem make_of_le :
    let first := a.reconcile F state servers size₁
    let second := Series.make F servers (clampSize size₂ - first.allocator.pool.created)
      first.allocator.nextId first.factory
    Series.make F servers (clampSize size₂ - (a.base servers).created) a.nextId state =
      { second with made := first.made ++ second.made } := by
  intro first second
  obtain ⟨hallocator, hfactory, hfailure, hmade, -⟩ := reconcile_of_le F state hbase
  have hcreated : first.allocator.pool.created = clampSize size₁ := created_of_le hbase hok
  have hnextId : first.allocator.nextId = (Series.make F servers
      (clampSize size₁ - (a.base servers).created) a.nextId state).nextId := by
    rw [hallocator]
    rfl
  have hsplit : clampSize size₂ - (a.base servers).created =
      clampSize size₁ - (a.base servers).created + (clampSize size₂ - clampSize size₁) := by
    omega
  simp only [second]
  rw [hsplit, hcreated, hnextId, hfactory, hmade]
  exact Series.make_add _ (Option.map_eq_none_iff.mp (hfailure.symm.trans hok))

/-- Two steps up are one step up. -/
theorem composes_of_le :
    let first := a.reconcile F state servers size₁
    first.Composes (first.allocator.reconcile F first.factory servers size₂)
      (a.reconcile F state servers size₂) := by
  intro first
  have hservers : servers = first.allocator.servers := (servers_reconcile ..).symm
  have hsame : first.allocator.base servers = first.allocator.pool := if_pos hservers
  have hnothing : first.allocator.outdated servers = [] := if_pos hservers
  have hnext : (first.allocator.base servers).created ≤ clampSize size₂ := by
    rw [hsame, created_of_le hbase hok]
    exact hle
  obtain ⟨hallocator₁, -, -, hmade₁, hstopped₁⟩ := reconcile_of_le F state hbase
  obtain ⟨hallocator₂, hfactory₂, hfailure₂, hmade₂, hstopped₂⟩ :=
    reconcile_of_le F first.factory hnext
  obtain ⟨hallocator, hfactory, hfailure, hmade, hstopped⟩ :=
    reconcile_of_le F state (Nat.le_trans hbase hle)
  have hseries := make_of_le hbase hok hle
  rw [hsame] at hallocator₂ hfactory₂ hfailure₂ hmade₂
  -- the second size might as well have been the target from the start
  have hgrown : first.allocator.rebased servers (clampSize size₂) =
      ((a.rebased servers (clampSize size₂)).absorb (Series.make F servers
        (clampSize size₁ - (a.base servers).created) a.nextId state)).settle := by
    rw [rebased, hsame, hnothing, List.length_nil, Statistics.addDestroyed_zero, hallocator₁]
    simp only [settle_absorb, rebased]
  constructor
  · rw [hallocator₂, hgrown, absorb_absorb, hallocator, hseries, hmade₁]
  · rw [hfactory₂, hfactory, hseries]
  · rw [hfailure₂, hfailure, hseries]
  · rw [hmade₂, hmade, hseries]
  · rw [hstopped₁, hstopped₂, hstopped, hnothing, List.map_nil, List.append_nil]

end Up

section Down

variable (F : Factory σ) {a : Allocator} (state : σ) {servers : Servers} {size₁ size₂ : Int32}

/-- A step down shrinks the pool, and does nothing else. -/
theorem reconcile_of_shrink (hservers : servers = a.servers)
    (hdown : clampSize size₁ ≤ a.pool.created) :
    let shrunk := a.pool.shrink (a.pool.created - clampSize size₁)
    let r := a.reconcile F state servers size₁
    r.allocator =
        { a with
          target := clampSize size₁
          pool := shrunk.1
          statistics := (a.statistics.addDestroyed shrunk.2.length).setPooled shrunk.1.size } ∧
      r.factory = state ∧ r.failure = none ∧ r.made = [] ∧ r.stopped = shrunk.2 := by
  intro shrunk r
  have hbase : clampSize size₁ ≤ (a.base servers).created := by
    rw [base, if_pos hservers]
    exact hdown
  obtain ⟨hallocator, hrest⟩ := reconcile_of_ge F state hbase
  obtain ⟨hadopt, hstopped⟩ := adopt_of_eq (clampSize size₁) hservers
  rw [hadopt] at hallocator
  rw [hstopped] at hrest
  exact ⟨hallocator, hrest⟩

/-- Two steps down are one step down. -/
theorem composes_of_ge (hservers : servers = a.servers) (hmid : clampSize size₁ ≤ a.pool.created)
    (hle : clampSize size₂ ≤ clampSize size₁) :
    let first := a.reconcile F state servers size₁
    first.Composes (first.allocator.reconcile F first.factory servers size₂)
      (a.reconcile F state servers size₂) := by
  intro first
  obtain ⟨hreached, hshrink⟩ := a.pool.shrink_on_the_way hle hmid
  obtain ⟨hallocator₁, hfactory₁, -, hmade₁, hstopped₁⟩ :=
    reconcile_of_shrink F state hservers hmid
  have hpool : first.allocator.pool = (a.pool.shrink (a.pool.created - clampSize size₁)).1 :=
    congrArg (·.pool) hallocator₁
  rw [← hpool] at hreached hshrink
  obtain ⟨hallocator₂, hfactory₂, hfailure₂, hmade₂, hstopped₂⟩ :=
    reconcile_of_shrink F first.factory (a := first.allocator)
      (servers_reconcile ..).symm (Nat.le_trans hle hreached)
  obtain ⟨hallocator, hfactory, hfailure, hmade, hstopped⟩ :=
    reconcile_of_shrink F state hservers (Nat.le_trans hle hmid)
  rw [hshrink] at hallocator hstopped
  constructor
  · rw [hallocator₂, hallocator, List.length_append, Statistics.addDestroyed_add, hallocator₁]
    rfl
  · rw [hfactory₂, hfactory₁, hfactory]
  · rw [hfailure₂, hfailure]
  · rw [hmade₁, hmade₂, hmade, List.append_nil]
  · rw [hstopped₁, hstopped₂, hstopped]

end Down

/-! ### One direction -/

/-- The sizes asked for under servers lead in one direction, from where the allocator stands.  Other
    servers than those in effect let it start from none. -/
inductive OneWay (a : Allocator) (servers : Servers) (targets : List Nat) : Prop where
  | anew (hservers : servers ≠ a.servers) (hup : targets.Pairwise (· ≤ ·))
  | rising (hservers : servers = a.servers) (hup : (a.pool.created :: targets).Pairwise (· ≤ ·))
  | falling (hservers : servers = a.servers) (hdown : (a.pool.created :: targets).Pairwise (· ≥ ·))

namespace OneWay

variable {a : Allocator} {servers : Servers} {targets : List Nat} {size₁ size₂ : Int32}

theorem up_or_down (hway : OneWay a servers targets) :
    ((a.base servers).created :: targets).Pairwise (· ≤ ·) ∨
      servers = a.servers ∧ (a.pool.created :: targets).Pairwise (· ≥ ·) := by
  cases hway with
  | anew hservers hup =>
      left
      rw [base, if_neg hservers, List.pairwise_cons]
      exact ⟨fun target _ => Nat.zero_le target, hup⟩
  | rising hservers hup =>
      left
      rw [base, if_pos hservers]
      exact hup
  | falling hservers hdown =>
      right
      exact ⟨hservers, hdown⟩

/-- The first step can only fail if going to a later size at once fails; and when it has succeeded,
    the later size comes to the same from there, and the rest still leads in one direction. -/
theorem step (hway : OneWay a servers (clampSize size₁ :: targets))
    (hlater : clampSize size₂ ∈ targets) (F : Factory σ) (state : σ) :
    let first := a.reconcile F state servers size₁
    let direct := a.reconcile F state servers size₂
    (direct.failure = none → first.failure = none) ∧
      (first.failure = none →
        first.Composes (first.allocator.reconcile F first.factory servers size₂) direct ∧
          OneWay first.allocator servers targets) := by
  intro first direct
  have hservers : servers = first.allocator.servers := (servers_reconcile ..).symm
  rcases hway.up_or_down with hup | ⟨hsame, hdown⟩
  · rw [List.pairwise_cons, List.forall_mem_cons] at hup
    obtain ⟨⟨hbase, -⟩, hsteps⟩ := hup
    have hle : clampSize size₁ ≤ clampSize size₂ := (List.pairwise_cons.mp hsteps).1 _ hlater
    refine ⟨failure_of_le hbase hle, ?_⟩
    intro hok
    refine ⟨composes_of_le hbase hok hle, .rising hservers ?_⟩
    rw [created_of_le hbase hok]
    exact hsteps
  · rw [List.pairwise_cons, List.forall_mem_cons] at hdown
    obtain ⟨⟨hmid, -⟩, hsteps⟩ := hdown
    rw [List.pairwise_cons] at hsteps
    obtain ⟨hallocator, -, hok, -⟩ := reconcile_of_shrink F state hsame hmid
    have hreached : clampSize size₁ ≤ first.allocator.pool.created := by
      rw [hallocator]
      exact (a.pool.shrink_on_the_way (Nat.le_refl _) hmid).1
    refine ⟨fun _ => hok, ?_⟩
    intro _
    refine ⟨composes_of_ge F state hsame hmid (hsteps.1 _ hlater), .falling hservers ?_⟩
    rw [List.pairwise_cons]
    exact ⟨fun target htarget => Nat.le_trans (hsteps.1 target htarget) hreached, hsteps.2⟩

end OneWay

end Allocator

/-! ### Every run -/

namespace History

variable {F : Factory σ} {h : History σ} {servers : Servers}

/-- Two histories that differ in nothing but in what was answered. -/
structure SameEffect (h k : History σ) : Prop where
  factory : h.factory = k.factory
  allocator : h.allocator = k.allocator
  made : h.made = k.made
  handed : h.handed = k.handed
  stopped : h.stopped = k.stopped
  departed : h.departed = k.departed

namespace SameEffect

theorem refl (h : History σ) : SameEffect h h := ⟨rfl, rfl, rfl, rfl, rfl, rfl⟩

theorem trans {h k l : History σ} (hk : SameEffect h k) (kl : SameEffect k l) : SameEffect h l :=
  ⟨hk.factory.trans kl.factory, hk.allocator.trans kl.allocator, hk.made.trans kl.made,
    hk.handed.trans kl.handed, hk.stopped.trans kl.stopped, hk.departed.trans kl.departed⟩

/-- Two steps that come to the same as one leave the same history, but for one answer more. -/
theorem of_composes {size₁ size₂ : Int32}
    (hcomposes : (h.allocator.reconcile F h.factory servers size₁).Composes
      ((h.serve F (.reconcile servers size₁)).allocator.reconcile F
        (h.serve F (.reconcile servers size₁)).factory servers size₂)
      (h.allocator.reconcile F h.factory servers size₂)) :
    SameEffect ((h.serve F (.reconcile servers size₁)).serve F (.reconcile servers size₂))
      (h.serve F (.reconcile servers size₂)) := by
  have hservers : servers = (h.serve F (.reconcile servers size₁)).allocator.servers :=
    (Allocator.servers_reconcile ..).symm
  constructor
  · exact hcomposes.factory
  · exact hcomposes.allocator
  · change (h.made ++ _) ++ _ = h.made ++ _
    rw [List.append_assoc]
    exact congrArg (h.made ++ ·) hcomposes.made
  · rw [serve_reconcile, serve_reconcile, serve_reconcile]
  · change (h.stopped ++ _) ++ _ = h.stopped ++ _
    rw [List.append_assoc]
    exact congrArg (h.stopped ++ ·) hcomposes.stopped
  · exact if_pos hservers

end SameEffect

/-- A path of sizes in one direction succeeds exactly when its last size would succeed at once, and
    then it comes to the same as that. -/
theorem serveAll_oneWay {sizes : List Int32} {size : Int32}
    (hway : Allocator.OneWay h.allocator servers ((sizes ++ [size]).map clampSize)) :
    let path := (sizes ++ [size]).map (Request.reconcile servers)
    let direct := h.allocator.reconcile F h.factory servers size
    (direct.failure = none ↔ ∀ outcome ∈ h.outcomes F path, outcome.answer = .reconciled none) ∧
      (direct.failure = none →
        SameEffect (h.serveAll F path) (h.serve F (.reconcile servers size))) := by
  induction sizes generalizing h with
  | nil =>
      intro path direct
      refine ⟨?_, fun _ => SameEffect.refl _⟩
      change _ ↔ ∀ outcome ∈ [h.allocator.serve F h.factory (.reconcile servers size)], _
      rw [List.forall_mem_singleton, Allocator.answer_eq_reconciled_iff]
  | cons size₁ sizes ih =>
      intro path direct
      have hlast : clampSize size ∈ (sizes ++ [size]).map clampSize :=
        List.mem_map_of_mem List.mem_concat_self
      obtain ⟨hbefore, hafter⟩ := hway.step hlast F h.factory
      let first := h.serve F (.reconcile servers size₁)
      have hpath : (∀ outcome ∈ h.outcomes F path, outcome.answer = .reconciled none) ↔
          (h.allocator.reconcile F h.factory servers size₁).failure = none ∧
            ∀ outcome ∈ first.outcomes F ((sizes ++ [size]).map (Request.reconcile servers)),
              outcome.answer = .reconciled none := by
        change (∀ outcome ∈ h.allocator.serve F h.factory (.reconcile servers size₁) :: _, _) ↔ _
        rw [List.forall_mem_cons, Allocator.answer_eq_reconciled_iff]
        rfl
      constructor
      · rw [hpath]
        constructor
        · intro hok
          obtain ⟨hcomposes, hrest⟩ := hafter (hbefore hok)
          refine ⟨hbefore hok, (ih (h := first) hrest).1.mp ?_⟩
          exact hcomposes.failure.trans hok
        · rintro ⟨hfirst, hlater⟩
          obtain ⟨hcomposes, hrest⟩ := hafter hfirst
          exact hcomposes.failure.symm.trans ((ih (h := first) hrest).1.mpr hlater)
      · intro hok
        obtain ⟨hcomposes, hrest⟩ := hafter (hbefore hok)
        refine ((ih (h := first) hrest).2 ?_).trans (.of_composes hcomposes)
        exact hcomposes.failure.trans hok

/-- Changing the size in steps that lead in one direction.  The steps succeed exactly when the last
    size would at once; and if so, they leave the allocator as that would leave it, with the same
    sessions made and stopped.  This holds for two steps, under other servers or the same ones, and
    for any number of them. -/
theorem sizes_in_steps (F : Factory σ) (state : σ) (requests : List Request) (servers : Servers) :
    let h := of F state requests
    (∀ size₁ size₂ : Int32,
      (servers ≠ h.allocator.servers ∧ clampSize size₁ ≤ clampSize size₂ ∨
        servers = h.allocator.servers ∧ h.allocator.pool.created ≤ clampSize size₁ ∧
          clampSize size₁ ≤ clampSize size₂ ∨
        servers = h.allocator.servers ∧ clampSize size₂ ≤ clampSize size₁ ∧
          clampSize size₁ ≤ h.allocator.pool.created) →
      let first := h.allocator.serve F h.factory (.reconcile servers size₁)
      let second := first.allocator.serve F first.factory (.reconcile servers size₂)
      let direct := h.allocator.serve F h.factory (.reconcile servers size₂)
      (direct.answer = .reconciled none ↔
        first.answer = .reconciled none ∧ second.answer = .reconciled none) ∧
      (direct.answer = .reconciled none →
        second.allocator = direct.allocator ∧ second.factory = direct.factory ∧
          first.made ++ second.made = direct.made ∧
          first.stopped ++ second.stopped = direct.stopped)) ∧
    ∀ (sizes : List Int32) (size : Int32),
      Allocator.OneWay h.allocator servers ((sizes ++ [size]).map clampSize) →
      let path := (sizes ++ [size]).map (Request.reconcile servers)
      let direct := h.allocator.serve F h.factory (.reconcile servers size)
      (direct.answer = .reconciled none ↔
        ∀ outcome ∈ h.outcomes F path, outcome.answer = .reconciled none) ∧
      (direct.answer = .reconciled none →
        SameEffect (h.serveAll F path) (h.serve F (.reconcile servers size))) := by
  intro h
  constructor
  · intro size₁ size₂ hsizes first second direct
    have hway : Allocator.OneWay h.allocator servers [clampSize size₁, clampSize size₂] := by
      rcases hsizes with ⟨hother, hup⟩ | ⟨hsame, hbase, hup⟩ | ⟨hsame, hdown, hmid⟩
      · refine .anew hother ?_
        rw [List.pairwise_pair]
        exact hup
      · refine .rising hsame ?_
        rw [List.pairwise_cons, List.forall_mem_cons, List.forall_mem_singleton, List.pairwise_pair]
        exact ⟨⟨hbase, Nat.le_trans hbase hup⟩, hup⟩
      · refine .falling hsame ?_
        rw [List.pairwise_cons, List.forall_mem_cons, List.forall_mem_singleton, List.pairwise_pair]
        exact ⟨⟨hmid, Nat.le_trans hdown hmid⟩, hdown⟩
    obtain ⟨hbefore, hafter⟩ := hway.step List.mem_cons_self F h.factory
    simp only [first, second, direct, Allocator.answer_eq_reconciled_iff]
    constructor
    · constructor
      · intro hok
        exact ⟨hbefore hok, (hafter (hbefore hok)).1.failure.trans hok⟩
      · rintro ⟨hfirst, hsecond⟩
        exact (hafter hfirst).1.failure.symm.trans hsecond
    · intro hok
      have hcomposes := (hafter (hbefore hok)).1
      exact ⟨hcomposes.allocator, hcomposes.factory, hcomposes.made, hcomposes.stopped⟩
  · intro sizes size hway path direct
    rw [Allocator.answer_eq_reconciled_iff]
    exact serveAll_oneWay hway

/-- Two of three sessions are claimed, so that only one can be removed: the first step down removes it,
    and the steps behind it find the pool empty. -/
theorem sizes_in_steps_after_claims :
    let F := FactoryPlan.factory {}
    let audio : Identity := ⟨"audio", 1, "u", "p"⟩
    let other : Servers := ⟨.empty, [{ address := "relay", port := 3478 }]⟩
    let h := of F {} [.reconcile .empty 3, .claim audio, .claim audio]
    let direct (servers : Servers) (size : Int32) :=
      h.allocator.serve F h.factory (.reconcile servers size)
    let stepped (servers : Servers) (size₁ size₂ : Int32) :=
      (direct servers size₁).allocator.serve F (direct servers size₁).factory
        (.reconcile servers size₂)
    (other ≠ h.allocator.servers ∧ .empty = h.allocator.servers ∧ h.allocator.pool.created = 3) ∧
      (direct other 2).answer = .reconciled none ∧
      (direct .empty 6).answer = .reconciled none ∧
      (stepped other 1 2).allocator = (direct other 2).allocator ∧
      (stepped .empty 4 6).allocator = (direct .empty 6).allocator ∧
      (direct .empty 2).stopped ++ (stepped .empty 2 0).stopped = (direct .empty 0).stopped ∧
      (direct .empty 0).stopped = [(PooledSession.warm ⟨3⟩ .empty .recording).stop] ∧
      Allocator.OneWay h.allocator .empty ((([2, 1] : List Int32) ++ [0]).map clampSize) ∧
      SameEffect (h.serveAll F ((([2, 1] : List Int32) ++ [0]).map (.reconcile .empty)))
        (h.serve F (.reconcile .empty 0)) := by
  intro F audio other h direct stepped
  have hother : other ≠ h.allocator.servers := by decide +kernel
  have hsame : .empty = h.allocator.servers := by decide +kernel
  have hcreated : h.allocator.pool.created = 3 := by decide +kernel
  have hok : (direct other 2).answer = .reconciled none := by decide +kernel
  have hok' : (direct .empty 6).answer = .reconciled none := by decide +kernel
  have hok'' : (direct .empty 0).answer = .reconciled none := by decide +kernel
  have hdown : Allocator.OneWay h.allocator .empty ((([2, 1] : List Int32) ++ [0]).map clampSize) :=
    .falling hsame (by decide +kernel)
  obtain ⟨htwo, -⟩ := sizes_in_steps F {} [.reconcile .empty 3, .claim audio, .claim audio] other
  obtain ⟨htwo', hpath⟩ :=
    sizes_in_steps F {} [.reconcile .empty 3, .claim audio, .claim audio] .empty
  have hanew := (htwo 1 2 (.inl ⟨hother, by decide +kernel⟩)).2 hok
  have hrising := (htwo' 4 6 (.inr (.inl ⟨hsame, by decide +kernel⟩))).2 hok'
  have hfalling := (htwo' 2 0 (.inr (.inr ⟨hsame, by decide +kernel⟩))).2 hok''
  exact ⟨⟨hother, hsame, hcreated⟩, hok, hok', hanew.1, hrising.1, hfalling.2.2.2,
    by decide +kernel, hdown, (hpath [2, 1] 0 hdown).2 hok''⟩

end History

end CandidatePool
