import CandidatePool.Proofs.Twin
/-!
Making a failed request again.  A reconciliation that fails leaves the allocator with the servers
and the target asked for and with a part of the sessions.  The same request made again therefore
finds equal servers, removes nothing, and goes on where the first try stopped.

So a caller who makes each failed request again until it succeeds sees what a caller sees whose
factory never fails.  The two runs are compared by a simulation: while the tries of one request go
on, the smooth run is held at the point where its own reconciliation has made as many sessions
(`History.underway`), and serving the request from there comes to the same as serving it at once.
-/

namespace CandidatePool

variable {σ τ : Type}

/-! ### Making a request again -/

namespace History

/-- The history after a request that is made again while it fails, at most `retries` times. -/
def insist (F : Factory σ) : (retries : Nat) → History σ → Request → History σ
  | 0, h, request => h.serve F request
  | retries + 1, h, request =>
    if (h.allocator.serve F h.factory request).answer.isFailure then
      insist F retries (h.serve F request) request
    else h.serve F request

/-- The history after more requests, each made again while it fails. -/
def insistAll (F : Factory σ) (retries : Nat) (h : History σ) (requests : List Request) :
    History σ :=
  requests.foldl (insist F retries) h

end History

/-! ### A reconciliation under way -/

namespace History

/-- The history when a reconciliation has adopted what is asked for and has made `count` sessions,
    and nothing is answered yet. -/
def underway (F : Factory σ) (h : History σ) (servers : Servers) (size : Int32) (count : Nat) :
    History σ :=
  let adoption := h.allocator.adopt servers (clampSize size)
  let series := Series.make F servers count adoption.allocator.nextId h.factory
  { h with
    factory := series.factory
    allocator := (adoption.allocator.absorb series).settle
    made := h.made ++ series.made
    stopped := h.stopped ++ adoption.stopped
    departed := if servers = h.allocator.servers then h.departed else 0 }

/-- How many sessions a reconciliation has to make. -/
def missing (h : History σ) (servers : Servers) (size : Int32) : Nat :=
  clampSize size - (h.allocator.adopt servers (clampSize size)).allocator.pool.created

theorem serve_reconcile_eq_underway (F : Factory σ) (h : History σ) (servers : Servers)
    (size : Int32) :
    h.serve F (.reconcile servers size) =
      { h.underway F servers size (h.missing servers size) with
        answers := h.answers ++
          [.reconciled (h.allocator.reconcile F h.factory servers size).failure] } := by
  rw [serve_reconcile]
  simp only [underway, missing, Allocator.reconcile, Allocator.attempts, Allocator.servers_adopt,
    Allocator.target_adopt]

section Underway

variable {F : Factory σ} {h : History σ} {servers : Servers} {size : Int32} {count : Nat}

theorem servers_underway : (h.underway F servers size count).allocator.servers = servers := by
  simp [underway, Allocator.settle, Allocator.absorb]

theorem target_underway : (h.underway F servers size count).allocator.target = clampSize size := by
  simp [underway, Allocator.settle, Allocator.absorb]

variable (hcount : count ≤ h.missing servers size) (hsome : 0 < h.missing servers size)
  (hok : (Series.make F servers count h.allocator.nextId h.factory).failure = none)

include hok

theorem created_underway :
    (h.underway F servers size count).allocator.pool.created =
      (h.allocator.adopt servers (clampSize size)).allocator.pool.created + count := by
  have hmade : (Series.make F servers count h.allocator.nextId h.factory).made.length = count :=
    (Series.failure_eq_none_iff ..).mp hok
  simp [underway, Allocator.settle, Allocator.absorb, Pool.pushAll, hmade]

include hcount hsome

theorem adopt_underway :
    let held := (h.underway F servers size count).allocator
    (held.adopt servers (clampSize size)).allocator = held ∧
      (held.adopt servers (clampSize size)).stopped = [] := by
  have hle : (h.underway F servers size count).allocator.pool.created ≤
      (h.underway F servers size count).allocator.target := by
    rw [created_underway hok, target_underway]
    simp only [missing] at hcount hsome
    omega
  have hself := Allocator.adopt_self fun hlt => absurd hle (Nat.not_le.mpr hlt)
  rwa [servers_underway, target_underway] at hself

theorem missing_underway :
    (h.underway F servers size count).missing servers size = h.missing servers size - count := by
  rw [missing, (adopt_underway hcount hsome hok).1, created_underway hok, missing]
  omega

/-- Going on from a reconciliation under way is the reconciliation further on. -/
theorem underway_underway (more : Nat) :
    (h.underway F servers size count).underway F servers size more =
      h.underway F servers size (count + more) := by
  obtain ⟨hadopt, hstopped⟩ := adopt_underway hcount hsome hok
  rw [underway, hadopt, hstopped]
  rw [servers_underway, if_pos rfl]
  simp only [underway, Allocator.nextId_adopt, Allocator.nextId_settle, Allocator.nextId_absorb,
    Allocator.absorb_absorb, Series.make_add more hok, List.append_assoc, List.append_nil]

/-- Making the request again, while sessions are missing, comes to the same as never having been
    interrupted. -/
theorem serve_underway :
    (h.underway F servers size count).serve F (.reconcile servers size) =
      h.serve F (.reconcile servers size) := by
  have hmore : count + (h.missing servers size - count) = h.missing servers size := by omega
  have hfailure : ((h.underway F servers size count).allocator.reconcile F
        (h.underway F servers size count).factory servers size).failure =
      (h.allocator.reconcile F h.factory servers size).failure := by
    have hadd := Series.make_add (h.missing servers size - count) hok
    rw [hmore] at hadd
    have hmissing := missing_underway hcount hsome hok
    rw [missing] at hmissing
    rw [Allocator.failure_reconcile, Allocator.failure_reconcile, hmissing]
    change _ = Option.map _ (Series.make F servers (h.missing servers size) _ _).failure
    rw [hadd]
    simp only [underway, Allocator.nextId_settle, Allocator.nextId_absorb, Allocator.nextId_adopt]
  rw [serve_reconcile_eq_underway, serve_reconcile_eq_underway, hfailure,
    missing_underway hcount hsome hok, underway_underway hcount hsome hok, hmore]
  rfl

end Underway

end History

/-! ### The simulation -/

/-- Once a failing attempt is over, fewer are still to come. -/
theorem card_later_lt {failing : Finset Nat} {n m : Nat} (hlt : n < m) (hmem : m ∈ failing) :
    (failing.filter (m < ·)).card < (failing.filter (n < ·)).card := by
  have hsubset : failing.filter (m < ·) ⊆ failing.filter (n < ·) :=
    Finset.monotone_filter_right failing fun i _ hi => hlt.trans hi
  refine Finset.card_lt_card ((Finset.ssubset_iff_of_subset hsubset).mpr ⟨m, ?_, ?_⟩)
  · exact Finset.mem_filter.mpr ⟨hmem, hlt⟩
  · intro hin
    exact Nat.lt_irrefl m (Finset.mem_filter.mp hin).2

/-- The first run is where it would be if the second one had met no error, and both factories are
    about to be asked for the next session. -/
structure History.InStep (F : Factory σ) (G : Factory τ) (failing : Finset Nat) (h : History σ)
    (k : History (τ × List Attempt)) : Prop where
  agrees : h.Agrees (Renumbered failing k.factory.2.length) k
  abreast : Abreast F G failing h.allocator.nextId h.factory k.allocator.nextId k.factory

namespace History.InStep

variable {F : Factory σ} {G : Factory τ} {failing : Finset Nat} {h : History σ}
  {k : History (τ × List Attempt)}

theorem start {state : σ} {state' : τ} (hF : F.NeverFails state)
    (hG : G.FailsExactly failing 0 state') :
    InStep F G failing (.start state) (.start (state', [])) :=
  ⟨⟨⟨rfl, rfl, rfl, rfl, .nil⟩, .nil, .nil, .nil, .nil⟩, .start hF hG⟩

theorem answered (hs : InStep F G failing h k) {x y : Answer}
    (hxy : x.Twin (Renumbered failing k.factory.2.length) y) :
    InStep F G failing { h with answers := h.answers ++ [x] }
      { k with answers := k.answers ++ [y] } :=
  ⟨⟨hs.agrees.allocator, Answer.forall₂_append hs.agrees.answers hxy, hs.agrees.made,
    hs.agrees.handed, hs.agrees.stopped⟩, hs.abreast⟩

/-- An error is not answered on the other side. -/
theorem failed (hs : InStep F G failing h k) {y : Answer} (hy : y.isFailure = true) :
    InStep F G failing h { k with answers := k.answers ++ [y] } := by
  refine ⟨⟨hs.agrees.allocator, ?_, hs.agrees.made, hs.agrees.handed, hs.agrees.stopped⟩,
    hs.abreast⟩
  have hnil : [y].filter (!·.isFailure) = [] := by simp [hy]
  rw [List.filter_append, hnil, List.append_nil]
  exact hs.agrees.answers

theorem missing_eq (hs : InStep F G failing h k) (servers : Servers) (size : Int32) :
    k.missing servers size = h.missing servers size := by
  rw [missing, missing, (hs.agrees.allocator.adopt servers (clampSize size)).1.created]

/-- One try on the second side, and as much of the reconciliation on the first. -/
theorem underway (hs : InStep F G failing h k) (servers : Servers) (size : Int32) :
    let long := Series.make G.recorded servers (k.missing servers size) k.allocator.nextId k.factory
    (Series.make F servers long.made.length h.allocator.nextId h.factory).failure = none ∧
      InStep F G failing (h.underway F servers size long.made.length)
        (k.underway G.recorded servers size (k.missing servers size)) ∧
      (long.failure ≠ none →
        k.factory.2.length < long.factory.2.length ∧ long.factory.2.length ∈ failing) := by
  intro long
  obtain ⟨hok, hlast, hmade, hle, hfail⟩ := hs.abreast.series servers (k.missing servers size)
  have hagrees := hs.agrees.mono fun a b hab => Renumbered.mono hab hle
  obtain ⟨hadopt, hstopped⟩ := hagrees.allocator.adopt servers (clampSize size)
  refine ⟨hok, ⟨?_, ?_⟩, hfail⟩
  · simp only [History.underway, Allocator.nextId_adopt]
    exact ⟨hadopt.absorb hmade, hagrees.answers, List.rel_append hagrees.made hmade,
      hagrees.handed, List.rel_append hagrees.stopped hstopped⟩
  · simp only [History.underway, Allocator.nextId_adopt, Allocator.nextId_settle,
      Allocator.nextId_absorb]
    exact hlast

/-- What comes of one try: either the two runs have both served the request, or the try has failed,
    the first run is held while its reconciliation is under way, and one more failing attempt is
    used up. -/
theorem reconcile (hs : InStep F G failing h k) (servers : Servers) (size : Int32) :
    (k.allocator.serve G.recorded k.factory (.reconcile servers size)).answer.isFailure = false ∧
        InStep F G failing (h.serve F (.reconcile servers size))
          (k.serve G.recorded (.reconcile servers size)) ∨
      (k.allocator.serve G.recorded k.factory (.reconcile servers size)).answer.isFailure = true ∧
        ∃ held, held.serve F (.reconcile servers size) = h.serve F (.reconcile servers size) ∧
          InStep F G failing held (k.serve G.recorded (.reconcile servers size)) ∧
          k.factory.2.length < (k.serve G.recorded (.reconcile servers size)).factory.2.length ∧
          (k.serve G.recorded (.reconcile servers size)).factory.2.length ∈ failing := by
  obtain ⟨hok, hunder, hfail⟩ := hs.underway servers size
  have hmissing := hs.missing_eq servers size
  have hfailure := k.allocator.failure_reconcile G.recorded k.factory servers size
  change _ = Option.map _
    (Series.make G.recorded servers (k.missing servers size) _ _).failure at hfailure
  have hlength := Series.failure_eq_none_iff G.recorded servers (k.missing servers size)
    k.allocator.nextId k.factory
  have hle := Series.length_made_le G.recorded servers (k.missing servers size)
    k.allocator.nextId k.factory
  rw [serve_reconcile_eq_underway G.recorded]
  cases hcase : (Series.make G.recorded servers (k.missing servers size) k.allocator.nextId
      k.factory).failure with
  | none =>
      left
      rw [hcase, Option.map_none] at hfailure
      rw [hlength.mp hcase, hmissing] at hok hunder
      have hsmooth : (h.allocator.reconcile F h.factory servers size).failure = none := by
        rw [Allocator.failure_reconcile, Option.map_eq_none_iff]
        exact hok
      refine ⟨by simp [Allocator.serve, Answer.isFailure, hfailure], ?_⟩
      rw [serve_reconcile_eq_underway F, hfailure, hsmooth, hmissing]
      exact hunder.answered .reconciled
  | some e =>
      right
      rw [hcase, Option.map_some] at hfailure
      have hne : (Series.make G.recorded servers (k.missing servers size) k.allocator.nextId
          k.factory).failure ≠ none := by simp [hcase]
      have hshort : (Series.make G.recorded servers (k.missing servers size) k.allocator.nextId
          k.factory).made.length < h.missing servers size :=
        hmissing ▸ lt_of_le_of_ne hle fun heq => hne (hlength.mpr heq)
      refine ⟨by simp [Allocator.serve, Answer.isFailure, hfailure], _,
        serve_underway hshort.le (Nat.zero_lt_of_lt hshort) hok, hunder.failed ?_, ?_⟩
      · simp [Answer.isFailure, hfailure]
      · simpa only [History.underway, Allocator.nextId_adopt] using hfail hne

theorem claim (hs : InStep F G failing h k) (identity : Identity) :
    InStep F G failing (h.serve F (.claim identity)) (k.serve G.recorded (.claim identity)) := by
  obtain ⟨⟨servers, target, created, statistics, sessions⟩, answers, made, handed, stopped⟩ :=
    hs.agrees
  cases hpool : h.allocator.pool.sessions with
  | nil =>
      rw [hpool, List.forall₂_nil_left_iff] at sessions
      rw [serve_claim_of_nil F identity hpool, serve_claim_of_nil G.recorded identity sessions]
      exact hs.answered (.claimed .none)
  | cons s rest =>
      rw [hpool, List.forall₂_cons_left_iff] at sessions
      obtain ⟨t, rest', hst, hrest, hpool'⟩ := sessions
      rw [serve_claim_of_cons F identity hpool, serve_claim_of_cons G.recorded identity hpool']
      have hanswers := Answer.forall₂_append answers (.claimed (.some (hst.claim identity)))
      refine ⟨⟨⟨servers, target, created, ?_, hrest⟩, hanswers, made, ?_, stopped⟩, hs.abreast⟩
      · simp only [statistics, hrest.length_eq]
      · exact List.rel_append handed (.cons ⟨rfl, hst.claim identity⟩ .nil)

theorem discard (hs : InStep F G failing h k) :
    InStep F G failing (h.serve F .discard) (k.serve G.recorded .discard) := by
  obtain ⟨⟨servers, target, created, statistics, sessions⟩, answers, made, handed, stopped⟩ :=
    hs.agrees
  rw [serve_discard, serve_discard]
  have hanswers := Answer.forall₂_append answers .discarded
  refine ⟨⟨⟨servers, target, created, ?_, .nil⟩, hanswers, made, handed, ?_⟩, hs.abreast⟩
  · simp only [statistics, Pool.size, sessions.length_eq]
  · exact List.rel_append stopped (PooledSession.Twin.map_stop sessions)

theorem peek (hs : InStep F G failing h k) :
    InStep F G failing (h.serve F .peek) (k.serve G.recorded .peek) := by
  rw [serve_peek, serve_peek]
  refine hs.answered (.peeked ?_)
  exact PooledSession.Twin.head? hs.agrees.allocator.sessions

/-- What comes of one try of any request; only a reconciliation can fail. -/
theorem serve (hs : InStep F G failing h k) (request : Request) :
    (k.allocator.serve G.recorded k.factory request).answer.isFailure = false ∧
        InStep F G failing (h.serve F request) (k.serve G.recorded request) ∨
      (k.allocator.serve G.recorded k.factory request).answer.isFailure = true ∧
        ∃ held, held.serve F request = h.serve F request ∧
          InStep F G failing held (k.serve G.recorded request) ∧
          k.factory.2.length < (k.serve G.recorded request).factory.2.length ∧
          (k.serve G.recorded request).factory.2.length ∈ failing := by
  cases request with
  | reconcile servers size => exact hs.reconcile servers size
  | claim identity => exact .inl ⟨rfl, hs.claim identity⟩
  | discard => exact .inl ⟨rfl, hs.discard⟩
  | peek => exact .inl ⟨rfl, hs.peek⟩
  | health =>
      refine .inl ⟨rfl, ?_⟩
      rw [serve_health, serve_health]
      exact hs.answered .told

/-- How many failing attempts are still to come is what bounds the tries. -/
theorem insist (hs : InStep F G failing h k) (request : Request) {retries : Nat}
    (hretries : (failing.filter (k.factory.2.length < ·)).card ≤ retries) :
    InStep F G failing (h.serve F request) (k.insist G.recorded retries request) ∧
      ∃ earlier answer, (k.insist G.recorded retries request).answers = earlier ++ [answer] ∧
        answer.isFailure = false := by
  induction retries generalizing h k with
  | zero =>
      rcases hs.serve request with ⟨hanswer, hserved⟩ | ⟨-, held, -, -, hlt, hmem⟩
      · exact ⟨hserved, k.answers, _, rfl, hanswer⟩
      · have hempty := Finset.card_eq_zero.mp (Nat.le_zero.mp hretries)
        have hin := Finset.mem_filter.mpr ⟨hmem, hlt⟩
        rw [hempty] at hin
        cases hin
  | succ retries ih =>
      rcases hs.serve request with ⟨hanswer, hserved⟩ | ⟨hanswer, held, hheld, hnext, hlt, hmem⟩
      · rw [History.insist, hanswer]
        exact ⟨hserved, k.answers, _, rfl, hanswer⟩
      · rw [History.insist, if_pos hanswer, ← hheld]
        refine ih hnext ?_
        -- the attempt that has just failed does not come again
        have hfewer := card_later_lt hlt hmem
        omega

theorem insistAll (hs : InStep F G failing h k) {retries : Nat} (hretries : failing.card ≤ retries)
    (requests : List Request) :
    InStep F G failing (h.serveAll F requests) (k.insistAll G.recorded retries requests) := by
  induction requests generalizing h k with
  | nil => exact hs
  | cons request later ih =>
      have hfew := (Finset.card_filter_le failing (k.factory.2.length < ·)).trans hretries
      exact ih (hs.insist request hfew).1

end History.InStep

/-! ### Every run -/

namespace History

/-- A run over a factory that fails at finitely many attempts, with each request made again until it
    succeeds, agrees with the run over a factory that never fails.  The tries come to an end, and
    the identifiers correspond by the one numbering that skips the failing attempts. -/
theorem retrying_agrees_with_never_failing (F : Factory σ) (state : σ) (G : Factory τ) (state' : τ)
    (failing : Finset Nat) (retries : Nat) (hF : F.NeverFails state)
    (hG : G.FailsExactly failing 0 state') (hretries : failing.card ≤ retries) :
    ∃ number : Nat → Nat, StrictMono number ∧
      (∀ n, n ∈ Set.range number ↔ n = 0 ∨ n ∉ failing) ∧
      ∀ requests : List Request,
        let smooth := of F state requests
        let rough := (start (state', [])).insistAll G.recorded retries requests
        smooth.Agrees (fun id id' => rough.factory.2.length < 2 ^ 64 - 1 →
          id'.value.toNat = number id.value.toNat) rough ∧
        ∀ request, ∃ earlier answer,
          (rough.insist G.recorded retries request).answers = earlier ++ [answer] ∧
            answer.isFailure = false := by
  refine ⟨renumber failing, strictMono_renumber failing, mem_range_renumber failing, ?_⟩
  intro requests smooth rough
  have hs : InStep F G failing smooth rough := (InStep.start hF hG).insistAll hretries requests
  constructor
  · exact hs.agrees.mono fun id id' hids hattempts => hids.toNat_eq hattempts
  · intro request
    have hfew := (Finset.card_filter_le failing (rough.factory.2.length < ·)).trans hretries
    exact (hs.insist request hfew).2

/-- Two failures, one of them right after the servers were changed. -/
theorem retrying_past_two_failures :
    let plan : FactoryPlan := { failures := [(2, .create "no port"), (5, .resource "busy")] }
    let other : Servers := ⟨.empty, [{ address := "relay", port := 3478 }]⟩
    let requests : List Request :=
      [.reconcile .empty 3, .claim ⟨"audio", 1, "u", "p"⟩, .reconcile other 2, .discard]
    let smooth := of (FactoryPlan.factory {}) {} requests
    let rough := (start ({}, [])).insistAll plan.factory.recorded 2 requests
    ((FactoryPlan.factory {}).NeverFails {} ∧ plan.factory.FailsExactly {2, 5} 0 {} ∧
        ({2, 5} : Finset Nat).card ≤ 2) ∧
      smooth.stopped.map (·.id.value.toNat) = [2, 3, 4, 5] ∧
      rough.stopped.map (·.id.value.toNat) = [3, 4, 6, 7] ∧
      ∃ number : Nat → Nat, StrictMono number ∧
        (∀ n, n ∈ Set.range number ↔ n = 0 ∨ n ∉ ({2, 5} : Finset Nat)) ∧
        smooth.Agrees (fun id id' => rough.factory.2.length < 2 ^ 64 - 1 →
          id'.value.toNat = number id.value.toNat) rough := by
  intro plan other requests smooth rough
  have hF : (FactoryPlan.factory {}).NeverFails {} :=
    .of_failsExactly (Factory.failsExactly_plan {} rfl {})
  have hG : plan.factory.FailsExactly {2, 5} 0 {} := Factory.failsExactly_plan plan rfl {}
  have hcard : ({2, 5} : Finset Nat).card ≤ 2 := by decide
  obtain ⟨number, hmono, hrange, hall⟩ :=
    retrying_agrees_with_never_failing _ _ plan.factory {} {2, 5} 2 hF hG hcard
  exact ⟨⟨hF, hG, hcard⟩, by decide +kernel, by decide +kernel, number, hmono, hrange,
    (hall requests).1⟩

end History

end CandidatePool
