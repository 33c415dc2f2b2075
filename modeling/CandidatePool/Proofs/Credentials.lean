import CandidatePool.Program.Run
import CandidatePool.Proofs.Likeness
/-!
Credentials stay out of sight.  Names and passwords of relays and of claims do have effects: other
credentials are other servers, and a change of servers clears the pool.  So two runs can only be
compared if credentials that were equal stay equal and different ones stay different.  When they do,
the two logs agree line by line.

A dry run applies one configuration to a new allocator, so that all which counts is whether there are
any servers.  Hence it may be given any other credentials, and it prints the same lines.
-/

namespace CandidatePool

variable {σ : Type}

/-! ### Servers without their credentials -/

def Relay.redacted (r : Relay) : Relay := { r with username := "", password := "" }

def Servers.redacted (s : Servers) : Servers := { s with relays := s.relays.map Relay.redacted }

def Settings.redacted (s : Settings) : Settings := { s with relays := s.relays.map Relay.redacted }

def Identity.redacted (i : Identity) : Identity := { i with ufrag := "", password := "" }

/-- A relay under a renaming of names with their passwords. -/
def Relay.rename (f : String × String → String × String) (r : Relay) : Relay :=
  { r with username := (f (r.username, r.password)).1, password := (f (r.username, r.password)).2 }

def Servers.rename (f : String × String → String × String) (s : Servers) : Servers :=
  { s with relays := s.relays.map (Relay.rename f) }

namespace Relay

@[simp] theorem text_redacted (r : Relay) : r.redacted.text = r.text := rfl

@[simp] theorem fault?_redacted (r : Relay) : r.redacted.fault? = r.fault? := rfl

variable {f : String × String → String × String}

@[simp] theorem redacted_rename (r : Relay) : (r.rename f).redacted = r.redacted := rfl

theorem rename_injective (hf : Function.Injective f) : Function.Injective (rename f) := by
  rintro ⟨address, port, username, password, transport, secure⟩
    ⟨address', port', username', password', transport', secure'⟩ heq
  simp only [rename, Relay.mk.injEq] at heq
  obtain ⟨rfl, rfl, hname, hpassword, rfl, rfl⟩ := heq
  have hpair := hf (Prod.ext hname hpassword)
  rw [Prod.mk.injEq] at hpair
  obtain ⟨rfl, rfl⟩ := hpair
  rfl

end Relay

namespace Servers

theorem relayTexts_redacted (s : Servers) : s.redacted.relayTexts = s.relayTexts := by
  simp [relayTexts, redacted]

/-- Whether there are any servers does not hang on their credentials. -/
theorem redacted_eq_empty_iff (s : Servers) : s.redacted = .empty ↔ s = .empty := by
  obtain ⟨stun, relays⟩ := s
  simp [redacted, empty]

variable {f : String × String → String × String}

@[simp] theorem redacted_rename (s : Servers) : (s.rename f).redacted = s.redacted := by
  simp [redacted, rename]

theorem rename_injective (hf : Function.Injective f) : Function.Injective (rename f) := by
  rintro ⟨stun, relays⟩ ⟨stun', relays'⟩ heq
  simp only [rename, Servers.mk.injEq] at heq
  obtain ⟨rfl, hrelays⟩ := heq
  rw [List.map_injective_iff.mpr (Relay.rename_injective hf) hrelays]

end Servers

namespace Settings

theorem fault?_redacted (s : Settings) : s.redacted.fault? = s.fault? := by
  simp [fault?, redacted, List.findSome?_map, Function.comp_def]

theorem fault?_eq_of_redacted {s t : Settings} (h : t.redacted = s.redacted) :
    t.fault? = s.fault? := by
  rw [← t.fault?_redacted, ← s.fault?_redacted, h]

theorem servers_redacted (s : Settings) : s.redacted.servers = s.servers.redacted := rfl

end Settings

/-! ### Runs that differ in credentials -/

/-- Servers may differ as is said; identities may differ in their credentials, and what factories come
    up with in what no log shows. -/
def Likeness.unseen (servers : Servers → Servers → Prop) : Likeness where
  servers
  identities i j := j.redacted = i.redacted
  kinds k l := l.logsStart = k.logsStart
  errors d e := e.message = d.message

/-- From here on, whether an attempt fails, and with which text, does not hang on the credentials of
    the servers that the factory was asked with. -/
def Factory.IgnoresCredentials (F : Factory σ) (state : σ) : Prop :=
  (Likeness.unseen fun s t => t.redacted = s.redacted).Factories F F state state

/-- The second request asks for the same as the first, with the relays' credentials renamed and with
    any others for a claim. -/
def Request.Renamed (f : String × String → String × String) : Request → Request → Prop :=
  (Likeness.unseen fun s t => t = s.rename f).Requests

namespace Likeness

theorem silent_unseen {servers : Servers → Servers → Prop}
    (h : ∀ s t, servers s t → t.redacted = s.redacted) : (unseen servers).Silent where
  counts s t hst := by
    have hredacted := h s t hst
    simp only [Servers.redacted, Servers.mk.injEq] at hredacted
    refine ⟨congrArg _ hredacted.1, ?_⟩
    simpa using congrArg List.length hredacted.2
  identities i j hij := by
    simp only [unseen, Identity.redacted, Identity.mk.injEq] at hij
    exact ⟨hij.1, hij.2.1⟩
  starts _ _ hkl := hkl
  messages _ _ hde := hde

theorem unseen_results_refl (servers : Servers → Servers → Prop)
    (r : Except SessionError SessionKind) : (unseen servers).Results r r := by
  cases r with
  | ok kind => exact .ok rfl
  | error e => exact .error rfl

/-- Factories that answer alike however they are asked answer alike when less is asked of them. -/
theorem factories_unseen_mono {F : Factory σ} {state : σ} {R R' : Servers → Servers → Prop}
    (himp : ∀ s t, R' s t → R s t) (h : (unseen R).Factories F F state state) :
    (unseen R').Factories F F state state := by
  intro asked asked' hasked id servers servers' hservers
  have hwider := hasked.imp fun p q hpq => And.intro hpq.1 (himp _ _ hpq.2)
  have hresult := h asked asked' hwider id servers servers' (himp _ _ hservers)
  generalize (F id servers (F.after state asked)).1 = r,
    (F id servers' (F.after state asked')).1 = r' at hresult ⊢
  cases hresult with
  | ok hkinds => exact .ok hkinds
  | error herrors => exact .error herrors

end Likeness

theorem FactoryPlan.ignoresCredentials (plan : FactoryPlan) (counters : FactoryCounters) :
    plan.factory.IgnoresCredentials counters := by
  intro asked asked' hasked id servers servers' hservers
  have hafter : plan.factory.after counters asked' = plan.factory.after counters asked := by
    induction hasked generalizing counters with
    | nil => rfl
    | cons hhead htail ih => exact ih _
  rw [hafter]
  exact Likeness.unseen_results_refl ..

theorem History.map_log_renamed {F : Factory σ} {state : σ} (hF : F.IgnoresCredentials state)
    {f : String × String → String × String} (hf : Function.Injective f)
    {requests requests' : List Request}
    (hrequests : List.Forall₂ (Request.Renamed f) requests requests') :
    ((start state).outcomes F requests').map Outcome.log =
      ((start state).outcomes F requests).map Outcome.log := by
  let L := Likeness.unseen fun s t => t = s.rename f
  have hredacted : ∀ s t : Servers, t = s.rename f → t.redacted = s.redacted := by
    rintro s t rfl
    exact s.redacted_rename
  have hunique : Relator.BiUnique L.servers := by
    refine ⟨?_, ?_⟩
    · intro s t u hs ht
      exact Servers.rename_injective hf (hs.symm.trans ht)
    · intro s t u ht hu
      exact ht.trans hu.symm
  have hfactories : L.Factories F F state state := Likeness.factories_unseen_mono hredacted hF
  have hnew : L.Allocators {} {} := ⟨rfl, rfl, rfl, rfl, .nil⟩
  exact Likeness.map_log_outcomes hunique (Likeness.silent_unseen hredacted) hnew rfl hfactories
    hrequests

/-! ### The program -/

namespace Program

/-- A dry run reports the same on settings that differ in credentials only. -/
theorem report_eq_of_redacted {s t : Settings} (h : t.redacted = s.redacted) (path : String) :
    report path t = report path s := by
  -- no renaming here: the only comparison of servers is with none at all
  let L := Likeness.unseen fun u v => v.redacted = u.redacted
  have hservers : t.servers.redacted = s.servers.redacted := by
    rw [← Settings.servers_redacted, ← Settings.servers_redacted, h]
  have hsize : t.poolSize = s.poolSize := by
    change t.redacted.poolSize = s.redacted.poolSize
    rw [h]
  have hempty : s.servers = ({} : Allocator).servers ↔ t.servers = ({} : Allocator).servers := by
    change s.servers = .empty ↔ t.servers = .empty
    rw [← s.servers.redacted_eq_empty_iff, ← t.servers.redacted_eq_empty_iff, hservers]
  have hnew : L.Allocators {} {} := ⟨rfl, rfl, rfl, rfl, .nil⟩
  have hfactory : L.Factories ({} : FactoryPlan).factory ({} : FactoryPlan).factory {} {} :=
    FactoryPlan.ignoresCredentials {} {}
  have hsilent : L.Silent := Likeness.silent_unseen fun _ _ huv => huv
  obtain ⟨hcounts, hlog⟩ := hnew.log_reconcile hsilent rfl hfactory hservers hempty s.poolSize
  have hlines : serverLines t.servers = serverLines s.servers := by
    have hstun : t.servers.redacted.stun = s.servers.redacted.stun := by rw [hservers]
    have htexts : t.servers.redacted.relayTexts = s.servers.redacted.relayTexts := by rw [hservers]
    rw [Servers.relayTexts_redacted, Servers.relayTexts_redacted] at htexts
    change t.servers.stun = s.servers.stun at hstun
    rw [serverLines, serverLines, hstun, htexts]
  simp only [Allocator.serve, Outcome.log] at hcounts hlog
  simp only [report, hsize, hlog, Allocator.servers_reconcile, hlines, summary,
    Allocator.target_reconcile, hcounts]

end Program

/-- A file that holds settings, as a text that says them. -/
def Settings.HeldAt (s : Settings) (read : ReadFile) (path : String) : Prop :=
  ∃ bytes text, read path = .ok bytes ∧ String.fromUTF8? bytes = some text ∧
    Settings.parse? text = some s

theorem Settings.load_of_heldAt {s : Settings} {read : ReadFile} {path : String}
    (h : s.HeldAt read path) : load read path = checked path s := by
  obtain ⟨bytes, text, hbytes, htext, hparse⟩ := h
  simp [load, readText, hbytes, htext, hparse, bind, Except.bind]

theorem Settings.heldAt_of_parse {s : Settings} {text : String} (h : parse? text = some s)
    (path : String) : s.HeldAt (fun _ => .ok text.toUTF8) path :=
  ⟨text.toUTF8, text, rfl, dif_pos text.isValidUTF8, h⟩

theorem Program.run_eq_of_redacted {read read' : ReadFile}
    (hfiles : ∀ path, read' path = read path ∨ ∃ s t : Settings, t.redacted = s.redacted ∧
      s.HeldAt read path ∧ t.HeldAt read' path) (arguments : List String) :
    run read' arguments = run read arguments := by
  unfold run
  split
  · rfl
  · rfl
  · rfl
  · -- the path is the same, so a message can differ only in the fault
    rename_i options hoptions
    rcases hfiles options.config with heq | ⟨s, t, hst, hs, ht⟩
    · have hload : Settings.load read' options.config = Settings.load read options.config := by
        simp only [Settings.load, Settings.readText, heq]
      rw [hload]
    · rw [Settings.load_of_heldAt hs, Settings.load_of_heldAt ht, Settings.checked, Settings.checked,
        Settings.fault?_eq_of_redacted hst]
      cases s.fault? with
      | some fault => rfl
      | none => simp only [report_eq_of_redacted hst]

/-- Whoever sees no more than the log of an allocator, the text of a fault, the text of a relay or
    what a dry run prints does not see any credentials: with other credentials all of these are the
    same.  In runs of an allocator it has to be other credentials throughout, and different ones for
    different ones, since a change of credentials is a change of servers. -/
theorem credentials_stay_out_of_sight (F : Factory σ) (state : σ) (hF : F.IgnoresCredentials state)
    (f : String × String → String × String) (hf : Function.Injective f)
    (requests requests' : List Request)
    (hrequests : List.Forall₂ (Request.Renamed f) requests requests') :
    ((History.start state).outcomes F requests').map Outcome.log =
      ((History.start state).outcomes F requests).map Outcome.log ∧
    (∀ s t : Settings, t.redacted = s.redacted →
      t.fault? = s.fault? ∧ t.fault?.map (·.message) = s.fault?.map (·.message) ∧
        t.relays.map (·.text) = s.relays.map (·.text)) ∧
    ∀ read read' : ReadFile, (∀ path, read' path = read path ∨ ∃ s t : Settings,
        t.redacted = s.redacted ∧ s.HeldAt read path ∧ t.HeldAt read' path) →
      ∀ arguments, (Program.run read' arguments).stdout = (Program.run read arguments).stdout ∧
        (Program.run read' arguments).stderr = (Program.run read arguments).stderr ∧
        (Program.run read' arguments).code = (Program.run read arguments).code := by
  refine ⟨History.map_log_renamed hF hf hrequests, ?_, ?_⟩
  · intro s t hst
    have hfault := Settings.fault?_eq_of_redacted hst
    refine ⟨hfault, by rw [hfault], ?_⟩
    have htexts := congrArg (fun u : Settings => u.relays.map (·.text)) hst
    simpa [Settings.redacted, Function.comp_def] using htexts
  · intro read read' hfiles arguments
    rw [Program.run_eq_of_redacted hfiles]
    exact ⟨rfl, rfl, rfl⟩

/-- A relay's password is changed in a run with a failure, and names and passwords are swapped in the
    other run; and a dry run prints the same when the file has another password. -/
theorem credentials_out_of_sight_when_swapped :
    let F := FactoryPlan.factory { failures := [(2, .create "no port")] }
    let relay (username password : String) : Relay :=
      { address := "relay", port := 3478, username, password }
    let servers (username password : String) : Servers := ⟨.empty, [relay username password]⟩
    let requests : List Request := [.reconcile (servers "alice" "old") 2,
      .claim ⟨"audio", 1, "u", "p"⟩, .reconcile (servers "alice" "new") 1]
    let requests' : List Request := [.reconcile (servers "old" "alice") 2,
      .claim ⟨"audio", 1, "v", "q"⟩, .reconcile (servers "new" "alice") 1]
    let text (password : String) : String :=
      "allocator.turn_servers = [['relay', 3478, 'alice', '" ++ password ++ "']]"
    let file (password : String) : ReadFile := fun _ => .ok (text password).toUTF8
    let arguments := ["--config", "pool.toml"]
    F.IgnoresCredentials {} ∧ Function.Injective (@Prod.swap String String) ∧
      List.Forall₂ (Request.Renamed Prod.swap) requests requests' ∧
      ((History.start {}).outcomes F requests').map Outcome.log =
        ((History.start {}).outcomes F requests).map Outcome.log ∧
      Settings.parse? (text "old") = some { relays := [relay "alice" "old"] } ∧
      Settings.parse? (text "new") = some { relays := [relay "alice" "new"] } ∧
      (Program.run (file "old") arguments).code = 0 ∧
      (Program.run (file "new") arguments).stdout = (Program.run (file "old") arguments).stdout := by
  intro F relay servers requests requests' text file arguments
  have hF : F.IgnoresCredentials {} := FactoryPlan.ignoresCredentials _ _
  have hf : Function.Injective (@Prod.swap String String) := Prod.swap_injective
  have hrequests : List.Forall₂ (Request.Renamed Prod.swap) requests requests' :=
    .cons (.reconcile rfl 2) (.cons (.claim rfl) (.cons (.reconcile rfl 1) .nil))
  have hold : Settings.parse? (text "old") = some { relays := [relay "alice" "old"] } := by
    decide +kernel
  have hnew : Settings.parse? (text "new") = some { relays := [relay "alice" "new"] } := by
    decide +kernel
  obtain ⟨hlogs, -, hprogram⟩ :=
    credentials_stay_out_of_sight F {} hF Prod.swap hf requests requests' hrequests
  have hfiles : ∀ path, file "new" path = file "old" path ∨ ∃ s t : Settings,
      t.redacted = s.redacted ∧ s.HeldAt (file "old") path ∧ t.HeldAt (file "new") path := by
    intro path
    exact .inr ⟨{ relays := [relay "alice" "old"] }, { relays := [relay "alice" "new"] }, rfl,
      Settings.heldAt_of_parse hold path, Settings.heldAt_of_parse hnew path⟩
  refine ⟨hF, hf, hrequests, hlogs, hold, hnew, ?_, (hprogram _ _ hfiles arguments).1⟩
  decide +kernel

end CandidatePool
