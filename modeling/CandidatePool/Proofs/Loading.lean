import CandidatePool.Settings.Load
/-!
Which files are loaded, and with which error all others are refused.  A file is loaded if its bytes
are those of a text, the text is read as settings, and every relay in them keeps to three rules: it
has an address, its port is not 0, and if it is secure it does not use datagrams.  An error blames
what is wrong first: in the file, among the relays, and among the rules that a relay breaks.
-/

namespace CandidatePool

/-! ### Rules for relays -/

/-- What a relay has to keep to, by what the rule is about. -/
inductive RelayRule where
  | address
  | port
  | security
deriving DecidableEq

/-- The rules in the order in which they are checked. -/
def RelayRule.all : List RelayRule := [.address, .port, .security]

theorem RelayRule.mem_all (rule : RelayRule) : rule ∈ all := by
  cases rule <;> decide

/-- An item of a list with a property that no item in front of it has. -/
def FirstWith {α : Type} (P : α → Prop) (l : List α) (a : α) : Prop :=
  P a ∧ ∃ before after, l = before ++ a :: after ∧ ∀ b ∈ before, ¬P b

namespace Relay

variable (r : Relay)

def Breaks : RelayRule → Prop
  | .address => r.address = ""
  | .port => r.port = 0
  | .security => r.secure = true ∧ r.transport = .udp

instance : DecidablePred r.Breaks
  | .address => inferInstanceAs (Decidable (r.address = ""))
  | .port => inferInstanceAs (Decidable (r.port = 0))
  | .security => inferInstanceAs (Decidable (r.secure = true ∧ r.transport = .udp))

/-- What is said about a relay that breaks a rule. -/
def complaint : RelayRule → String
  | .address => "relay server address cannot be empty"
  | .port => "relay server " ++ r.address ++ " has port 0"
  | .security =>
    "relay server " ++ r.address ++ ":" ++ toString r.port.toNat ++ " is secure but uses udp"

def faultOf : RelayRule → RelayFault
  | .address => .emptyAddress
  | .port => .zeroPort r.address
  | .security => .insecureTransport r.address r.port r.transport

/-- The wording of a fault is what is said about the rule. -/
theorem message_faultOf {rule : RelayRule} (h : r.Breaks rule) :
    (r.faultOf rule).message = r.complaint rule := by
  cases rule with
  | address => rfl
  | port => rfl
  | security =>
      have hwords : " is secure but uses " ++ Transport.udp.word = " is secure but uses udp" := by
        decide
      have hudp : r.transport = .udp := h.2
      unfold faultOf RelayFault.message complaint
      rw [hudp]
      exact (String.append_assoc ..).trans (congrArg (_ ++ ·) hwords)

theorem fault?_eq_find? : r.fault? = (RelayRule.all.find? (r.Breaks ·)).map r.faultOf := by
  have hstream : (¬r.transport.isStream) ↔ r.transport = .udp := by
    cases r.transport <;> decide
  simp only [fault?, RelayRule.all, List.find?_cons, List.find?_nil, hstream]
  by_cases haddress : r.address = ""
  · simp [Breaks, faultOf, haddress]
  · by_cases hport : r.port = 0
    · simp [Breaks, faultOf, haddress, hport]
    · by_cases hsecurity : r.secure = true ∧ r.transport = .udp
      · simp [Breaks, faultOf, haddress, hport, hsecurity]
      · simp [Breaks, haddress, hport, hsecurity]

theorem fault?_eq_none_iff : r.fault? = none ↔ ∀ rule, ¬r.Breaks rule := by
  simp [fault?_eq_find?, RelayRule.mem_all]

/-- What a relay that breaks no rule looks like. -/
theorem forall_not_breaks_iff :
    (∀ rule, ¬r.Breaks rule) ↔
      r.address ≠ "" ∧ r.port ≠ 0 ∧ (r.secure = true → r.transport ≠ .udp) := by
  constructor
  · intro h
    exact ⟨h .address, h .port, fun hsecure hudp => h .security ⟨hsecure, hudp⟩⟩
  · rintro ⟨haddress, hport, hsecurity⟩ rule hbreaks
    cases rule with
    | address => exact haddress hbreaks
    | port => exact hport hbreaks
    | security => exact hsecurity hbreaks.1 hbreaks.2

/-- The fault of a relay is that of the first rule that it breaks. -/
theorem fault?_eq_some_iff {fault : RelayFault} :
    r.fault? = some fault ↔ ∃ rule, FirstWith r.Breaks RelayRule.all rule ∧
      r.faultOf rule = fault := by
  simp [fault?_eq_find?, List.find?_eq_some_iff_append, FirstWith]

end Relay

namespace Settings

/-- The relay is the first that breaks a rule, and the rule is the first that it breaks. -/
def Blames (s : Settings) (r : Relay) (rule : RelayRule) : Prop :=
  FirstWith (fun r => ∃ rule, r.Breaks rule) s.relays r ∧ FirstWith r.Breaks RelayRule.all rule

theorem fault?_eq_none_iff {s : Settings} :
    s.fault? = none ↔
      ∀ r ∈ s.relays, r.address ≠ "" ∧ r.port ≠ 0 ∧ (r.secure = true → r.transport ≠ .udp) := by
  simp only [fault?, List.findSome?_eq_none_iff, Relay.fault?_eq_none_iff,
    Relay.forall_not_breaks_iff]

theorem fault?_eq_some_iff {s : Settings} {fault : RelayFault} :
    s.fault? = some fault ↔ ∃ r rule, s.Blames r rule ∧ r.faultOf rule = fault := by
  simp only [fault?, List.findSome?_eq_some_iff, Relay.fault?_eq_some_iff,
    Relay.fault?_eq_none_iff, Blames, FirstWith, not_exists]
  constructor
  · rintro ⟨before, r, after, hsplit, ⟨rule, hrule, hfault⟩, hbefore⟩
    exact ⟨r, rule, ⟨⟨⟨rule, hrule.1⟩, before, after, hsplit, hbefore⟩, hrule⟩, hfault⟩
  · rintro ⟨r, rule, ⟨⟨-, before, after, hsplit, hbefore⟩, hrule⟩, hfault⟩
    exact ⟨before, r, after, hsplit, ⟨rule, hrule, hfault⟩, hbefore⟩

/-! ### Files -/

/-- How a file is accepted: with the settings that its text says. -/
structure Accepted (read : ReadFile) (path : String) (s : Settings) : Prop where
  parsed : ∃ text : String, read path = .ok text.toUTF8 ∧ parse? text = some s
  relays : ∀ r ∈ s.relays, r.address ≠ "" ∧ r.port ≠ 0 ∧ (r.secure = true → r.transport ≠ .udp)

/-- How a file is refused: with which error, and with which wording from the outside in. -/
inductive Refused (read : ReadFile) (path : String) : LoadError → List String → Prop
  | unreadable {cause : ReadFailure} (hread : read path = .error cause) :
      Refused read path (.unreadable path cause)
        ["Failed to read config file: " ++ Text.Quoted.quote path, cause.message]
  | notText {bytes : ByteArray} (hread : read path = .ok bytes)
      (hnot : ∀ text : String, text.toUTF8 ≠ bytes) :
      Refused read path (.unreadable path .notText)
        ["Failed to read config file: " ++ Text.Quoted.quote path,
          "stream did not contain valid UTF-8"]
  | malformed {text : String} (hread : read path = .ok text.toUTF8) (hparse : parse? text = none) :
      Refused read path .malformed ["Failed to parse configuration"]
  | invalid {text : String} {s : Settings} {r : Relay} {rule : RelayRule}
      (hread : read path = .ok text.toUTF8) (hparse : parse? text = some s)
      (hblame : s.Blames r rule) :
      Refused read path (.invalid path (r.faultOf rule))
        ["Invalid config file: " ++ Text.Quoted.quote path,
          "Configuration error: " ++ r.complaint rule]

theorem fromUTF8?_eq_some_iff {bytes : ByteArray} {text : String} :
    String.fromUTF8? bytes = some text ↔ text.toUTF8 = bytes := by
  rw [String.fromUTF8?]
  split
  · rename_i hvalid
    constructor
    · rintro ⟨⟩
      rfl
    · rintro rfl
      rfl
  · rename_i hinvalid
    constructor
    · rintro ⟨⟩
    · rintro rfl
      exact absurd text.isValidUTF8 hinvalid

section Files

variable {read : ReadFile} {path : String}

theorem load_of_text {text : String} (hread : read path = .ok text.toUTF8) :
    load read path =
      match parse? text with
      | none => .error .malformed
      | some s => checked path s := by
  have htext : readText read path = .ok text := by
    simp only [readText, hread, fromUTF8?_eq_some_iff.mpr rfl]
  rw [load, htext]
  rfl

theorem Accepted.load {s : Settings} (h : Accepted read path s) : load read path = .ok s := by
  obtain ⟨text, hread, hparse⟩ := h.parsed
  have hclean : s.fault? = none := fault?_eq_none_iff.mpr h.relays
  simp only [load_of_text hread, hparse, checked, hclean]

theorem Refused.load {e : LoadError} {texts : List String} (h : Refused read path e texts) :
    load read path = .error e := by
  cases h with
  | unreadable hread =>
      simp only [Settings.load, readText, hread]
      rfl
  | notText hread hnot =>
      rename_i bytes
      have hnone : String.fromUTF8? bytes = none := by
        rw [Option.eq_none_iff_forall_ne_some]
        intro text htext
        exact hnot text (fromUTF8?_eq_some_iff.mp htext)
      simp only [Settings.load, readText, hread, hnone]
      rfl
  | malformed hread hparse => simp only [load_of_text hread, hparse]
  | invalid hread hparse hblame =>
      have hfault := fault?_eq_some_iff.mpr ⟨_, _, hblame, rfl⟩
      simp only [load_of_text hread, hparse, checked, hfault]

theorem Refused.chain {e : LoadError} {texts : List String} (h : Refused read path e texts) :
    e.chain = texts := by
  cases h with
  | unreadable hread => rfl
  | notText hread hnot => rfl
  | malformed hread hparse => rfl
  | invalid hread hparse hblame =>
      rw [LoadError.chain, LoadError.cause?, Relay.message_faultOf _ hblame.2.1]
      rfl

/-- Every file is accepted or refused. -/
theorem accepted_or_refused (read : ReadFile) (path : String) :
    (∃ s, Accepted read path s) ∨ ∃ e texts, Refused read path e texts := by
  cases hread : read path with
  | error cause => exact .inr ⟨_, _, .unreadable hread⟩
  | ok bytes =>
      by_cases htext : ∃ text : String, text.toUTF8 = bytes
      · obtain ⟨text, rfl⟩ := htext
        cases hparse : parse? text with
        | none => exact .inr ⟨_, _, .malformed hread hparse⟩
        | some s =>
            cases hfault : s.fault? with
            | none => exact .inl ⟨s, ⟨text, hread, hparse⟩, fault?_eq_none_iff.mp hfault⟩
            | some fault =>
                obtain ⟨r, rule, hblame, -⟩ := fault?_eq_some_iff.mp hfault
                exact .inr ⟨_, _, .invalid hread hparse hblame⟩
      · exact .inr ⟨_, _, .notText hread (not_exists.mp htext)⟩

end Files

/-- Loading accepts the files whose text is read as settings with no relay that breaks a rule, and
    gives these settings.  It refuses all others with the error that blames what is wrong first. -/
theorem load_accepts_or_blames (read : ReadFile) (path : String) :
    (∀ s, load read path = .ok s ↔ Accepted read path s) ∧
      ∀ e, load read path = .error e ↔ Refused read path e e.chain := by
  rcases accepted_or_refused read path with ⟨s, haccepted⟩ | ⟨e, texts, hrefused⟩
  · have hload := haccepted.load
    refine ⟨fun found => ⟨?_, Accepted.load⟩, fun e => ⟨?_, Refused.load⟩⟩
    · intro hfound
      rw [hload, Except.ok.injEq] at hfound
      rwa [← hfound]
    · intro herror
      rw [hload] at herror
      cases herror
  · have hload := hrefused.load
    refine ⟨fun s => ⟨?_, Accepted.load⟩, fun found => ⟨?_, Refused.load⟩⟩
    · intro hok
      rw [hload] at hok
      cases hok
    · intro hfound
      rw [hload, Except.error.injEq] at hfound
      rwa [← hfound, hrefused.chain]

/-- Three relays, of which the last two are at fault, and both in two ways. -/
theorem load_blames_the_second_relay :
    let text := "[[allocator.turn_servers]]\naddress=\"a\"\nport=1\n" ++
      "[[allocator.turn_servers]]\naddress=\"b\"\nport=0\nsecure=true\n" ++
      "[[allocator.turn_servers]]\naddress=\"\"\nport=0\n"
    let e : LoadError := .invalid "x" (.zeroPort "b")
    load (fun _ => .ok text.toUTF8) "x" = .error e ∧
      e.chain =
        ["Invalid config file: \"x\"", "Configuration error: relay server b has port 0"] := by
  intro text e
  let first : Relay := { address := "a", port := 1 }
  let second : Relay := { address := "b", port := 0, secure := true }
  let third : Relay := { address := "", port := 0 }
  have hparse : parse? text = some { relays := [first, second, third] } := by decide +kernel
  have hfirst : ¬∃ rule, first.Breaks rule := by
    rintro ⟨rule, hbreaks⟩
    cases rule <;> exact absurd hbreaks (by decide)
  have hblame : Settings.Blames { relays := [first, second, third] } second .port := by
    refine ⟨⟨⟨.port, rfl⟩, [first], [third], rfl, List.forall_mem_singleton.mpr hfirst⟩, rfl,
      [.address], [.security], rfl, ?_⟩
    exact List.forall_mem_singleton.mpr (by decide)
  have hrefused : Refused (fun _ => .ok text.toUTF8) "x" e e.chain := .invalid rfl hparse hblame
  exact ⟨((load_accepts_or_blames _ "x").2 e).mpr hrefused, by decide⟩

end Settings

end CandidatePool
