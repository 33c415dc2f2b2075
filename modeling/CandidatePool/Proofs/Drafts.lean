import CandidatePool.Proofs.Reconciliation
import CandidatePool.Proofs.RoundTrip
/-!
What someone may write into a settings text in the layout, sensible or not, and what becomes of it.
A draft has integers of any size and any strings, and may leave out any field.  Nothing in it is
bent until it fits: a draft that means no settings is refused as a whole, and one that means some is
read as just these.

What a draft means is said field by field, without any reader: the numbers that were written, the
addresses that the strings stand for, the transport that has the word, and the usual value for what
was left out.
-/

namespace CandidatePool.Layout

open Toml

/-! ### Drafts -/

/-- A relay as it is written down, with the fields that are there. -/
structure RelayDraft where
  address : Option String := none
  port : Option Int := none
  username : Option String := none
  password : Option String := none
  protocol : Option String := none
  secure : Option Bool := none

structure Draft where
  size : Option Int := none
  stun : Option (List String) := none
  relays : List RelayDraft := []

/-- The entries write a relay down, in any order and among others. -/
structure WritesRelay (t : Entries) (d : RelayDraft) : Prop where
  nodup : (t.map Prod.fst).Nodup
  address : t.lookup "address" = d.address.map .string
  port : t.lookup "port" = d.port.map .integer
  username : t.lookup "username" = d.username.map .string
  password : t.lookup "password" = d.password.map .string
  protocol : t.lookup "protocol" = d.protocol.map .string
  secure : t.lookup "secure" = d.secure.map .flag
  extra : ∀ e ∈ t, e.1 ∉ relayKeys → e.2.Extra

/-- The contents write a draft down, the relays as sections of their own. -/
structure Writes (l : Contents) (d : Draft) : Prop where
  nodup_preamble : (l.preamble.map Prod.fst).Nodup
  extra_preamble : ∀ e ∈ l.preamble, e.1 ≠ "allocator" ∧ e.2.Extra
  nodup : (l.allocator.map Prod.fst).Nodup
  size : l.allocator.lookup "candidate_pool_size" = d.size.map .integer
  stun : l.allocator.lookup "stun_servers" = d.stun.map .strings
  noList : l.allocator.lookup "turn_servers" = none
  relays : List.Forall₂ WritesRelay l.relays d.relays
  extra : ∀ e ∈ l.allocator, e.1 ∉ allocatorKeys → e.2.Extra

/-! ### What drafts mean -/

/-- Numbers and words mean what has them for its own; what was left out means the usual value. -/
structure RelayDraft.Means (d : RelayDraft) (r : Relay) : Prop where
  address : d.address = some r.address
  port : d.port = some (r.port.toNat : Int)
  username : r.username = d.username.getD ""
  password : r.password = d.password.getD ""
  transport : r.transport.word = d.protocol.getD "udp"
  secure : r.secure = d.secure.getD false

structure Draft.Means (d : Draft) (s : Settings) : Prop where
  size : s.poolSize.toInt = d.size.getD 0
  stun : List.Forall₂ (fun text a => SocketAddress.ofText? text = some a) (d.stun.getD []) s.stun
  relays : List.Forall₂ RelayDraft.Means d.relays s.relays

/-- What a relay needs in order to mean anything. -/
structure RelayDraft.Acceptable (d : RelayDraft) : Prop where
  address : ∃ address, d.address = some address
  port : ∃ n, d.port = some n ∧ 0 ≤ n ∧ n ≤ 65535
  protocol : ∀ word ∈ d.protocol, word ∈ ["udp", "tcp", "ssltcp", "tls"]

structure Draft.Acceptable (d : Draft) : Prop where
  size : ∀ n ∈ d.size, -2147483648 ≤ n ∧ n ≤ 2147483647
  stun : ∀ text ∈ d.stun.getD [], ∃ a, SocketAddress.ofText? text = some a
  relays : ∀ r ∈ d.relays, r.Acceptable

theorem mem_words_iff {word : String} :
    word ∈ ["udp", "tcp", "ssltcp", "tls"] ↔ ∃ t : Transport, t.word = word := by
  constructor
  · intro h
    simp only [List.mem_cons, List.not_mem_nil, or_false] at h
    rcases h with rfl | rfl | rfl | rfl
    · exact ⟨.udp, rfl⟩
    · exact ⟨.tcp, rfl⟩
    · exact ⟨.ssltcp, rfl⟩
    · exact ⟨.tls, rfl⟩
  · rintro ⟨t, rfl⟩
    cases t <;> decide

theorem exists_port_iff {n : Int} : (∃ port : UInt16, n = port.toNat) ↔ 0 ≤ n ∧ n ≤ 65535 := by
  constructor
  · rintro ⟨port, rfl⟩
    have hlt := port.toNat_lt
    omega
  · rintro ⟨hlow, hhigh⟩
    have hmod : n.toNat % 2 ^ 16 = n.toNat := Nat.mod_eq_of_lt (by omega)
    refine ⟨.ofNat n.toNat, ?_⟩
    rw [UInt16.toNat_ofNat', hmod, Int.toNat_of_nonneg hlow]

theorem exists_size_iff {n : Int} :
    (∃ size : Int32, size.toInt = n) ↔ -2147483648 ≤ n ∧ n ≤ 2147483647 := by
  constructor
  · rintro ⟨size, rfl⟩
    have hlow := size.le_toInt
    have hhigh := size.toInt_lt
    omega
  · rintro ⟨hlow, hhigh⟩
    exact ⟨.ofInt n, Int32.toInt_ofInt_of_le (by omega) (by omega)⟩

theorem RelayDraft.acceptable_iff (d : RelayDraft) : d.Acceptable ↔ ∃ r, d.Means r := by
  constructor
  · rintro ⟨⟨address, haddress⟩, ⟨n, hport, hbounds⟩, hprotocol⟩
    obtain ⟨port, rfl⟩ := exists_port_iff.mpr hbounds
    obtain ⟨transport, htransport⟩ : ∃ t : Transport, t.word = d.protocol.getD "udp" := by
      cases hword : d.protocol with
      | none => exact ⟨.udp, rfl⟩
      | some word => exact mem_words_iff.mp (hprotocol word hword)
    exact ⟨⟨address, port, d.username.getD "", d.password.getD "", transport, d.secure.getD false⟩,
      haddress, hport, rfl, rfl, htransport, rfl⟩
  · rintro ⟨r, hr⟩
    refine ⟨⟨_, hr.address⟩, ⟨_, hr.port, exists_port_iff.mp ⟨_, rfl⟩⟩, ?_⟩
    intro word hword
    have htransport := hr.transport
    rw [Option.mem_def.mp hword] at htransport
    exact mem_words_iff.mpr ⟨_, htransport⟩

theorem Draft.acceptable_iff (d : Draft) : d.Acceptable ↔ ∃ s, d.Means s := by
  constructor
  · rintro ⟨hsize, hstun, hrelays⟩
    obtain ⟨size, hsize⟩ : ∃ size : Int32, size.toInt = d.size.getD 0 := by
      cases hn : d.size with
      | none => exact ⟨0, rfl⟩
      | some n => exact exists_size_iff.mpr (hsize n hn)
    obtain ⟨stun, hstun⟩ := exists_forall₂_iff.mpr hstun
    obtain ⟨relays, hrelays⟩ :=
      exists_forall₂_iff.mpr fun r hr => (RelayDraft.acceptable_iff r).mp (hrelays r hr)
    exact ⟨⟨size, stun, relays⟩, hsize, hstun, hrelays⟩
  · rintro ⟨s, hs⟩
    refine ⟨?_, exists_forall₂_iff.mp ⟨_, hs.stun⟩, ?_⟩
    · intro n hn
      have hsize := hs.size
      rw [Option.mem_def.mp hn] at hsize
      exact exists_size_iff.mp ⟨_, hsize⟩
    · intro r hr
      exact r.acceptable_iff.mpr (exists_forall₂_iff.mp ⟨_, hs.relays⟩ r hr)

/-! ### Reading drafts -/

theorem readPort?_eq_some_iff {n : Int} {port : UInt16} :
    readPort? (.integer n) = some port ↔ n = port.toNat := by
  constructor
  · intro h
    obtain ⟨hbounds, hport⟩ := Option.ite_none_right_eq_some.mp h
    obtain ⟨written, rfl⟩ := exists_port_iff.mpr hbounds
    rw [Int.toNat_natCast, UInt16.ofNat_toNat, Option.some.injEq] at hport
    rw [hport]
  · rintro rfl
    exact readPort?_toNat port

theorem readSize?_eq_some_iff {n : Int} {size : Int32} :
    readSize? (.integer n) = some size ↔ size.toInt = n := by
  constructor
  · intro h
    obtain ⟨hbounds, hsize⟩ := Option.ite_none_right_eq_some.mp h
    obtain ⟨written, rfl⟩ := exists_size_iff.mpr hbounds
    rw [Int32.ofInt_toInt, Option.some.injEq] at hsize
    rw [hsize]
  · rintro rfl
    exact readSize?_toInt size

theorem ofWord?_eq_some_iff {word : String} {t : Transport} :
    Transport.ofWord? word = some t ↔ t.word = word := by
  constructor
  · intro h
    have hfound := List.find?_some h
    exact of_decide_eq_true hfound
  · rintro rfl
    exact t.ofWord?_word

section Fields

variable {t : Entries} {key : String} {α : Type} {o : Option α} {mk : α → Value}

/-- What is found under a key is what the draft has for it. -/
theorem find?_of_lookup_map (h : t.lookup key = o.map mk) :
    (nodes t).find? key = o.map fun x => (mk x).node := by
  rw [find?_nodes, h, Option.map_map]
  rfl

theorem Gives.of_getD {missing value : α} (h : t.lookup key = o.map mk)
    (hvalue : value = o.getD missing) : Gives t key (mk value) (value = missing) := by
  cases o with
  | none => exact .inr ⟨h, hvalue⟩
  | some x =>
      rw [hvalue]
      exact .inl h

end Fields

theorem WritesRelay.saysRelay {t : Entries} {d : RelayDraft} {r : Relay} (h : WritesRelay t d)
    (hd : d.Means r) : SaysRelay t r where
  nodup := h.nodup
  address := by
    rw [h.address, hd.address]
    rfl
  port := by
    rw [h.port, hd.port]
    rfl
  username := .of_getD h.username hd.username
  password := .of_getD h.password hd.password
  transport := by
    have hword : r.transport.word = "udp" ↔ r.transport = .udp := by
      cases r.transport <;> decide
    rw [← hword]
    exact .of_getD h.protocol hd.transport
  secure := .of_getD h.secure hd.secure
  extra := h.extra

/-- A field that may be left out is read as what was written, or as the usual value. -/
theorem optionalField_map_iff {α β : Type} {read? : Node → Option β} {usual b : β} {f : α → Node}
    {missing : α} {R : β → α → Prop} (hread : ∀ x, read? (f x) = some b ↔ R b x)
    (husual : usual = b ↔ R b missing) (o : Option α) :
    optionalField read? usual (o.map f) = some b ↔ R b (o.getD missing) := by
  cases o with
  | none => exact Option.some_inj.trans husual
  | some x => exact hread x

theorem optionalText_iff {o : Option String} {s : String} :
    optionalField readText? "" (o.map fun x => (Value.string x).node) = some s ↔
      s = o.getD "" := by
  refine optionalField_map_iff ?_ eq_comm o
  intro x
  exact Option.some_inj.trans eq_comm

theorem optionalFlag_iff {o : Option Bool} {b : Bool} :
    optionalField readFlag? false (o.map fun x => (Value.flag x).node) = some b ↔
      b = o.getD false := by
  refine optionalField_map_iff ?_ eq_comm o
  intro x
  exact Option.some_inj.trans eq_comm

theorem optionalTransport_iff {o : Option String} {t : Transport} :
    optionalField readTransport? .udp (o.map fun x => (Value.string x).node) = some t ↔
      t.word = o.getD "udp" := by
  refine optionalField_map_iff (R := fun (t : Transport) word => t.word = word) ?_ ?_ o
  · intro x
    exact ofWord?_eq_some_iff
  · cases t <;> decide

theorem optionalSize_iff {o : Option Int} {size : Int32} :
    optionalField readSize? 0 (o.map fun x => (Value.integer x).node) = some size ↔
      size.toInt = o.getD 0 := by
  refine optionalField_map_iff (R := fun (size : Int32) n => size.toInt = n) ?_ ?_ o
  · intro x
    exact readSize?_eq_some_iff
  · rw [eq_comm, ← Int32.toInt_inj]
    rfl

theorem optionalAddresses_iff {o : Option (List String)} {addresses : List SocketAddress} :
    optionalField (readList? readAddress?) [] (o.map fun x => (Value.strings x).node) =
        some addresses ↔
      List.Forall₂ (fun text a => SocketAddress.ofText? text = some a) (o.getD []) addresses := by
  refine optionalField_map_iff (R := fun addresses texts =>
    List.Forall₂ (fun text a => SocketAddress.ofText? text = some a) texts addresses) ?_ ?_ o
  · intro x
    exact readAddresses_iff
  · rw [List.forall₂_nil_left_iff, eq_comm]

theorem WritesRelay.read_iff {t : Entries} {d : RelayDraft} (h : WritesRelay t d) (r : Relay) :
    Relay.ofNode? (.table .declared (nodes t)) = some r ↔ d.Means r := by
  constructor
  · intro hread
    simp only [Relay.ofNode?, Node.record?, find?_of_lookup_map h.address,
      find?_of_lookup_map h.port, find?_of_lookup_map h.username, find?_of_lookup_map h.password,
      find?_of_lookup_map h.protocol, find?_of_lookup_map h.secure, Option.bind_eq_bind,
      Option.bind_some, Option.bind_eq_some_iff, Option.map_eq_some_iff, Option.pure_def,
      Option.some.injEq, optionalText_iff, optionalTransport_iff, optionalFlag_iff] at hread
    obtain ⟨_, ⟨address, haddress, rfl⟩, _, ⟨⟩, _, ⟨n, hport, rfl⟩, port, hn, username, husername,
      password, hpassword, transport, htransport, secure, hsecure, rfl⟩ := hread
    rw [Value.node, readPort?_eq_some_iff] at hn
    rw [hn] at hport
    exact ⟨haddress, hport, husername, hpassword, htransport, hsecure⟩
  · intro hd
    exact (h.saysRelay hd).read

/-- What the list of the relays is read as is what the drafts mean, one by one. -/
theorem readElements_iff {l : List Entries} {drafts : List RelayDraft}
    (h : List.Forall₂ WritesRelay l drafts) (relays : List Relay) :
    optionalField (readList? Relay.ofNode?) [] ((elements l).find? "turn_servers") = some relays ↔
      List.Forall₂ RelayDraft.Means drafts relays := by
  rw [read_elements, mapM_eq_some_iff, List.forall₂_map_left_iff]
  induction h generalizing relays with
  | nil => rw [List.forall₂_nil_left_iff, List.forall₂_nil_left_iff]
  | cons hhead htail ih => simp only [List.forall₂_cons_left_iff, hhead.read_iff, ih]

theorem Writes.read_iff {l : Contents} {d : Draft} (h : Writes l d) (s : Settings) :
    Settings.ofNode? (.table .declared (nodes l.allocator ++ elements l.relays)) = some s ↔
      d.Means s := by
  have hsize := find?_append_elements (by decide : "candidate_pool_size" ≠ "turn_servers")
    l.allocator l.relays
  have hstun := find?_append_elements (by decide : "stun_servers" ≠ "turn_servers")
    l.allocator l.relays
  have hrelays : Table.find? (nodes l.allocator ++ elements l.relays) "turn_servers" =
      (elements l.relays).find? "turn_servers" := by
    rw [find?_append, find?_nodes, h.noList]
    rfl
  simp only [Settings.ofNode?, Node.record?, hsize, hstun, hrelays, find?_of_lookup_map h.size,
    find?_of_lookup_map h.stun, Option.bind_eq_bind, Option.bind_some, Option.bind_eq_some_iff,
    Option.pure_def, Option.some.injEq, optionalSize_iff, optionalAddresses_iff,
    readElements_iff h.relays]
  constructor
  · rintro ⟨size, hsize, stun, hstun, relays, hrelays, rfl⟩
    exact ⟨hsize, hstun, hrelays⟩
  · intro hd
    exact ⟨_, hd.size, _, hd.stun, _, hd.relays, rfl⟩

/-! ### Texts -/

/-- What stands under a key is what the draft has for it, so it fits if that does. -/
theorem fits_of_lookup_map {t : Entries} {key : String} {α : Type} {o : Option α} {mk : α → Value}
    (h : t.lookup key = o.map mk) (hfits : ∀ x ∈ o, (mk x).Fits) (hnodup : (t.map Prod.fst).Nodup)
    {e : String × Value} (he : e ∈ t) (hkey : e.1 = key) : e.2.Fits := by
  have hlookup := lookup_of_mem hnodup he
  rw [hkey, h, Option.map_eq_some_iff] at hlookup
  obtain ⟨x, hx, hvalue⟩ := hlookup
  rw [← hvalue]
  exact hfits x hx

theorem says_relays {l : List Entries} {drafts : List RelayDraft} {relays : List Relay}
    (h : List.Forall₂ WritesRelay l drafts) (hd : List.Forall₂ RelayDraft.Means drafts relays) :
    List.Forall₂ SaysRelay l relays := by
  induction h generalizing relays with
  | nil =>
      cases hd
      exact .nil
  | cons hhead htail ih =>
      cases hd with
      | cons hmeans hlater => exact .cons (hhead.saysRelay hmeans) (ih hlater)

namespace Writes

variable {l : Contents} {d : Draft}

theorem fits_allocator (h : Writes l d) {s : Settings} (hd : d.Means s) :
    ∀ e ∈ l.allocator, e.2.Fits := by
  intro e he
  by_cases hkey : e.1 ∈ allocatorKeys
  · have hsize : ∀ n ∈ d.size, (Value.integer n).Fits := by
      intro n hn
      exact fits_integer ((d.acceptable_iff.mpr ⟨s, hd⟩).size n hn)
    have hlist : l.allocator.lookup "turn_servers" = (none : Option (List String)).map .strings :=
      h.noList
    simp only [allocatorKeys, List.mem_cons, List.not_mem_nil, or_false] at hkey
    rcases hkey with hkey | hkey | hkey
    · exact fits_of_lookup_map h.size hsize h.nodup he hkey
    · exact fits_of_lookup_map h.stun (fun _ _ => rfl) h.nodup he hkey
    · exact fits_of_lookup_map hlist (fun _ _ => rfl) h.nodup he hkey
  · exact (h.extra e he hkey).fits

theorem fits (h : Writes l d) {s : Settings} (hd : d.Means s) :
    ∀ t ∈ l.preamble :: l.allocator :: l.relays, ∀ e ∈ t, e.2.Fits := by
  rw [List.forall_mem_cons, List.forall_mem_cons]
  refine ⟨fun e he => (h.extra_preamble e he).2.fits, h.fits_allocator hd, fun t ht => ?_⟩
  obtain ⟨r, hr⟩ := exists_forall₂_iff.mp ⟨_, says_relays h.relays hd.relays⟩ t ht
  exact hr.fits

/-- What a text is read as is what the draft in it means. -/
theorem parse_iff (h : Writes l d) {text : String} (htext : l.WrittenAs text) (s : Settings) :
    Settings.parse? text = some s ↔ d.Means s := by
  have hfree := lookup_allocator_eq_none h.extra_preamble
  have hnodup : ∀ t ∈ l.relays, (t.map Prod.fst).Nodup := by
    intro t ht
    obtain ⟨r, hr⟩ := exists_forall₂_iff.mp ⟨_, h.relays⟩ t ht
    exact hr.nodup
  have htable := l.table h.nodup_preamble hfree h.nodup (.inr h.noList) hnodup
  constructor
  · intro hparse
    -- a text that is read at all has no value that does not fit
    obtain ⟨table, hread, -⟩ := Option.bind_eq_some_iff.mp hparse
    obtain ⟨document, hdocument, -⟩ := Option.bind_eq_some_iff.mp hread
    rwa [htext.parse (htext.fits hdocument) htable hfree, h.read_iff] at hparse
  · intro hd
    rwa [htext.parse (h.fits hd) htable hfree, h.read_iff]

end Writes

/-! ### Every draft has a text -/

/-- The entries that are there, of those that may be. -/
def given (t : List (String × Option Value)) : Entries :=
  t.filterMap fun e => e.2.map (e.1, ·)

theorem keys_given (t : List (String × Option Value)) :
    ((given t).map Prod.fst).Sublist (t.map Prod.fst) := by
  induction t with
  | nil => exact .slnil
  | cons e t ih =>
      obtain ⟨key, v⟩ := e
      cases v with
      | none => exact ih.cons key
      | some v => exact ih.cons_cons key

theorem lookup_given {t : List (String × Option Value)} (hnodup : (t.map Prod.fst).Nodup)
    (key : String) : (given t).lookup key = (t.lookup key).join := by
  induction t with
  | nil => rfl
  | cons e t ih =>
      obtain ⟨first, v⟩ := e
      rw [List.map_cons, List.nodup_cons] at hnodup
      have hlater := ih hnodup.2
      rw [List.lookup_cons]
      by_cases hkey : key = first
      · subst hkey
        rw [beq_self_eq_true]
        cases v with
        | some v => exact List.lookup_cons_self
        | none =>
            -- left out here, so it must not be given further on
            have hnone : t.lookup key = none := by
              rw [List.lookup_eq_none_iff]
              intro e he
              rw [bne_iff_ne]
              intro heq
              have hmem : e.1 ∈ t.map Prod.fst := List.mem_map_of_mem he
              rw [← heq] at hmem
              exact hnodup.1 hmem
            change (given t).lookup key = none
            rw [hlater, hnone]
            rfl
      · rw [beq_eq_false_iff_ne.mpr hkey, ← hlater]
        cases v with
        | none => rfl
        | some v =>
            change List.lookup key ((first, v) :: given t) = _
            rw [List.lookup_cons, beq_eq_false_iff_ne.mpr hkey]

theorem mem_keys_of_mem_given {t : List (String × Option Value)} {e : String × Value}
    (he : e ∈ given t) : e.1 ∈ t.map Prod.fst :=
  (keys_given t).subset (List.mem_map_of_mem he)

def RelayDraft.fields (d : RelayDraft) : List (String × Option Value) :=
  [("address", d.address.map .string), ("port", d.port.map .integer),
    ("username", d.username.map .string), ("password", d.password.map .string),
    ("protocol", d.protocol.map .string), ("secure", d.secure.map .flag)]

theorem writesRelay_given (d : RelayDraft) : WritesRelay (given d.fields) d := by
  have hkeys : (d.fields.map Prod.fst).Nodup := by
    change relayKeys.Nodup
    decide
  constructor
  · exact hkeys.sublist (keys_given _)
  · exact lookup_given hkeys _
  · exact lookup_given hkeys _
  · exact lookup_given hkeys _
  · exact lookup_given hkeys _
  · exact lookup_given hkeys _
  · exact lookup_given hkeys _
  · intro e he hkey
    exact absurd (mem_keys_of_mem_given he) hkey

def Draft.fields (d : Draft) : List (String × Option Value) :=
  [("candidate_pool_size", d.size.map .integer), ("stun_servers", d.stun.map .strings)]

/-- The contents that write a draft down with all fields in their usual order. -/
def Draft.contents (d : Draft) : Contents where
  preamble := []
  allocator := given d.fields
  relays := d.relays.map fun r => given r.fields

theorem writes_contents (d : Draft) : Writes d.contents d := by
  have hkeys : (d.fields.map Prod.fst).Nodup := by
    change ["candidate_pool_size", "stun_servers"].Nodup
    decide
  constructor
  · exact List.nodup_nil
  · exact List.forall_mem_nil _
  · exact hkeys.sublist (keys_given _)
  · exact lookup_given hkeys _
  · exact lookup_given hkeys _
  · exact lookup_given hkeys _
  · rw [Draft.contents, List.forall₂_map_left_iff, List.forall₂_same]
    intro r hr
    exact writesRelay_given r
  · intro e he hkey
    have hknown : d.fields.map Prod.fst ⊆ allocatorKeys := by
      change ["candidate_pool_size", "stun_servers"] ⊆ allocatorKeys
      decide
    exact absurd (hknown (mem_keys_of_mem_given he)) hkey

/-- A pool that takes over what a draft means wants as many sessions as were written, and none
    where the number is negative. -/
theorem Draft.Means.target {d : Draft} {s : Settings} (hd : d.Means s) {σ : Type} (F : Factory σ)
    (a : Allocator) (state : σ) :
    ((a.reconcile F state s.servers s.poolSize).allocator.target : Int) =
      max 0 (d.size.getD 0) := by
  rw [Allocator.target_reconcile, clampSize, hd.size]
  omega

/-- Every draft has texts.  Each of them is read if all that was written is acceptable, and refused
    if anything is not; what it is read as is what the draft means, down to the number of sessions
    that a pool then wants. -/
theorem draft_read_as_written (d : Draft) :
    (∃ l text, Writes l d ∧ l.WrittenAs text) ∧
      ∀ l text, Writes l d → l.WrittenAs text →
        ((∃ s, Settings.parse? text = some s) ↔ d.Acceptable) ∧
          (∀ s, Settings.parse? text = some s ↔ d.Means s) ∧
            ∀ s, Settings.parse? text = some s →
              ∀ {σ : Type} (F : Factory σ) (a : Allocator) (state : σ),
                ((a.reconcile F state s.servers s.poolSize).allocator.target : Int) =
                  max 0 (d.size.getD 0) := by
  constructor
  · obtain ⟨text, htext⟩ := exists_written d.contents
    exact ⟨d.contents, text, writes_contents d, htext⟩
  · intro l text hwrites htext
    have hread := hwrites.parse_iff htext
    refine ⟨?_, hread, ?_⟩
    · simp only [hread, d.acceptable_iff]
    · intro s hparse σ F a state
      exact ((hread s).mp hparse).target F a state

/-- The largest port is read and the next number is not.  A pool of fewer than no sessions is
    empty, and an address with nothing in it is an address. -/
theorem draft_read_up_to_the_largest_port :
    let text (port : String) := "[allocator]\ncandidate_pool_size=-3\n" ++
      "[[allocator.turn_servers]]\naddress=\"\"\nport=" ++ port ++ "\n"
    (∃ s, Settings.parse? (text "65535") = some s ∧
        ((({} : Allocator).reconcile ({} : FactoryPlan).factory {} s.servers
          s.poolSize).allocator.target : Int) = max 0 (-3)) ∧
      ¬∃ s, Settings.parse? (text "65536") = some s := by
  intro text
  let d (port : Int) : Draft :=
    { size := some (-3), relays := [{ address := some "", port := some port }] }
  have hrows := fun port : Nat =>
    have hport := rowsText_entry "port" (by decide) (.integer (.unsigned port _)) .nil
    have haddress := rowsText_entry "address" (by decide)
      (.string (stringText_plain "" _ (by decide))) hport
    have hrelay := RowsText.line (rowText_relay _) (lineEnd_newline _) haddress
    have hsize := rowsText_entry "candidate_pool_size" (by decide) (.integer (.minus 3 _)) hrelay
    RowsText.line (rowText_allocator _) (lineEnd_newline _) hsize
  have hread : (d 65535).contents.WrittenAs (text "65535") :=
    written_of_rowsText (hrows 65535) (by decide +kernel) (by decide +kernel)
  have hrefused : (d 65536).contents.WrittenAs (text "65536") :=
    written_of_rowsText (hrows 65536) (by decide +kernel) (by decide +kernel)
  have hsmall := (draft_read_as_written (d 65535)).2 _ _ (writes_contents _) hread
  have hlarge := (draft_read_as_written (d 65536)).2 _ _ (writes_contents _) hrefused
  have hacceptable : (d 65535).Acceptable := by
    refine ⟨?_, List.forall_mem_nil _, List.forall_mem_singleton.mpr ?_⟩
    · rintro n ⟨⟩
      decide
    · exact ⟨⟨"", rfl⟩, ⟨65535, rfl, by decide, by decide⟩, by rintro word ⟨⟩⟩
  constructor
  · obtain ⟨s, hs⟩ := hsmall.1.mpr hacceptable
    exact ⟨s, hs, hsmall.2.2 s hs _ _ _⟩
  · rw [hlarge.1]
    intro hlarger
    obtain ⟨n, ⟨⟩, -, hbound⟩ := (hlarger.relays _ (List.mem_singleton_self _)).port
    exact absurd hbound (by decide)

end CandidatePool.Layout
