import CandidatePool.Proofs.AddressTexts
import CandidatePool.Proofs.LayoutTables
/-!
Settings are read back from every text that writes them down in the layout.  What the reader looks up
in a table is what the entries of the table give, wherever they stand, and a field that is left out is
read as what goes without saying.

There is such a text for all settings: strings hold any characters because each of them has a number
that eight digits can write.
-/

namespace CandidatePool.Layout

open Toml

/-! ### Fields -/

section Fields

variable {t : Entries} {key : String} {v : Value}

theorem find?_of_lookup (h : t.lookup key = some v) : (nodes t).find? key = some v.node := by
  rw [find?_nodes, h]
  rfl

/-- A field that is given, or left out where that means the same, is read as its value. -/
theorem Gives.read {α : Type} {read? : Node → Option α} {missing value : α} {left : Prop}
    (h : Gives t key v left) (hread : read? v.node = some value) (hleft : left → missing = value) :
    optionalField read? missing ((nodes t).find? key) = some value := by
  rcases h with hgiven | ⟨hnone, hmissing⟩
  · rw [find?_of_lookup hgiven]
    exact hread
  · rw [find?_nodes, hnone, ← hleft hmissing]
    rfl

end Fields

theorem readPort?_toNat (port : UInt16) : readPort? (.integer port.toNat) = some port := by
  have hbound : port.toNat < 2 ^ 16 := port.toNat_lt
  have hfits : (0 : Int) ≤ port.toNat ∧ (port.toNat : Int) ≤ 65535 := by omega
  rw [readPort?, if_pos hfits, Int.toNat_natCast, UInt16.ofNat_toNat]

theorem readSize?_toInt (size : Int32) : readSize? (.integer size.toInt) = some size := by
  have hlow := size.le_toInt
  have hhigh := size.toInt_lt
  have hfits : -2147483648 ≤ size.toInt ∧ size.toInt ≤ 2147483647 := by omega
  rw [readSize?, if_pos hfits, Int32.ofInt_toInt]

theorem SaysRelay.read {t : Entries} {r : Relay} (h : SaysRelay t r) :
    Relay.ofNode? (.table .declared (nodes t)) = some r := by
  have husername : optionalField readText? "" ((nodes t).find? "username") = some r.username :=
    h.username.read rfl Eq.symm
  have hpassword : optionalField readText? "" ((nodes t).find? "password") = some r.password :=
    h.password.read rfl Eq.symm
  have htransport :
      optionalField readTransport? .udp ((nodes t).find? "protocol") = some r.transport :=
    h.transport.read r.transport.ofWord?_word Eq.symm
  have hsecure : optionalField readFlag? false ((nodes t).find? "secure") = some r.secure :=
    h.secure.read rfl Eq.symm
  simp only [Relay.ofNode?, Node.record?, find?_of_lookup h.address, find?_of_lookup h.port,
    Value.node, readText?, readPort?_toNat, husername, hpassword, htransport, hsecure,
    Option.bind_eq_bind, Option.bind_some, Option.pure_def]

/-! ### Settings -/

theorem find?_elements {key : String} (hkey : key ≠ "turn_servers") (relays : List Entries) :
    (elements relays).find? key = none := by
  cases relays with
  | nil => rfl
  | cons t relays =>
      change List.lookup key [("turn_servers", _)] = none
      rw [List.lookup_cons, beq_eq_false_iff_ne.mpr hkey]
      rfl

/-- All fields but the relays are found among the entries. -/
theorem find?_append_elements {key : String} (hkey : key ≠ "turn_servers") (t : Entries)
    (relays : List Entries) :
    Table.find? (nodes t ++ elements relays) key = (nodes t).find? key := by
  rw [find?_append, find?_elements hkey, Option.or_none]

/-- Addresses are read from their strings one by one. -/
theorem readAddresses_iff {texts : List String} {addresses : List SocketAddress} :
    readList? readAddress? (Value.strings texts).node = some addresses ↔
      List.Forall₂ (fun text a => SocketAddress.ofText? text = some a) texts addresses := by
  change (texts.map Node.string).mapM readAddress? = some addresses ↔ _
  rw [mapM_eq_some_iff, List.forall₂_map_left_iff]
  rfl

/-- A list of addresses is read back from their texts, in order and with all repetitions. -/
theorem readList?_texts (addresses : List SocketAddress) :
    readList? readAddress? (Value.strings (addresses.map SocketAddress.text)).node =
      some addresses := by
  rw [readAddresses_iff, List.forall₂_map_left_iff, List.forall₂_same]
  intro a ha
  exact SocketAddress.ofText?_text a

/-- The list of the relays is read element by element. -/
theorem read_elements (relays : List Entries) :
    optionalField (readList? Relay.ofNode?) [] ((elements relays).find? "turn_servers") =
      (relays.map fun t => Node.table .declared (nodes t)).mapM Relay.ofNode? := by
  cases relays with
  | nil => rfl
  | cons t relays =>
      change (((t :: relays).map nodes).map (Node.table .declared)).mapM Relay.ofNode? = _
      rw [List.map_map]
      rfl

theorem Says.read {l : Contents} {s : Settings} (h : Says l s) :
    Settings.ofNode? (.table .declared (nodes l.allocator ++ elements l.relays)) = some s := by
  have hsizeField := find?_append_elements (by decide : "candidate_pool_size" ≠ "turn_servers")
    l.allocator l.relays
  have hstunField := find?_append_elements (by decide : "stun_servers" ≠ "turn_servers")
    l.allocator l.relays
  have hsize : optionalField readSize? 0 ((nodes l.allocator).find? "candidate_pool_size") =
      some s.poolSize :=
    h.size.read (readSize?_toInt s.poolSize) Eq.symm
  have hstun : optionalField (readList? readAddress?) []
      ((nodes l.allocator).find? "stun_servers") = some s.stun :=
    h.stun.read (readList?_texts s.stun) Eq.symm
  have hrelays : optionalField (readList? Relay.ofNode?) []
      (Table.find? (nodes l.allocator ++ elements l.relays) "turn_servers") = some s.relays := by
    rw [find?_append]
    rcases h.noRelays with hnone | ⟨hempty, hnil⟩
    · have hread := h.relays.imp fun t r htr => htr.read
      rw [find?_nodes, hnone, Option.map_none, Option.none_or, read_elements, mapM_eq_some_iff,
        List.forall₂_map_left_iff]
      exact hread
    · rw [find?_of_lookup hempty, hnil]
      rfl
  simp only [Settings.ofNode?, Node.record?, hsizeField, hstunField, hsize, hstun, hrelays,
    Option.bind_eq_bind, Option.bind_some, Option.pure_def]

/-! ### Texts -/

theorem lookup_of_mem {t : Entries} (hnodup : (t.map Prod.fst).Nodup) {e : String × Value}
    (he : e ∈ t) : t.lookup e.1 = some e.2 := by
  induction t with
  | nil => cases he
  | cons d t ih =>
      rw [List.map_cons, List.nodup_cons] at hnodup
      rcases List.mem_cons.mp he with rfl | hlater
      · exact List.lookup_cons_self
      · have hne : e.1 ≠ d.1 := by
          intro heq
          apply hnodup.1
          rw [← heq]
          exact List.mem_map_of_mem hlater
        rw [List.lookup_cons, beq_eq_false_iff_ne.mpr hne]
        exact ih hnodup.2 hlater

/-- Other keys than the one of the settings leave that one free. -/
theorem lookup_allocator_eq_none {t : Entries} (h : ∀ e ∈ t, e.1 ≠ "allocator" ∧ e.2.Extra) :
    t.lookup "allocator" = none := by
  rw [List.lookup_eq_none_iff]
  intro e he
  exact bne_iff_ne.mpr (h e he).1.symm

/-- A key that is given once has the value that it is given, so it fits if that value does. -/
theorem Gives.fits {t : Entries} {key : String} {v : Value} {left : Prop} (h : Gives t key v left)
    (hv : v.Fits) (hnodup : (t.map Prod.fst).Nodup) {e : String × Value} (he : e ∈ t)
    (hkey : e.1 = key) : e.2.Fits := by
  have hlookup := lookup_of_mem hnodup he
  rw [hkey] at hlookup
  rcases h with hgiven | ⟨hnone, -⟩
  · rw [hlookup] at hgiven
    rw [Option.some.inj hgiven]
    exact hv
  · rw [hlookup] at hnone
    cases hnone

theorem fits_integer {n : Int} (h : -2147483648 ≤ n ∧ n ≤ 2147483647) : (Value.integer n).Fits := by
  have hword : -9223372036854775808 ≤ n ∧ n ≤ 9223372036854775807 := by omega
  exact if_pos hword

theorem SaysRelay.fits {t : Entries} {r : Relay} (h : SaysRelay t r) : ∀ e ∈ t, e.2.Fits := by
  intro e he
  by_cases hkey : e.1 ∈ relayKeys
  · have haddress : Gives t "address" (.string r.address) False := .inl h.address
    have hport : Gives t "port" (.integer r.port.toNat) False := .inl h.port
    have hfits : (Value.integer r.port.toNat).Fits := by
      have hlt := r.port.toNat_lt
      exact fits_integer (by omega)
    simp only [relayKeys, List.mem_cons, List.not_mem_nil, or_false] at hkey
    rcases hkey with hkey | hkey | hkey | hkey | hkey | hkey
    · exact haddress.fits rfl h.nodup he hkey
    · exact hport.fits hfits h.nodup he hkey
    · exact h.username.fits rfl h.nodup he hkey
    · exact h.password.fits rfl h.nodup he hkey
    · exact h.transport.fits rfl h.nodup he hkey
    · exact h.secure.fits rfl h.nodup he hkey
  · exact (h.extra e he hkey).fits

theorem Says.fits_allocator {l : Contents} {s : Settings} (h : Says l s) :
    ∀ e ∈ l.allocator, e.2.Fits := by
  intro e he
  by_cases hkey : e.1 ∈ allocatorKeys
  · have hsize : (Value.integer s.poolSize.toInt).Fits := by
      have hlow := s.poolSize.le_toInt
      have hhigh := s.poolSize.toInt_lt
      exact fits_integer (by omega)
    have hlist : Gives l.allocator "turn_servers" (.strings []) True := by
      rcases h.noRelays with hnone | ⟨hempty, -⟩
      · exact .inr ⟨hnone, trivial⟩
      · exact .inl hempty
    simp only [allocatorKeys, List.mem_cons, List.not_mem_nil, or_false] at hkey
    rcases hkey with hkey | hkey | hkey
    · exact h.size.fits hsize h.nodup he hkey
    · exact h.stun.fits rfl h.nodup he hkey
    · exact hlist.fits rfl h.nodup he hkey
  · exact (h.extra e he hkey).fits

/-- Whatever text writes settings down, they are read back from it. -/
theorem Says.parse {l : Contents} {s : Settings} (h : Says l s) {text : String}
    (htext : l.WrittenAs text) : Settings.parse? text = some s := by
  have hrelay : ∀ t ∈ l.relays, (t.map Prod.fst).Nodup ∧ ∀ e ∈ t, e.2.Fits := by
    have hboth := h.relays.imp fun t r htr => And.intro (And.intro htr.nodup htr.fits) htr
    exact ((List.forall₂_and_left _ _).mp hboth).1
  have hfits : ∀ t ∈ l.preamble :: l.allocator :: l.relays, ∀ e ∈ t, e.2.Fits := by
    rw [List.forall_mem_cons, List.forall_mem_cons]
    refine ⟨?_, h.fits_allocator, fun t ht => (hrelay t ht).2⟩
    intro e he
    exact (h.extra_preamble e he).2.fits
  have hfree := lookup_allocator_eq_none h.extra_preamble
  have hrelays : l.relays = [] ∨ l.allocator.lookup "turn_servers" = none := by
    rcases h.noRelays with hnone | ⟨-, hnil⟩
    · exact .inr hnone
    · have hforall := h.relays
      rw [hnil, List.forall₂_nil_right_iff] at hforall
      exact .inl hforall
  have htable := l.table h.nodup_preamble hfree h.nodup hrelays fun t ht => (hrelay t ht).1
  rw [htext.parse hfits htable hfree, h.read]

/-! ### Plain texts

Lines, keys and strings that are written as they are, without blanks, comments or escapes. -/

theorem lineEnd_newline (r : List Char) : LineEnd ('\n' :: r) r :=
  ⟨.refl _, .none _, .lf r⟩

theorem keyText_bare (key : String) (r : List Char)
    (h : key.toList ≠ [] ∧ key.toList.all isKeyChar) : KeyText (key.toList ++ r) key r := by
  have hlist := KeyText.bare (r := r) h.1 (List.all_eq_true.mp h.2)
  rwa [String.ofList_toList] at hlist

theorem pathText_bare (key : String) (r : List Char)
    (h : key.toList ≠ [] ∧ key.toList.all isKeyChar) : PathText (key.toList ++ r) [key] r :=
  .last (.refl _) (keyText_bare key r h) (.refl _)

theorem stringText_plain (s : String) (r : List Char)
    (h : s.toList.all fun c => Quoted.isPlain c && c != '"' && c != '\\') :
    StringText ('"' :: (s.toList ++ '"' :: r)) s r := by
  constructor
  generalize s.toList = chars at h
  induction chars with
  | nil => exact .close r
  | cons c chars ih =>
      simp only [List.all_cons, Bool.and_eq_true, bne_iff_ne] at h
      obtain ⟨⟨⟨hplain, hquote⟩, hescape⟩, hlater⟩ := h
      exact .plain hplain hquote hescape (ih hlater)

section Rows

variable {b r : List Char} {rows : List Row}

theorem rowsText_entry (key : String) {v : Value}
    (hkey : key.toList ≠ [] ∧ key.toList.all isKeyChar) (hvalue : ValueText b v ('\n' :: r))
    (later : RowsText r rows) : RowsText (key.toList ++ '=' :: b) (.entry key v :: rows) :=
  .line (.entry (pathText_bare key _ hkey) (.refl _) hvalue) (lineEnd_newline r) later

theorem rowText_allocator (r : List Char) :
    RowText ('[' :: ("allocator".toList ++ ']' :: r)) .allocator r :=
  .allocator (.refl _) (pathText_bare _ _ (by decide))

theorem rowText_relay (r : List Char) :
    RowText ('[' :: '[' :: ("allocator".toList ++ '.' :: ("turn_servers".toList ++ ']' :: ']' :: r)))
      .relay r :=
  .relay (.refl _) (.more (.refl _) (keyText_bare _ _ (by decide)) (.refl _)
    (pathText_bare _ _ (by decide)))

theorem written_of_rowsText {l : Contents} {text : String} (h : RowsText b rows)
    (htext : text.toList = b) (hrows : rows.filter (· ≠ .blank) = l.rows) : l.WrittenAs text := by
  subst htext
  exact ⟨rows, hrows, h⟩

end Rows

/-! ### Every settings value has a text -/

theorem exists_body (s r : List Char) : ∃ i, StringBody i s r := by
  induction s with
  | nil => exact ⟨_, .close r⟩
  | cons c s ih =>
      obtain ⟨i, hi⟩ := ih
      have hsmall : c.toNat < 16 ^ 8 := c.val.toNat_lt
      obtain ⟨digits, hlength, hdigits, hvalue⟩ := Numeral.exists_digits (by decide) (Nat.le_refl 16) c.toNat hsmall
      have hne : digits ≠ [] := by
        rintro rfl
        cases hlength
      have hcode : Numeral.value? 16 digits = some c.toNat := by
        rw [Numeral.value?_of_forall_isDigit hdigits hne, hvalue]
      have hwidth : ('U', digits.length) ∈ [('u', 4), ('U', 8)] := by
        rw [hlength]
        decide
      exact ⟨_, .code hwidth hcode hi⟩

theorem exists_string (s : String) (r : List Char) : ∃ i, StringText i s r := by
  obtain ⟨i, hi⟩ := exists_body s.toList r
  exact ⟨_, .mk hi⟩

theorem exists_items (l : List String) (r : List Char) : ∃ i, ItemsText i l r := by
  induction l with
  | nil => exact ⟨_, .close (.blanks (.refl _))⟩
  | cons s l ih =>
      obtain ⟨i, hi⟩ := ih
      obtain ⟨j, hj⟩ := exists_string s (',' :: i)
      exact ⟨j, .more (.blanks (.refl _)) hj (.blanks (.refl _)) hi⟩

theorem exists_value (v : Value) (r : List Char) : ∃ i, ValueText i v r := by
  cases v with
  | integer n =>
      cases n with
      | ofNat n => exact ⟨_, .integer (.unsigned n r)⟩
      | negSucc n => exact ⟨_, .integer (.minus (n + 1) r)⟩
  | flag b =>
      cases b with
      | true => exact ⟨_, .yes r⟩
      | false => exact ⟨_, .no r⟩
  | string s =>
      obtain ⟨i, hi⟩ := exists_string s r
      exact ⟨i, .string hi⟩
  | strings l =>
      obtain ⟨i, hi⟩ := exists_items l r
      exact ⟨_, .strings hi⟩

theorem exists_path (keys : List String) (hne : keys ≠ []) (r : List Char) :
    ∃ i, PathText i keys r := by
  induction keys with
  | nil => exact absurd rfl hne
  | cons key keys ih =>
      cases keys with
      | nil =>
          obtain ⟨i, hi⟩ := exists_string key r
          exact ⟨i, .last (.refl _) (.quoted hi) (.refl _)⟩
      | cons next keys =>
          obtain ⟨i, hi⟩ := ih (List.cons_ne_nil _ _)
          obtain ⟨j, hj⟩ := exists_string key ('.' :: i)
          exact ⟨j, .more (.refl _) (.quoted hj) (.refl _) hi⟩

theorem exists_row (row : Row) (r : List Char) : ∃ i, RowText i row r := by
  cases row with
  | blank => exact ⟨r, .blank r⟩
  | entry key v =>
      obtain ⟨i, hi⟩ := exists_value v r
      obtain ⟨j, hj⟩ := exists_path [key] (List.cons_ne_nil _ _) ('=' :: i)
      exact ⟨j, .entry hj (.refl _) hi⟩
  | allocator =>
      obtain ⟨i, hi⟩ := exists_path ["allocator"] (List.cons_ne_nil _ _) (']' :: r)
      exact ⟨_, .allocator (.refl _) hi⟩
  | relay =>
      obtain ⟨i, hi⟩ :=
        exists_path ["allocator", "turn_servers"] (List.cons_ne_nil _ _) (']' :: ']' :: r)
      exact ⟨_, .relay (.refl _) hi⟩

theorem exists_rows (rows : List Row) : ∃ i, RowsText i rows := by
  induction rows with
  | nil => exact ⟨[], .nil⟩
  | cons row rows ih =>
      obtain ⟨i, hi⟩ := ih
      obtain ⟨j, hj⟩ := exists_row row ('\n' :: i)
      exact ⟨j, .line hj ⟨.refl _, .none _, .lf i⟩ hi⟩

theorem exists_written (l : Contents) : ∃ text, l.WrittenAs text := by
  obtain ⟨i, hi⟩ := exists_rows l.rows
  have hentries : ∀ t : Entries, ∀ row ∈ entryRows t, row ≠ .blank := by
    intro t row hrow
    obtain ⟨e, -, rfl⟩ := List.mem_map.mp hrow
    exact Row.noConfusion
  have hall : ∀ row ∈ l.rows, row ≠ .blank := by
    intro row hrow
    rcases List.mem_append.mp hrow with hfront | hrelay
    · rcases List.mem_append.mp hfront with hentry | hallocator
      · exact hentries _ row hentry
      · rcases List.mem_cons.mp hallocator with rfl | hentry
        · exact Row.noConfusion
        · exact hentries _ row hentry
    · obtain ⟨t, -, ht⟩ := List.mem_flatMap.mp hrelay
      rcases List.mem_cons.mp ht with rfl | hentry
      · exact Row.noConfusion
      · exact hentries t row hentry
  refine ⟨String.ofList i, l.rows, ?_, by rwa [String.toList_ofList]⟩
  rw [List.filter_eq_self]
  intro row hrow
  exact decide_eq_true (hall row hrow)

/-- All fields of a relay, written out. -/
def relayEntries (r : Relay) : Entries :=
  [("address", .string r.address), ("port", .integer r.port.toNat),
    ("username", .string r.username), ("password", .string r.password),
    ("protocol", .string r.transport.word), ("secure", .flag r.secure)]

theorem saysRelay_relayEntries (r : Relay) : SaysRelay (relayEntries r) r where
  nodup := by
    change relayKeys.Nodup
    decide
  address := rfl
  port := rfl
  username := .inl rfl
  password := .inl rfl
  transport := .inl rfl
  secure := .inl rfl
  extra := by
    intro e he hkey
    exact absurd (List.mem_map_of_mem he) hkey

theorem exists_contents (s : Settings) : ∃ l, Says l s := by
  refine ⟨⟨[], [("candidate_pool_size", .integer s.poolSize.toInt),
    ("stun_servers", .strings (s.stun.map SocketAddress.text))], s.relays.map relayEntries⟩, ?_⟩
  constructor
  · exact List.nodup_nil
  · exact List.forall_mem_nil _
  · change ["candidate_pool_size", "stun_servers"].Nodup
    decide
  · exact .inl rfl
  · exact .inl rfl
  · exact .inl rfl
  · rw [List.forall₂_map_left_iff, List.forall₂_same]
    intro r hr
    exact saysRelay_relayEntries r
  · intro e he hkey
    have hkeys : e.1 ∈ ["candidate_pool_size", "stun_servers"] := List.mem_map_of_mem he
    have hknown : ["candidate_pool_size", "stun_servers"] ⊆ allocatorKeys := by decide
    exact absurd (hknown hkeys) hkey

/-- Settings are read back, exactly as they are, from every text that writes them down in the layout,
    and there is such a text for all settings. -/
theorem settings_read_back (s : Settings) :
    (∃ l text, Says l s ∧ l.WrittenAs text) ∧
      ∀ l text, Says l s → l.WrittenAs text → Settings.parse? text = some s := by
  constructor
  · obtain ⟨l, hsaid⟩ := exists_contents s
    obtain ⟨text, htext⟩ := exists_written l
    exact ⟨l, text, hsaid, htext⟩
  · intro l text hsaid htext
    exact hsaid.parse htext

/-- A mapped address, an escape, a key that means nothing here, a comment and an empty line; the
    fields of the relay are not in their usual order, and four of them are left out. -/
theorem settings_read_back_with_an_escape :
    let text := "[allocator]\nstun_servers=[\"[::ffff:192.0.2.1]:3478\"]\nnote=-1\n\n" ++
      "[[allocator.turn_servers]] # one\nport=3478\naddress=\"\\u00e9\"\n"
    let address : SocketAddress := .v6 ⟨[0, 0, 0, 0, 0, 0xffff, 0xc000, 0x0201], rfl⟩ 0 3478
    let s : Settings := { stun := [address], relays := [{ address := "é", port := 3478 }] }
    let l : Contents :=
      ⟨[], [("stun_servers", .strings ["[::ffff:192.0.2.1]:3478"]), ("note", .integer (-1))],
        [[("port", .integer 3478), ("address", .string "é")]]⟩
    Says l s ∧ l.WrittenAs text ∧ Settings.parse? text = some s := by
  intro text address s l
  have hsaid : Says l s := by
    constructor
    · decide
    · exact List.forall_mem_nil _
    · decide
    · exact .inr ⟨by decide, rfl⟩
    · exact .inl (by decide +kernel)
    · exact .inl (by decide)
    · refine .cons ⟨by decide, by decide, by decide, ?_, ?_, ?_, ?_, ?_⟩ .nil
      · exact .inr ⟨by decide, rfl⟩
      · exact .inr ⟨by decide, rfl⟩
      · exact .inr ⟨by decide, rfl⟩
      · exact .inr ⟨by decide, rfl⟩
      · intro e he hkey
        have hknown : ["port", "address"] ⊆ relayKeys := by decide
        exact absurd (hknown (List.mem_map_of_mem he)) hkey
    · intro e he hkey
      rcases List.mem_cons.mp he with rfl | hnote
      · exact absurd (by decide) hkey
      · rw [List.mem_singleton.mp hnote]
        exact .integer (by decide)
  have hescape : ∀ r,
      StringText ('"' :: '\\' :: 'u' :: (['0', '0', 'e', '9'] ++ '"' :: r)) "é" r := by
    intro r
    exact .mk (.code (by decide) (by decide) (.close r))
  have haddress := rowsText_entry "address" (by decide) (.string (hescape _)) .nil
  have hport := rowsText_entry "port" (by decide) (.integer (.unsigned 3478 _)) haddress
  have hcomment : ∀ r, LineEnd (' ' :: '#' :: (" one".toList ++ '\n' :: r)) r := by
    intro r
    have hplain : " one".toList.all Quoted.isPlain := by decide
    exact ⟨⟨[' '], List.forall_mem_singleton.mpr rfl, rfl⟩, .some (List.all_eq_true.mp hplain), .lf r⟩
  have hrelay := RowsText.line (rowText_relay _) (hcomment _) hport
  have hblank := RowsText.line (.blank _) (lineEnd_newline _) hrelay
  have hnote := rowsText_entry "note" (by decide) (.integer (.minus 1 _)) hblank
  have hstun := rowsText_entry "stun_servers" (by decide)
    (.strings (.last (.blanks (.refl _)) (stringText_plain "[::ffff:192.0.2.1]:3478" _ (by decide))
      (.blanks (.refl _)))) hnote
  have hrows := RowsText.line (rowText_allocator _) (lineEnd_newline _) hstun
  have htext : l.WrittenAs text :=
    written_of_rowsText hrows (by decide +kernel) (by decide +kernel)
  exact ⟨hsaid, htext, (settings_read_back s).2 l text hsaid htext⟩

end CandidatePool.Layout
