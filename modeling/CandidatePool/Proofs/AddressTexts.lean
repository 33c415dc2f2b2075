import CandidatePool.Address.Reader
import CandidatePool.Address.Set
import CandidatePool.Proofs.Numerals
import Mathlib.Data.List.Dedup
/-!
Addresses are read back from their texts.  A reader is told what it finds at the front of a text and
that the rest does not go on in the same way, and gives back what was written with the rest; the
readers of the parts are put together as the texts of the parts are.

A row of groups is the only part whose reader looks ahead: it tries four octets before a group, so
what keeps a group a group is that no point follows it.

Two addresses with one text are therefore one address, so a set that is ordered by the texts of its
members loses none of them.
-/

namespace CandidatePool

open Numeral

theorem toList_toString (n : Nat) : (toString n).toList = Nat.toDigits 10 n := by
  rw [Nat.toString_eq_repr, Nat.toList_repr]

/-! ### Hosts of four octets -/

namespace IPv4

theorem readOctet?_append (o : UInt8) {rest : List Char}
    (hrest : ∀ c ∈ rest.head?, isDigit 10 c = false) :
    readOctet? (Nat.toDigits 10 o.toNat ++ rest) = some (o, rest) := by
  have hlength : (Nat.toDigits 10 o.toNat).length ≤ 3 := by
    rw [Nat.length_toDigits_le_iff (by decide) (by decide)]
    have hlt := o.toNat_lt
    omega
  have hzero : ¬((Nat.toDigits 10 o.toNat).head? = some '0' ∧
      1 < (Nat.toDigits 10 o.toNat).length) := by
    rintro ⟨hhead, hlong⟩
    have hne : o.toNat ≠ 0 := by
      intro hn
      simp [hn] at hlong
    exact head?_toDigits_ne_zero (by decide) o.toNat hne hhead
  have hvalue : ofDigits 10 (Nat.toDigits 10 o.toNat) = o.toNat :=
    ofDigits_toDigits (by decide) (by decide) o.toNat
  have hsmall : o.toNat ≤ 255 := Nat.le_of_lt_succ o.toNat_lt
  simp only [readOctet?, leading_toDigits_append (by decide) (by decide) hrest,
    afterLeading_toDigits_append (by decide) (by decide) hrest, hvalue]
  rw [if_neg, UInt8.ofNat_toNat]
  rintro (hnil | hlong | hleading | hlarge)
  · exact Nat.toDigits_ne_nil hnil
  · omega
  · exact hzero hleading
  · omega

theorem toList_text (h : IPv4) :
    h.text.toList = Nat.toDigits 10 h.a.toNat ++ '.' :: (Nat.toDigits 10 h.b.toNat ++ '.' ::
      (Nat.toDigits 10 h.c.toNat ++ '.' :: Nat.toDigits 10 h.d.toNat)) := by
  simp [text, octets]

theorem read?_append (h : IPv4) {rest : List Char}
    (hrest : ∀ c ∈ rest.head?, isDigit 10 c = false) :
    read? (h.text.toList ++ rest) = some (h, rest) := by
  have hpoint : ∀ text : List Char, ∀ c ∈ ('.' :: text).head?, isDigit 10 c = false := by
    intro text c hc
    cases hc
    decide
  simp only [toList_text, List.append_assoc, List.cons_append, read?,
    readOctet?_append _ (hpoint _), readOctet?_append _ hrest, Text.after?, if_pos,
    Option.bind_eq_bind, Option.bind_some, Option.pure_def]

theorem groups_ofGroups (g₁ g₂ : UInt16) : (ofGroups g₁ g₂).groups = [g₁, g₂] := by
  have hgroup : ∀ g : UInt16, (g >>> 8).toUInt8.toUInt16 <<< 8 ||| g.toUInt8.toUInt16 = g := by
    intro g
    have hlt : g.toNat < 2 ^ 16 := g.toNat_lt
    have hhigh : ((g >>> 8).toUInt8.toUInt16 <<< 8).toNat = 2 ^ 8 * (g.toNat / 2 ^ 8) := by
      have hshift : (8 : UInt16).toNat % 16 = 8 := by decide
      simp only [UInt16.toNat_shiftLeft, UInt8.toNat_toUInt16, UInt16.toNat_toUInt8,
        UInt16.toNat_shiftRight, hshift, Nat.shiftRight_eq_div_pow, Nat.shiftLeft_eq]
      omega
    have hlow : g.toUInt8.toUInt16.toNat = g.toNat % 2 ^ 8 := by
      rw [UInt8.toNat_toUInt16, UInt16.toNat_toUInt8]
    -- the high octet is a multiple of 256, so laying the low one over it adds it
    rw [← UInt16.toNat_inj, UInt16.toNat_or, hhigh, hlow,
      ← Nat.two_pow_add_eq_or_of_lt (Nat.mod_lt _ (by decide)), Nat.div_add_mod]
  rw [groups, ofGroups, hgroup, hgroup]

/-- Digits with no point behind them are not the first of four octets. -/
theorem read?_eq_none {digits rest : List Char} (hdigits : ∀ c ∈ digits, c ≠ '.')
    (hrest : ∀ c ∈ rest.head?, isDigit 10 c = false ∧ c ≠ '.') : read? (digits ++ rest) = none := by
  have hafter : Text.after? '.' (afterLeading 10 (digits ++ rest)) = none := by
    have hstays : afterLeading 10 rest = rest := by
      cases rest with
      | nil => rfl
      | cons c rest => simp [afterLeading, (hrest c rfl).1]
    rw [afterLeading] at hstays
    rw [afterLeading, List.dropWhile_append, hstays]
    split
    · cases rest with
      | nil => rfl
      | cons c rest => simp [Text.after?, (hrest c rfl).2]
    · cases hleft : digits.dropWhile (isDigit 10) with
      | nil => simp_all
      | cons c left =>
          have hmem : c ∈ digits := by
            apply (List.dropWhile_sublist (isDigit 10)).subset
            simp [hleft]
          simp [Text.after?, hdigits c hmem]
  simp only [read?, readOctet?, Option.bind_eq_bind]
  split
  · rfl
  · simp [hafter]

end IPv4

/-! ### Hosts of eight groups -/

namespace IPv6

/-- The texts of groups with a colon in front of each. -/
def colonGroups (gs : List UInt16) : List Char :=
  gs.flatMap fun g => ':' :: Nat.toDigits 16 g.toNat

/-- What stands behind a group that is not the first octet of four. -/
def EndsGroup (rest : List Char) : Prop :=
  ∀ c ∈ rest.head?, isDigit 16 c = false ∧ c ≠ '.'

theorem isDigit_of_isDigit {c : Char} (h : isDigit 16 c = false) : isDigit 10 c = false := by
  rw [isDigit] at h ⊢
  cases hvalue : digitValue? c with
  | none => rfl
  | some d =>
      simp only [hvalue, Option.any_some, decide_eq_false_iff_not] at h ⊢
      omega

theorem toList_groupsText_cons (g : UInt16) (gs : List UInt16) :
    (groupsText (g :: gs)).toList = Nat.toDigits 16 g.toNat ++ colonGroups gs := by
  induction gs generalizing g with
  | nil => simp [groupsText, groupText, colonGroups]
  | cons h gs ih =>
      have hlater := ih h
      simp only [groupsText, String.toList_intercalate, List.map_cons] at hlater ⊢
      rw [List.intercalate_cons_cons, hlater]
      simp [groupText, colonGroups]

theorem endsGroup_colon (text : List Char) : EndsGroup (':' :: text) := by
  intro c hc
  cases hc
  decide

theorem endsGroup_colonGroups (gs : List UInt16) {rest : List Char} (hrest : EndsGroup rest) :
    EndsGroup (colonGroups gs ++ rest) := by
  cases gs with
  | nil => exact hrest
  | cons g gs => exact endsGroup_colon _

theorem readGroup?_append (g : UInt16) {rest : List Char} (hrest : EndsGroup rest) :
    readGroup? (Nat.toDigits 16 g.toNat ++ rest) = some (g, rest) := by
  have hdigits : ∀ c ∈ rest.head?, isDigit 16 c = false := fun c hc => (hrest c hc).1
  have hvalue : ofDigits 16 (Nat.toDigits 16 g.toNat) = g.toNat :=
    ofDigits_toDigits (by decide) (by decide) g.toNat
  have hlength : (Nat.toDigits 16 g.toNat).length ≤ 4 := by
    rw [Nat.length_toDigits_le_iff (by decide) (by decide)]
    exact g.toNat_lt
  simp only [readGroup?, leading_toDigits_append (by decide) (by decide) hdigits,
    afterLeading_toDigits_append (by decide) (by decide) hdigits, hvalue]
  rw [if_neg, UInt16.ofNat_toNat]
  rintro (hnil | hlong)
  · exact Nat.toDigits_ne_nil hnil
  · omega

theorem readIPv4_group (g : UInt16) {rest : List Char} (hrest : EndsGroup rest) :
    IPv4.read? (Nat.toDigits 16 g.toNat ++ rest) = none := by
  apply IPv4.read?_eq_none
  · rintro c hc rfl
    have hdigit := isDigit_of_mem_toDigits (by decide) (by decide) g.toNat '.' hc
    exact absurd hdigit (by decide)
  · intro c hc
    exact ⟨isDigit_of_isDigit (hrest c hc).1, (hrest c hc).2⟩

/-- A group is read as one, and the row goes on behind it. -/
theorem readRow_group (g : UInt16) (room : Nat) (first : Bool) (text : List Char)
    {rest : List Char}
    (hbody : (if first then some text else Text.after? ':' text) =
      some (Nat.toDigits 16 g.toNat ++ rest))
    (hrest : EndsGroup rest) :
    readRow (room + 1) first text =
      { readRow room false rest with groups := g :: (readRow room false rest).groups } := by
  have hoctets : (if room = 0 then none
      else IPv4.read? (Nat.toDigits 16 g.toNat ++ rest)) = none := by
    split
    · rfl
    · exact readIPv4_group g hrest
  simp only [readRow, hbody, hoctets, readGroup?_append g hrest]

theorem readRow_colonGroups (gs : List UInt16) (room : Nat) {rest : List Char}
    (hrest : EndsGroup rest) :
    readRow (gs.length + room) false (colonGroups gs ++ rest) =
      { readRow room false rest with groups := gs ++ (readRow room false rest).groups } := by
  induction gs with
  | nil => simp [colonGroups]
  | cons g gs ih =>
      have hbody : Text.after? ':' (colonGroups (g :: gs) ++ rest) =
          some (Nat.toDigits 16 g.toNat ++ (colonGroups gs ++ rest)) := by
        simp [colonGroups, Text.after?]
      rw [List.length_cons, Nat.add_right_comm,
        readRow_group g _ false (colonGroups (g :: gs) ++ rest) hbody
          (endsGroup_colonGroups gs hrest), ih]
      rfl

/-- The groups of a text are read one by one, and then the row goes on. -/
theorem readRow_groupsText (g : UInt16) (gs : List UInt16) (room : Nat) {rest : List Char}
    (hrest : EndsGroup rest) :
    readRow ((g :: gs).length + room) true ((groupsText (g :: gs)).toList ++ rest) =
      { readRow room false rest with groups := g :: gs ++ (readRow room false rest).groups } := by
  have hbody : some ((groupsText (g :: gs)).toList ++ rest) =
      some (Nat.toDigits 16 g.toNat ++ (colonGroups gs ++ rest)) := by
    rw [toList_groupsText_cons, List.append_assoc]
  rw [List.length_cons, Nat.add_right_comm,
    readRow_group g _ true _ hbody (endsGroup_colonGroups gs hrest),
    readRow_colonGroups gs room hrest]
  rfl

/-- Where there is no group, the row ends. -/
theorem readRow_end (room : Nat) (first : Bool) (text : List Char)
    (hbody : ∀ body, (if first then some text else Text.after? ':' text) = some body →
      EndsGroup body) :
    readRow room first text = ⟨[], false, text⟩ := by
  cases room with
  | zero => rfl
  | succ room =>
      cases hfound : (if first then some text else Text.after? ':' text) with
      | none => simp only [readRow, hfound]
      | some body =>
          have hends := hbody body hfound
          have hoctets : (if room = 0 then none else IPv4.read? body) = none := by
            split
            · rfl
            · apply IPv4.read?_eq_none (List.forall_mem_nil _)
              intro c hc
              exact ⟨isDigit_of_isDigit (hends c hc).1, (hends c hc).2⟩
          have hgroup : readGroup? body = none := by
            have hnone : leading 16 body = [] := by
              cases body with
              | nil => rfl
              | cons c body => simp [leading, (hends c rfl).1]
            simp [readGroup?, hnone]
          simp only [readRow, hfound, hoctets, hgroup]

/-- A row that is no part of a longer one is read as it was written, even an empty one. -/
theorem readRow_groupsText_end (gs : List UInt16) (room : Nat) {rest : List Char}
    (hrest : EndsGroup rest) (hend : readRow room false rest = ⟨[], false, rest⟩) :
    readRow (gs.length + room) true ((groupsText gs).toList ++ rest) = ⟨gs, false, rest⟩ := by
  cases gs with
  | nil =>
      apply readRow_end
      rintro body hbody
      cases hbody
      exact hrest
  | cons g gs =>
      rw [readRow_groupsText g gs room hrest, hend]
      simp

/-- What stands behind a host. -/
def EndsHost (rest : List Char) : Prop :=
  ∀ c ∈ rest.head?, isDigit 16 c = false ∧ c ≠ '.' ∧ c ≠ ':'

theorem EndsHost.group {rest : List Char} (hrest : EndsHost rest) : EndsGroup rest :=
  fun c hc => ⟨(hrest c hc).1, (hrest c hc).2.1⟩

theorem EndsHost.readRow (room : Nat) {rest : List Char} (hrest : EndsHost rest) :
    readRow room false rest = ⟨[], false, rest⟩ := by
  apply readRow_end
  intro body hbody
  cases rest with
  | nil => cases hbody
  | cons c rest => simp [Text.after?, (hrest c rfl).2.2] at hbody

theorem readRow_colons (room : Nat) (first : Bool) (text : List Char) :
    readRow room first (':' :: ':' :: text) = ⟨[], false, ':' :: ':' :: text⟩ := by
  apply readRow_end
  intro body hbody
  cases first with
  | false =>
      cases hbody
      exact endsGroup_colon text
  | true =>
      cases hbody
      exact endsGroup_colon (':' :: text)

/-- Two colons stand for the zero groups that are missing. -/
theorem read?_of_rows {text tail rest : List Char} {before after : List UInt16} {dotted : Bool}
    (hbefore : readRow 8 true text = ⟨before, false, ':' :: ':' :: tail⟩)
    (hfew : before.length < 8)
    (hafter : readRow (7 - before.length) true tail = ⟨after, dotted, rest⟩) (h : IPv6)
    (hgroups : before ++ List.replicate (8 - before.length - after.length) 0 ++ after = h.groups) :
    read? text = some (h, rest) := by
  have hhost : ofGroups? h.groups = some h := dif_pos h.eight
  simp only [read?, hbefore, if_neg (Nat.ne_of_lt hfew), Bool.false_eq_true, if_false, Text.after?,
    if_pos, hafter, hgroups, hhost, Option.bind_eq_bind, Option.bind_some, Option.pure_def]

theorem read?_mapped {h : IPv6} {host : IPv4} (hmapped : h.mapped? = some host) {rest : List Char}
    (hrest : EndsHost rest) :
    read? (("::ffff:" ++ host.text).toList ++ rest) = some (h, rest) := by
  have hdigits : ∀ c ∈ rest.head?, isDigit 10 c = false :=
    fun c hc => isDigit_of_isDigit (hrest c hc).1
  have hgroups : h.groups = [0, 0, 0, 0, 0, 0xffff] ++ host.groups := by
    unfold mapped? at hmapped
    split at hmapped
    · rename_i g₁ g₂ hgroups
      cases hmapped
      rw [hgroups, IPv4.groups_ofGroups]
      rfl
    · cases hmapped
  have htext : ("::ffff:" ++ host.text).toList ++ rest =
      ':' :: ':' :: ((groupsText [0xffff]).toList ++ ':' :: (host.text.toList ++ rest)) := by
    have hgroup : (groupsText [0xffff]).toList = ['f', 'f', 'f', 'f'] := by decide
    simp [hgroup]
  have hoctets :
      readRow 6 false (':' :: (host.text.toList ++ rest)) = ⟨host.groups, true, rest⟩ := by
    simp [readRow, Text.after?, IPv4.read?_append host hdigits]
  have hrow : readRow 7 true ((groupsText [0xffff]).toList ++ ':' :: (host.text.toList ++ rest)) =
      ⟨0xffff :: host.groups, true, rest⟩ := by
    have hrow := readRow_groupsText 0xffff [] 6 (endsGroup_colon (host.text.toList ++ rest))
    rw [hoctets] at hrow
    exact hrow
  rw [htext]
  apply read?_of_rows (readRow_colons 8 true _) (by decide) hrow h
  rw [hgroups]
  rfl

theorem eq_zeros_append (gs : List UInt16) :
    List.replicate (gs.takeWhile (· = 0)).length 0 ++ gs.drop (gs.takeWhile (· = 0)).length =
      gs := by
  induction gs with
  | nil => rfl
  | cons g gs ih =>
      by_cases hzero : g = 0
      · rw [List.takeWhile_cons_of_pos (by simpa using hzero), List.length_cons,
          List.replicate_succ, List.drop_succ_cons, List.cons_append, ih, hzero]
      · rw [List.takeWhile_cons_of_neg (by simpa using hzero)]
        rfl

/-- The groups in front of a run of zeros, the run and the groups behind it. -/
theorem take_append_zeros_append (gs : List UInt16) (start : Nat) :
    gs.take start ++ List.replicate (zerosFrom gs start) 0 ++ gs.drop (start + zerosFrom gs start) =
      gs := by
  have hsplit := eq_zeros_append (gs.drop start)
  rw [List.drop_drop] at hsplit
  rw [List.append_assoc, zerosFrom, hsplit, List.take_append_drop]

theorem read?_compressed (h : IPv6) {start : Nat} (hrun : 1 < zerosFrom h.groups start)
    {rest : List Char} (hrest : EndsHost rest) :
    read? ((groupsText (h.groups.take start) ++ "::" ++
      groupsText (h.groups.drop (start + zerosFrom h.groups start))).toList ++ rest) =
        some (h, rest) := by
  have hsplit := take_append_zeros_append h.groups start
  have hlength := congrArg List.length hsplit
  generalize hbefore : h.groups.take start = before at hsplit hlength ⊢
  generalize hafter : h.groups.drop (start + zerosFrom h.groups start) = after at hsplit hlength ⊢
  rw [h.eight, List.length_append, List.length_append, List.length_replicate] at hlength
  have hhead : readRow 8 true
      ((groupsText before).toList ++ ':' :: ':' :: ((groupsText after).toList ++ rest)) =
        ⟨before, false, ':' :: ':' :: ((groupsText after).toList ++ rest)⟩ := by
    have hroom : 8 = before.length + (8 - before.length) := by omega
    rw [hroom]
    exact readRow_groupsText_end before _ (endsGroup_colon _) (readRow_colons _ false _)
  have htail : readRow (7 - before.length) true ((groupsText after).toList ++ rest) =
      ⟨after, false, rest⟩ := by
    have hroom : 7 - before.length = after.length + (7 - before.length - after.length) := by omega
    rw [hroom]
    exact readRow_groupsText_end after _ hrest.group (hrest.readRow _)
  have hzeros : 8 - before.length - after.length = zerosFrom h.groups start := by omega
  have htext : (groupsText before ++ "::" ++ groupsText after).toList ++ rest =
      (groupsText before).toList ++ ':' :: ':' :: ((groupsText after).toList ++ rest) := by
    simp
  rw [htext]
  apply read?_of_rows hhead (by omega) htail h
  rw [hzeros, hsplit]

theorem read?_groupsText (h : IPv6) {rest : List Char} (hrest : EndsHost rest) :
    read? ((groupsText h.groups).toList ++ rest) = some (h, rest) := by
  have hrow := readRow_groupsText_end h.groups 0 hrest.group (hrest.readRow 0)
  have hhost : ofGroups? h.groups = some h := dif_pos h.eight
  rw [h.eight] at hrow
  simp only [read?, hrow, h.eight, if_pos, hhost, Option.bind_eq_bind, Option.bind_some,
    Option.pure_def]

theorem read?_append (h : IPv6) {rest : List Char} (hrest : EndsHost rest) :
    read? (h.text.toList ++ rest) = some (h, rest) := by
  unfold text
  split
  · rename_i host hmapped
    exact read?_mapped hmapped hrest
  · dsimp only
    split
    · rename_i hrun
      exact read?_compressed h hrun hrest
    · exact read?_groupsText h hrest

end IPv6

/-! ### Addresses with a port -/

namespace SocketAddress

theorem port?_toDigits (port : UInt16) : port? (Nat.toDigits 10 port.toNat) = some port := by
  have hsmall : port.toNat ≤ 65535 := Nat.le_of_lt_succ port.toNat_lt
  rw [port?, value?_toDigits (by decide) (by decide)]
  simp [hsmall]

theorem readScope?_append (scope : UInt32) (rest : List Char) :
    readScope? ((if scope = 0 then "" else "%" ++ toString scope.toNat).toList ++ ']' :: rest) =
      some (scope, ']' :: rest) := by
  split
  · rename_i hzero
    rw [hzero]
    rfl
  · have hends : ∀ c ∈ (']' :: rest).head?, isDigit 10 c = false := by
      intro c hc
      cases hc
      decide
    have hsmall : scope.toNat ≤ 4294967295 := Nat.le_of_lt_succ scope.toNat_lt
    have htext : ("%" ++ toString scope.toNat).toList ++ ']' :: rest =
        '%' :: (Nat.toDigits 10 scope.toNat ++ ']' :: rest) := by
      rw [String.toList_append, toList_toString]
      rfl
    rw [htext]
    simp only [readScope?, leading_toDigits_append (by decide) (by decide) hends,
      afterLeading_toDigits_append (by decide) (by decide) hends]
    rw [value?_toDigits (by decide) (by decide)]
    simp [hsmall]

theorem ofText4?_text (host : IPv4) (port : UInt16) :
    ofText4? (text (.v4 host port)).toList = some (.v4 host port) := by
  have htext : (text (.v4 host port)).toList =
      host.text.toList ++ ':' :: Nat.toDigits 10 port.toNat := by
    simp [text]
  have hends : ∀ c ∈ (':' :: Nat.toDigits 10 port.toNat).head?, isDigit 10 c = false := by
    intro c hc
    cases hc
    decide
  rw [htext]
  simp [ofText4?, IPv4.read?_append host hends, Text.after?, port?_toDigits]

theorem endsHost_scope (scope : UInt32) (rest : List Char) :
    IPv6.EndsHost
      ((if scope = 0 then "" else "%" ++ toString scope.toNat).toList ++ ']' :: rest) := by
  intro c hc
  split at hc
  · cases hc
    decide
  · simp at hc
    cases hc
    decide

theorem ofText6?_text (host : IPv6) (scope : UInt32) (port : UInt16) :
    ofText6? (text (.v6 host scope port)).toList = some (.v6 host scope port) := by
  have hhost := IPv6.read?_append host
    (endsHost_scope scope (':' :: Nat.toDigits 10 port.toNat))
  have hscope := readScope?_append scope (':' :: Nat.toDigits 10 port.toNat)
  simp only [text]
  generalize (if scope = 0 then "" else "%" ++ toString scope.toNat) = zone at hhost hscope ⊢
  have htext : ("[" ++ host.text ++ zone ++ "]:" ++ toString port.toNat).toList =
      '[' :: (host.text.toList ++ (zone.toList ++ ']' :: ':' :: Nat.toDigits 10 port.toNat)) := by
    simp
  rw [htext]
  simp [ofText6?, Text.after?, hhost, hscope, port?_toDigits]

theorem ofText4?_bracket (text : List Char) : ofText4? ('[' :: text) = none := by
  have hnone : leading 10 ('[' :: text) = [] := rfl
  simp [ofText4?, IPv4.read?, IPv4.readOctet?, hnone]

/-- An address is read back from its text. -/
theorem ofText?_text (a : SocketAddress) : ofText? a.text = some a := by
  cases a with
  | v4 host port =>
      rw [ofText?, ofText4?_text]
      rfl
  | v6 host scope port =>
      obtain ⟨inner, htext⟩ : ∃ inner, (text (.v6 host scope port)).toList = '[' :: inner := by
        simp [text]
      have hread := ofText6?_text host scope port
      rw [htext] at hread
      rw [ofText?, htext, ofText4?_bracket, hread]
      rfl

theorem text_injective : Function.Injective text := by
  intro a b htext
  have hread := ofText?_text a
  rw [htext, ofText?_text b] at hread
  exact (Option.some.inj hread).symm

theorem mem_insertOrdered {a x : SocketAddress} {l : List SocketAddress} :
    x ∈ a.insertOrdered l ↔ x = a ∨ x ∈ l := by
  refine ⟨mem_of_mem_insertOrdered, ?_⟩
  induction l with
  | nil => simp [insertOrdered]
  | cons b rest ih =>
      intro hx
      unfold insertOrdered
      split
      · exact List.mem_cons.mpr hx
      · rename_i hab
        split
        · rcases hx with rfl | hx
          · exact List.mem_cons_of_mem b (ih (.inl rfl))
          · rcases List.mem_cons.mp hx with rfl | hx
            · exact List.mem_cons_self
            · exact List.mem_cons_of_mem b (ih (.inr hx))
        · rename_i hba
          -- neither text comes first, so it is one address
          have hsame : a = b := text_injective (String.le_antisymm hba hab)
          rcases hx with rfl | hx
          · exact List.mem_cons.mpr (.inl hsame)
          · exact hx

end SocketAddress

namespace AddressSet

theorem nodup (s : AddressSet) : s.members.Nodup := by
  apply s.ordered.imp
  rintro a b hbefore rfl
  exact String.lt_irrefl _ hbefore

/-- Sets with the same members are listed in the same order. -/
theorem eq_iff {s t : AddressSet} : s = t ↔ ∀ x, x ∈ s.members ↔ x ∈ t.members := by
  constructor
  · rintro rfl x
    exact Iff.rfl
  · intro hmem
    have hperm : s.members.Perm t.members := (List.perm_ext_iff_of_nodup s.nodup t.nodup).mpr hmem
    have hlist : s.members = t.members := by
      refine hperm.eq_of_pairwise ?_ s.ordered t.ordered
      intro a b _ _ hab hba
      exact absurd hba (String.lt_asymm hab)
    cases s
    cases t
    cases hlist
    rfl

theorem mem_foldl_insert {x : SocketAddress} (s : AddressSet) (l : List SocketAddress) :
    x ∈ (l.foldl insert s).members ↔ x ∈ s.members ∨ x ∈ l := by
  induction l generalizing s with
  | nil => simp
  | cons a l ih =>
      rw [List.foldl_cons, ih, insert, SocketAddress.mem_insertOrdered, List.mem_cons, or_assoc,
        or_left_comm]

theorem mem_ofList {x : SocketAddress} (l : List SocketAddress) :
    x ∈ (ofList l).members ↔ x ∈ l := by
  rw [ofList, mem_foldl_insert]
  simp [empty]

end AddressSet

end CandidatePool
