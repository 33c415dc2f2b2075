import CandidatePool.Proofs.Layout
import CandidatePool.Proofs.Numerals
import Mathlib.Data.List.TakeWhile
/-!
Values in the layout are read as what they are.  For each rule of the layout there is one
lemma about the reader of the same thing: given a text that the rule allows, the reader finds what the
rule says and leaves the text behind it.  A rule says where its thing ends and the reader has to find
that out, so most of these lemmas ask that what follows does not go on in the same way.
-/

namespace CandidatePool.Layout

open Toml

variable {i a b r : List Char}

/-! ### Blanks, comments and line breaks -/

/-- No value goes on here: neither a bare one nor, with a further quote, a string. -/
def Stops (r : List Char) : Prop :=
  ∀ c ∈ r.head?, Bare.isBare c = false ∧ c ≠ '"'

theorem stops_cons {c : Char} (hbare : Bare.isBare c = false) (hquote : c ≠ '"') :
    Stops (c :: r) := by
  rintro d ⟨⟩
  exact ⟨hbare, hquote⟩

theorem isBlank_cases {c : Char} (h : isBlank c) : c = ' ' ∨ c = '\t' := by
  simpa [isBlank] using h

theorem Blanks.skip (h : Blanks i r) (hr : ∀ c ∈ r.head?, isBlank c = false) :
    skipBlanks i = r := by
  obtain ⟨blanks, hblanks, rfl⟩ := h
  exact (Text.takeWhile_dropWhile_append hblanks hr).2

theorem Blanks.skip_cons {c : Char} (h : Blanks i (c :: r)) (hc : isBlank c = false) :
    skipBlanks i = c :: r := by
  apply h.skip
  rintro d ⟨⟩
  exact hc

/-- What a text with blanks in front starts with is a blank or what the text starts with. -/
theorem Blanks.head {P : Char → Prop} (h : Blanks i r) (hspace : P ' ') (htab : P '\t')
    (hr : ∀ c ∈ r.head?, P c) : ∀ c ∈ i.head?, P c := by
  obtain ⟨blanks, hblanks, rfl⟩ := h
  cases blanks with
  | nil => exact hr
  | cons d blanks =>
      rintro c ⟨⟩
      rcases isBlank_cases (hblanks d List.mem_cons_self) with rfl | rfl
      · exact hspace
      · exact htab

theorem Blanks.stops (h : Blanks i r) (hr : Stops r) : Stops i :=
  h.head (by decide) (by decide) hr

theorem Comment.stops (h : Comment i r) (hr : Stops r) : Stops i := by
  cases h with
  | none => exact hr
  | some hbody => exact stops_cons rfl (by decide)

theorem LineBreak.stops (h : LineBreak i r) : Stops i := by
  cases h with
  | lf => exact stops_cons rfl (by decide)
  | crlf => exact stops_cons rfl (by decide)

theorem LineEnd.stops (h : LineEnd i r) : Stops i := by
  obtain ⟨hblanks, hcomment, hbreak⟩ := h
  exact hblanks.stops (hcomment.stops hbreak.stops)

theorem TextEnd.stops (h : TextEnd i) : Stops i := by
  obtain ⟨hblanks, hcomment⟩ := h
  apply hblanks.stops
  apply hcomment.stops
  rintro c ⟨⟩

theorem Gap.stops (h : Gap i r) (hr : Stops r) : Stops i := by
  cases h with
  | blanks h => exact h.stops hr
  | line h later => exact h.stops

/-- Blanks and a comment are left out up to the line break. -/
theorem LineEnd.skip (h : LineEnd i r) : LineBreak (skipComment (skipBlanks i)) r := by
  obtain ⟨hblanks, hcomment, hbreak⟩ := h
  cases hcomment with
  | none =>
      cases hbreak with
      | lf =>
          rw [hblanks.skip_cons rfl]
          exact .lf r
      | crlf =>
          rw [hblanks.skip_cons rfl]
          exact .crlf r
  | some hbody =>
      rw [hblanks.skip_cons rfl, skipComment, List.dropWhile_append_of_pos hbody]
      cases hbreak with
      | lf => exact .lf r
      | crlf => exact .crlf r

theorem TextEnd.skip (h : TextEnd i) : skipComment (skipBlanks i) = [] := by
  obtain ⟨hblanks, hcomment⟩ := h
  cases hcomment with
  | none =>
      rw [hblanks.skip (by rintro c ⟨⟩)]
      rfl
  | some hbody =>
      rw [hblanks.skip_cons rfl, skipComment, List.dropWhile_append_of_pos hbody]
      rfl

theorem LineBreak.after (h : LineBreak i r) : afterLineBreak? i = some r := by
  cases h <;> rfl

theorem LineEnd.afterLine (h : LineEnd i r) : afterLine? i = some r := by
  have hbreak := h.skip
  rw [afterLine?]
  generalize skipComment (skipBlanks i) = rest at hbreak ⊢
  cases hbreak <;> rfl

theorem TextEnd.afterLine (h : TextEnd i) : afterLine? i = some [] := by
  rw [afterLine?, h.skip]

theorem LineEnd.length_lt (h : LineEnd i r) : r.length < i.length := by
  obtain ⟨⟨blanks, -, rfl⟩, hcomment, hbreak⟩ := h
  cases hcomment <;> cases hbreak <;> simp only [List.length_append, List.length_cons] <;> omega

/-- A gap ends at an item, a comma or a bracket. -/
theorem Gap.skip {c : Char} (h : Gap i (c :: r)) (hc : c ∈ ['"', ',', ']']) {fuel : Nat}
    (hfuel : i.length ≤ fuel) : skipLines fuel i = c :: r := by
  induction fuel generalizing i with
  | zero =>
      have hnil : i = [] := List.eq_nil_of_length_eq_zero (Nat.le_zero.mp hfuel)
      subst hnil
      cases h with
      | blanks h =>
          obtain ⟨blanks, -, hi⟩ := h
          simp at hi
      | line h later => exact absurd h.length_lt (Nat.not_lt_zero _)
  | succ fuel ih =>
      cases h with
      | blanks h =>
          have hnot : isBlank c = false ∧ afterLineBreak? (skipComment (c :: r)) = none := by
            simp only [List.mem_cons, List.not_mem_nil, or_false] at hc
            rcases hc with rfl | rfl | rfl <;> exact ⟨by decide, rfl⟩
          have hblanks : skipBlanks i = c :: r := h.skip_cons hnot.1
          simp only [skipLines, hblanks, hnot.2]
      | line h later =>
          have hlt := h.length_lt
          simp only [skipLines, h.skip.after]
          exact ih later (by omega)

/-! ### Strings and keys -/

/-- The digits of a numeric escape are read one by one. -/
theorem basic?_code {digits text : List Char} {left number : Nat} {d : Char}
    (hdigits : ∀ c ∈ digits, Numeral.isDigit 16 c) (hleft : digits.length = left + 1)
    (hd : Numeral.extend 16 number digits = d.toNat) :
    Quoted.basic? (.code (left + 1) number) (digits ++ text) =
      Quoted.cons d (Quoted.basic? .start text) := by
  induction digits generalizing left number with
  | nil => cases hleft
  | cons c digits ih =>
      rw [List.forall_mem_cons] at hdigits
      obtain ⟨hc, hlater⟩ := hdigits
      obtain ⟨v, hv⟩ : ∃ v, Numeral.digitValue? c = some v := by
        rw [← Option.isSome_iff_exists]
        rw [Numeral.isDigit] at hc
        exact Option.isSome_of_any hc
      rw [Numeral.extend, List.foldl_cons, hv, Option.getD_some, ← Numeral.extend] at hd
      rw [List.length_cons, Nat.add_right_cancel_iff] at hleft
      cases left with
      | zero =>
          have hnil : digits = [] := List.eq_nil_of_length_eq_zero hleft
          subst hnil
          have hchar : Quoted.character? (16 * number + v) = some d := by
            change 16 * number + v = d.toNat at hd
            have hvalid : d.toNat.isValidChar := d.valid
            rw [hd, Quoted.character?, if_pos hvalid, Char.ofNat_toNat]
          simp [Quoted.basic?, hv, hchar]
      | succ left =>
          have hrest := ih hlater hleft hd
          simp [Quoted.basic?, hv, hrest]

theorem StringBody.read {s : List Char} (h : StringBody i s r) :
    Quoted.basic? .start i = some (s, r) := by
  induction h with
  | close r => rfl
  | plain hplain hquote hescape later ih =>
      rw [Quoted.Stage.start] at ih ⊢
      simp only [Quoted.basic?, if_neg hquote, if_neg hescape, if_pos hplain, Quoted.Stage.start, ih]
      rfl
  | letter h later ih =>
      simp only [letterEscapes, List.mem_cons, Prod.mk.injEq, List.not_mem_nil, or_false] at h
      rw [Quoted.Stage.start] at ih ⊢
      rcases h with ⟨rfl, rfl⟩ | ⟨rfl, rfl⟩ | ⟨rfl, rfl⟩ | ⟨rfl, rfl⟩ | ⟨rfl, rfl⟩ | ⟨rfl, rfl⟩ |
        ⟨rfl, rfl⟩ <;>
        simp [Quoted.basic?, Quoted.escapeWidth?, Quoted.letterEscape?, Quoted.Stage.start, ih,
          Quoted.cons]
  | code hwidth hcode later ih =>
      rename_i u c digits j s r
      obtain ⟨hdigits, hvalue⟩ : (∀ d ∈ digits, Numeral.isDigit 16 d) ∧
          Numeral.extend 16 0 digits = c.toNat := by
        rw [Numeral.value?] at hcode
        split at hcode
        · rename_i hall
          exact ⟨List.all_eq_true.mp hall.2, Option.some.inj hcode⟩
        · cases hcode
      have hread : ∀ left, digits.length = left + 1 →
          Quoted.basic? (.code (left + 1) 0) (digits ++ j) = some (c :: s, r) := by
        intro left hleft
        rw [basic?_code hdigits hleft hvalue, ih]
        rfl
      simp only [List.mem_cons, Prod.mk.injEq, List.not_mem_nil, or_false] at hwidth
      rw [Quoted.Stage.start]
      rcases hwidth with ⟨rfl, hlength⟩ | ⟨rfl, hlength⟩
      · simp [Quoted.basic?, Quoted.escapeWidth?, hread 3 hlength]
      · simp [Quoted.basic?, Quoted.escapeWidth?, hread 7 hlength]

theorem StringText.read {s : String} (h : StringText i s r) (hr : ∀ c ∈ r.head?, c ≠ '"') :
    Quoted.read? i = some (s, r) := by
  obtain ⟨hbody⟩ := h
  rename_i j
  -- three quotes would be an empty string with a quote behind it
  have hsingle : ∀ rest, j ≠ '"' :: '"' :: rest := by
    rintro rest rfl
    generalize s.toList = chars at hbody
    cases hbody with
    | close => exact hr '"' rfl rfl
    | plain hplain hquote => exact hquote rfl
  rw [Quoted.read?.eq_2 j hsingle, hbody.read, Option.map_some]
  simp only [String.ofList_toList]

theorem KeyText.read {key : String} (h : KeyText i key r)
    (hr : ∀ c ∈ r.head?, isKeyChar c = false) : readKey? i = some (key, r) := by
  cases h with
  | bare hne h =>
      rename_i key
      obtain ⟨c, later, rfl⟩ := List.exists_cons_of_ne_nil hne
      have hc : isKeyChar c := h c List.mem_cons_self
      obtain ⟨htake, hdrop⟩ := Text.takeWhile_dropWhile_append h hr
      unfold readKey?
      split
      · rename_i heq
        cases heq
        exact absurd hc (by decide)
      · rename_i heq
        cases heq
        exact absurd hc (by decide)
      · rw [htake, hdrop]
        rfl
  | quoted h =>
      obtain ⟨hbody⟩ := h
      simp only [readKey?, hbody.read, Option.map_some, String.ofList_toList]

/-- What a key starts with. -/
def StartsKey (i : List Char) : Prop :=
  ∃ c later, i = c :: later ∧ (isKeyChar c ∨ c = '"')

theorem KeyText.starts {key : String} (h : KeyText i key r) : StartsKey i := by
  cases h with
  | bare hne h =>
      rename_i key
      obtain ⟨c, later, rfl⟩ := List.exists_cons_of_ne_nil hne
      exact ⟨c, later ++ r, rfl, .inl (h c List.mem_cons_self)⟩
  | quoted h =>
      obtain ⟨hbody⟩ := h
      exact ⟨'"', _, rfl, .inr rfl⟩

theorem StartsKey.not_blank (h : StartsKey i) : ∀ c ∈ i.head?, isBlank c = false := by
  obtain ⟨d, later, rfl, hd⟩ := h
  rintro c ⟨⟩
  rw [← Bool.not_eq_true]
  intro hblank
  rcases isBlank_cases hblank with rfl | rfl
  · exact absurd hd (by decide)
  · exact absurd hd (by decide)

theorem Blanks.not_key (h : Blanks i r) (hr : ∀ c ∈ r.head?, isKeyChar c = false) :
    ∀ c ∈ i.head?, isKeyChar c = false :=
  h.head (by decide) (by decide) hr

/-- What follows a path: neither a blank nor more of it. -/
def EndsPath (r : List Char) : Prop :=
  ∀ c ∈ r.head?, isBlank c = false ∧ isKeyChar c = false ∧ c ≠ '.'

theorem PathText.read {path : List String} (h : PathText i path r) (hr : EndsPath r) {parts : Nat}
    (hparts : path.length ≤ parts) : readPath? parts i = some (path, r) := by
  induction h generalizing parts with
  | last before h after =>
      rename_i i a b r key
      obtain ⟨parts, rfl⟩ := Nat.exists_eq_add_of_le' hparts
      have hkey : readKey? a = some (key, b) := by
        apply h.read
        apply after.not_key
        intro c hc
        exact (hr c hc).2.1
      have hrest : skipBlanks b = r := after.skip fun c hc => (hr c hc).1
      simp only [List.length_singleton, readPath?, before.skip h.starts.not_blank, hkey, hrest,
        Option.bind_eq_bind, Option.bind_some]
      split
      · exact absurd rfl (hr '.' rfl).2.2
      · rfl
  | more before h after later ih =>
      rename_i i a b c r key path
      obtain ⟨parts, rfl⟩ := Nat.exists_eq_add_of_le' hparts
      have hkey : readKey? a = some (key, b) := by
        apply h.read
        apply after.not_key
        rintro d ⟨⟩
        decide
      have hrest : skipBlanks b = '.' :: c := after.skip_cons rfl
      have hlater : readPath? (parts + path.length) c = some (path, r) :=
        ih hr (Nat.le_add_left ..)
      simp only [List.length_cons, ← Nat.add_assoc, readPath?, before.skip h.starts.not_blank, hkey, hrest,
        Option.bind_eq_bind, Option.bind_some, hlater]
      rfl

/-! ### Numbers and flags -/

section Dates

open DateTime

/-- Digits alone are no date and no time, for want of what stands between the numbers. -/
theorem isDateTime_digits {digits : List Char} (h : ∀ c ∈ digits, Numeral.isDigit 10 c) :
    isDateTime digits = false := by
  have hrest : ∀ width n rest, readNumber? width digits = some (n, rest) →
      ∀ c, Numeral.isDigit 10 c = false → Text.after? c rest = none := by
    intro width n rest hread c hc
    have hdrop : rest = digits.drop width := by
      simp only [readNumber?] at hread
      split at hread
      · obtain ⟨m, -, hm⟩ := Option.bind_eq_some_iff.mp hread
        cases hm
        rfl
      · cases hread
    cases rest with
    | nil => rfl
    | cons d rest =>
        have hd : Numeral.isDigit 10 d := by
          apply h d
          apply List.mem_of_mem_drop
          rw [← hdrop]
          exact List.mem_cons_self
        have hne : d ≠ c := by
          rintro rfl
          rw [hd] at hc
          cases hc
        exact if_neg hne
  have hdate : afterDate? digits = none := by
    rw [afterDate?]
    cases hread : readNumber? 4 digits with
    | none => rfl
    | some found =>
        simp only [Option.bind_eq_bind, Option.bind_some, hrest 4 _ _ hread '-' (by decide)]
        rfl
  have htime : afterTime? digits = none := by
    rw [afterTime?]
    cases hread : readNumber? 2 digits with
    | none => rfl
    | some found =>
        simp only [Option.bind_eq_bind, Option.bind_some, hrest 2 _ _ hread ':' (by decide)]
        rfl
  simp [isDateTime, isDate, isDateWithTime, hdate, htime]

/-- Dates and times have no sign. -/
theorem isDateTime_sign {c : Char} (hc : Numeral.isDigit 10 c = false) (text : List Char) :
    isDateTime (c :: text) = false := by
  have hnumber : ∀ width, readNumber? (width + 1) (c :: text) = none := by
    intro width
    have hvalue : Numeral.value? 10 ((c :: text).take (width + 1)) = none := by
      simp [Numeral.value?, hc]
    simp only [readNumber?, hvalue]
    split <;> rfl
  simp [isDateTime, isDate, isDateWithTime, afterDate?, afterTime?, hnumber]

end Dates

theorem ungroup?_digits {digits : List Char} (hne : digits ≠ [])
    (h : ∀ c ∈ digits, Numeral.isDigit 10 c) : Bare.ungroup? 10 digits = some digits := by
  induction digits with
  | nil => exact absurd rfl hne
  | cons c digits ih =>
      rw [List.forall_mem_cons] at h
      cases digits with
      | nil => simp [Bare.ungroup?, h.1]
      | cons d later =>
          have hd : d ≠ '_' := by
            rintro rfl
            exact absurd (h.2 '_' List.mem_cons_self) (by decide)
          have hrest := ih (List.cons_ne_nil d later) h.2
          simp [Bare.ungroup?, hd, h.1, hrest]

theorem wholePart?_toDigits (n : Nat) : Bare.wholePart? (Nat.toDigits 10 n) = some n := by
  have hdigits := Numeral.isDigit_of_mem_toDigits (by decide : 1 < 10) (by decide) n
  have hvalue : Numeral.ofDigits 10 (Nat.toDigits 10 n) = n :=
    Numeral.ofDigits_toDigits (by decide) (by decide) n
  simp only [Bare.wholePart?, ungroup?_digits Nat.toDigits_ne_nil hdigits, Option.bind_eq_bind,
    Option.bind_some]
  rw [if_neg, hvalue]
  rintro ⟨hzero, hlong⟩
  have hn : n ≠ 0 := by
    rintro rfl
    exact absurd hlong (by decide)
  exact Numeral.head?_toDigits_ne_zero (by decide) n hn hzero

theorem isBare_of_isDigit {c : Char} (h : Numeral.isDigit 10 c) : Bare.isBare c := by
  have hdigit : c.isDigit := by
    simp only [Numeral.isDigit, Numeral.digitValue?] at h
    split at h
    · rename_i hc
      simpa [Char.isDigit, Char.le_def] using hc
    · -- letters are worth too much
      split at h
      · simp only [Option.any_some, decide_eq_true_eq] at h
        omega
      · split at h
        · simp only [Option.any_some, decide_eq_true_eq] at h
          omega
        · cases h
  simp [Bare.isBare, Char.isAlphanum, hdigit]

section Digits

variable {digits : List Char} (h : ∀ c ∈ digits, Numeral.isDigit 10 c)

include h

theorem splitSign_digits : Bare.splitSign digits = (false, digits) := by
  unfold Bare.splitSign
  split
  · exact absurd (by simp) (Numeral.not_mem_of_forall_isDigit h (c := '-') (by decide))
  · exact absurd (by simp) (Numeral.not_mem_of_forall_isDigit h (c := '+') (by decide))
  · rfl

theorem anyInteger?_digits :
    Bare.anyInteger? digits = (Bare.wholePart? digits).map fun n => (n : Int) := by
  unfold Bare.anyInteger?
  split
  · exact absurd (by simp) (Numeral.not_mem_of_forall_isDigit h (c := 'x') (by decide))
  · exact absurd (by simp) (Numeral.not_mem_of_forall_isDigit h (c := 'o') (by decide))
  · exact absurd (by simp) (Numeral.not_mem_of_forall_isDigit h (c := 'b') (by decide))
  · rw [splitSign_digits h]
    rfl

/-- Digits with neither a fraction nor an exponent are no floating-point number. -/
theorem isFloat_of_digits {text : List Char} {negative : Bool}
    (htext : Bare.splitSign text = (negative, digits)) : Bare.isFloat text = false := by
  have hgrouped : ∀ c ∈ digits, Bare.isGrouped c := by
    intro c hc
    rw [Bare.isGrouped, h c hc, Bool.true_or]
  have htail : digits.dropWhile Bare.isGrouped = [] := List.dropWhile_eq_nil_iff.mpr hgrouped
  have hinf : digits ≠ "inf".toList := by
    rintro rfl
    exact absurd (h 'i' (by decide)) (by decide)
  have hnan : digits ≠ "nan".toList := by
    rintro rfl
    exact absurd (h 'n' (by decide)) (by decide)
  have hdecimal : Bare.isDecimalFloat negative digits = false := by
    simp only [Bare.isDecimalFloat, htail]
    cases Bare.wholePart? (digits.takeWhile Bare.isGrouped) with
    | none => rfl
    | some whole => simp [Bare.readFraction?, Bare.exponent?]
  simp only [Bare.isFloat, htext, hinf, hnan, hdecimal, decide_false, Bool.or_false]

end Digits

/-- The run of characters that a decimal number is read from. -/
theorem IntegerText.run {n : Int} (h : IntegerText i n r) :
    ∃ run, i = run ++ r ∧ run ≠ [] ∧ (∀ c ∈ run, Bare.isBare c ∧ c ≠ 't' ∧ c ≠ 'f') ∧
      DateTime.isDateTime run = false ∧ Bare.anyInteger? run = some n ∧
      Bare.isFloat run = false := by
  have hdigits : ∀ n, ∀ c ∈ Nat.toDigits 10 n, Numeral.isDigit 10 c :=
    Numeral.isDigit_of_mem_toDigits (by decide) (by decide)
  have hplain : ∀ n, ∀ c ∈ Nat.toDigits 10 n, Bare.isBare c ∧ c ≠ 't' ∧ c ≠ 'f' := by
    intro n c hc
    have hdigit := hdigits n c hc
    refine ⟨isBare_of_isDigit hdigit, ?_, ?_⟩
    · rintro rfl
      exact absurd hdigit (by decide)
    · rintro rfl
      exact absurd hdigit (by decide)
  cases h with
  | unsigned n =>
      refine ⟨Nat.toDigits 10 n, rfl, Nat.toDigits_ne_nil, hplain n, ?_, ?_, ?_⟩
      · exact isDateTime_digits (hdigits n)
      · rw [anyInteger?_digits (hdigits n), wholePart?_toDigits]
        rfl
      · exact isFloat_of_digits (hdigits n) (splitSign_digits (hdigits n))
  | plus n =>
      refine ⟨'+' :: Nat.toDigits 10 n, rfl, List.cons_ne_nil _ _, ?_, ?_, ?_, ?_⟩
      · exact List.forall_mem_cons.mpr ⟨by decide, hplain n⟩
      · exact isDateTime_sign (by decide) _
      · simp [Bare.anyInteger?, Bare.splitSign, wholePart?_toDigits]
      · exact isFloat_of_digits (hdigits n) rfl
  | minus n =>
      refine ⟨'-' :: Nat.toDigits 10 n, rfl, List.cons_ne_nil _ _, ?_, ?_, ?_, ?_⟩
      · exact List.forall_mem_cons.mpr ⟨by decide, hplain n⟩
      · exact isDateTime_sign (by decide) _
      · simp [Bare.anyInteger?, Bare.splitSign, wholePart?_toDigits]
      · exact isFloat_of_digits (hdigits n) rfl

theorem readRun_append {run : List Char} (hrun : ∀ c ∈ run, Bare.isBare c) (hr : Stops r)
    (hdate : DateTime.isDate run = false) : Bare.readRun (run ++ r) = (run, r) := by
  obtain ⟨htake, hdrop⟩ := Text.takeWhile_dropWhile_append hrun fun c hc => (hr c hc).1
  simp only [Bare.readRun, htake, hdrop, hdate, Bool.false_and, Bool.false_eq_true, if_false]
  split <;> rfl

/-! ### Values -/

/-- What a value is read as.  An integer that needs more than 64 bits is read as nothing. -/
def Value.node? : Value → Option Node
  | .integer n =>
    if -9223372036854775808 ≤ n ∧ n ≤ 9223372036854775807 then some (.integer n) else none
  | .flag b => some (.boolean b)
  | .string s => some (.string s)
  | .strings l => some (.array (l.map .string))

/-- A value whose first character is bare is read as a bare value. -/
theorem readValue?_bare {run : List Char} (hne : run ≠ []) (hrun : ∀ c ∈ run, Bare.isBare c)
    (depth : Nat) : readValue? (depth + 1) (run ++ r) = Bare.read? (run ++ r) := by
  obtain ⟨c, later, rfl⟩ := List.exists_cons_of_ne_nil hne
  have hc := hrun c List.mem_cons_self
  have hnot : c ≠ '[' ∧ c ≠ '{' ∧ c ≠ '"' ∧ c ≠ '\'' := by
    refine ⟨?_, ?_, ?_, ?_⟩ <;>
      · rintro rfl
        exact absurd hc (by decide)
  simp [readValue?, readFlat?, hnot]

theorem IntegerText.read {n : Int} (h : IntegerText i n r) (hr : Stops r) (depth : Nat) :
    readValue? (depth + 1) i = (Value.integer n).node?.map fun node => (node, r) := by
  obtain ⟨run, rfl, hne, hrun, hdateTime, hinteger, hfloat⟩ := h.run
  have hbare : ∀ c ∈ run, Bare.isBare c := fun c hc => (hrun c hc).1
  have hdate : DateTime.isDate run = false := by
    simp only [DateTime.isDateTime, Bool.or_eq_false_iff] at hdateTime
    exact hdateTime.1.1
  have hword : run ≠ "true".toList ∧ run ≠ "false".toList := by
    constructor
    · rintro rfl
      exact (hrun 't' (by decide)).2.1 rfl
    · rintro rfl
      exact (hrun 'f' (by decide)).2.2 rfl
  rw [readValue?_bare hne hbare]
  simp only [Bare.read?, readRun_append hbare hr hdate, Bare.ofRun?, if_neg hword.1,
    if_neg hword.2, hdateTime, Bare.integer?, hinteger, hfloat, Value.node?, Option.filter_some,
    Bool.false_eq_true, if_false, decide_eq_true_eq]
  by_cases hfits : -9223372036854775808 ≤ n ∧ n ≤ 9223372036854775807
  · simp only [if_pos hfits, Option.map_some]
  · simp only [if_neg hfits, Option.map_none]

/-- A word that is a value of its own. -/
theorem readValue?_word {run : List Char} {node : Node} (hne : run ≠ [])
    (hrun : run.all Bare.isBare) (hdate : DateTime.isDate run = false)
    (hnode : Bare.ofRun? run = some node) (hr : Stops r) (depth : Nat) :
    readValue? (depth + 1) (run ++ r) = some (node, r) := by
  rw [List.all_eq_true] at hrun
  rw [readValue?_bare hne hrun]
  simp only [Bare.read?, readRun_append hrun hr hdate, hnode, Option.map_some]

theorem StringText.readValue {s : String} (h : StringText i s r) (hr : Stops r) (depth : Nat) :
    readValue? depth i = some (.string s, r) := by
  have hread := h.read fun c hc => (hr c hc).2
  obtain ⟨hbody⟩ := h
  cases depth with
  | zero => simp [readValue?, readFlat?, hread]
  | succ depth => simp [readValue?, readFlat?, hread]

theorem ItemsText.read {l : List String} (h : ItemsText i l r) {depth fuel : Nat}
    (hfuel : l.length < fuel) :
    readItems? (readValue? depth) fuel i = some (l.map .string, r) := by
  induction h generalizing fuel with
  | close gap =>
      obtain ⟨fuel, rfl⟩ := Nat.exists_eq_add_one_of_ne_zero (Nat.ne_zero_of_lt hfuel)
      simp [readItems?, gap.skip (c := ']') (by decide) (Nat.le_refl _)]
  | last before item after =>
      obtain ⟨fuel, rfl⟩ := Nat.exists_eq_add_one_of_ne_zero (Nat.ne_zero_of_lt hfuel)
      have hitem := item.readValue (after.stops (stops_cons rfl (by decide))) depth
      have hclose := after.skip (c := ']') (by decide) (Nat.le_refl _)
      obtain ⟨hbody⟩ := item
      have hopen := before.skip (c := '"') (by decide) (Nat.le_refl _)
      simp [readItems?, hopen, hitem, hclose]
  | more before item after later ih =>
      obtain ⟨fuel, rfl⟩ := Nat.exists_eq_add_one_of_ne_zero (Nat.ne_zero_of_lt hfuel)
      have hitem := item.readValue (after.stops (stops_cons rfl (by decide))) depth
      have hcomma := after.skip (c := ',') (by decide) (Nat.le_refl _)
      have hlater := ih (Nat.lt_of_succ_lt_succ hfuel)
      obtain ⟨hbody⟩ := item
      have hopen := before.skip (c := '"') (by decide) (Nat.le_refl _)
      simp [readItems?, hopen, hitem, hcomma, hlater]

theorem Blanks.length_le (h : Blanks i r) : r.length ≤ i.length := by
  obtain ⟨blanks, -, rfl⟩ := h
  rw [List.length_append]
  exact Nat.le_add_left ..

theorem Gap.length_le (h : Gap i r) : r.length ≤ i.length := by
  induction h with
  | blanks h => exact h.length_le
  | line h later ih => exact Nat.le_trans ih (Nat.le_of_lt h.length_lt)

theorem StringBody.length_lt {s : List Char} (h : StringBody i s r) : r.length < i.length := by
  induction h with
  | close => exact Nat.lt_succ_self _
  | plain hplain hquote hescape later ih => exact Nat.lt_succ_of_lt ih
  | letter h later ih => exact Nat.lt_succ_of_lt (Nat.lt_succ_of_lt ih)
  | code hwidth hcode later ih =>
      rw [List.length_cons, List.length_cons, List.length_append]
      omega

theorem StringText.length_lt {s : String} (h : StringText i s r) : r.length < i.length := by
  obtain ⟨hbody⟩ := h
  exact Nat.lt_succ_of_lt hbody.length_lt

/-- Each item takes some room, so there are fewer of them than characters. -/
theorem ItemsText.length_lt {l : List String} (h : ItemsText i l r) :
    l.length + r.length < i.length := by
  induction h with
  | close gap =>
      have hclose := gap.length_le
      rw [List.length_cons] at hclose
      rw [List.length_nil]
      omega
  | last before item after =>
      have hbefore := before.length_le
      have hitem := item.length_lt
      have hclose := after.length_le
      rw [List.length_cons] at hclose
      rw [List.length_singleton]
      omega
  | more before item after later ih =>
      have hbefore := before.length_le
      have hitem := item.length_lt
      have hcomma := after.length_le
      rw [List.length_cons] at hcomma ⊢
      omega

theorem ValueText.read {v : Value} (h : ValueText i v r) (hr : Stops r) (depth : Nat) :
    readValue? (depth + 1) i = v.node?.map fun node => (node, r) := by
  cases h with
  | integer h => exact h.read hr depth
  | yes => exact readValue?_word (by decide) (by decide) (by decide) rfl hr depth
  | no => exact readValue?_word (by decide) (by decide) (by decide) rfl hr depth
  | string h => exact h.readValue hr _
  | strings h =>
      rename_i i l
      have hitems : readItems? (readValue? depth) (i.length + 1) i = some (l.map .string, r) :=
        h.read (Nat.lt_succ_of_lt (Nat.lt_of_le_of_lt (Nat.le_add_right ..) h.length_lt))
      simp only [readValue?, hitems]
      rfl

end CandidatePool.Layout
