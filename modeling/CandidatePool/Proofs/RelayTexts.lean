import CandidatePool.Proofs.Numerals
import CandidatePool.Relay
/-!
What a relay's text tells of the relay.  The address stands in the text as it is, and it may hold any
character, the marks between the parts of the text among them; an address may even look like the end
of another relay's text.  So nothing is to be learnt from the first mark of a kind, or from how many
there are.

Behind the address, however, stand only digits and the word of a transport.  The last `=` of a text
is therefore the one in front of the word, and when all from the question mark on is gone, the last
`:` is the one in front of the port.  What is left is the scheme and the address, and whether the
scheme is the secured one shows in the character behind its first four.
-/

namespace CandidatePool

/-! ### The last mark of a text -/

namespace Text

/-- Read from the back, a text runs up to its last mark of a kind. -/
theorem reverse_last {mark : Char} {after : List Char} (hafter : mark ∉ after)
    (before : List Char) :
    (before ++ mark :: after).reverse.takeWhile (· != mark) = after.reverse ∧
      (before ++ mark :: after).reverse.dropWhile (· != mark) = mark :: before.reverse := by
  have hrun : ∀ c ∈ after.reverse, (c != mark) = true := by
    intro c hc
    rw [bne_iff_ne]
    rintro rfl
    exact hafter (List.mem_reverse.mp hc)
  have hstop : ∀ c ∈ (mark :: before.reverse).head?, (c != mark) = false := by
    intro c hc
    cases hc
    exact bne_self_eq_false mark
  have hback : (before ++ mark :: after).reverse = after.reverse ++ mark :: before.reverse := by
    simp
  rw [hback]
  exact takeWhile_dropWhile_append hrun hstop

/-- A text is cut at the last mark of a kind in one way only, whatever stands before it. -/
theorem cut_at_last {mark : Char} {before before' after after' : List Char}
    (hafter : mark ∉ after) (hafter' : mark ∉ after')
    (heq : before ++ mark :: after = before' ++ mark :: after') :
    before = before' ∧ after = after' := by
  obtain ⟨hrun, hrest⟩ := reverse_last hafter before
  obtain ⟨hrun', hrest'⟩ := reverse_last hafter' before'
  rw [heq] at hrun hrest
  constructor
  · exact List.reverse_injective (List.cons.inj (hrest.symm.trans hrest')).2
  · exact List.reverse_injective (hrun.symm.trans hrun')

end Text

/-! ### Relays told apart -/

namespace Transport

theorem word_injective {t t' : Transport} (h : t.word = t'.word) : t = t' := by
  have hread : some t = some t' := by
    rw [← t.ofWord?_word, h, t'.ofWord?_word]
  exact Option.some.inj hread

theorem not_mem_word (t : Transport) : '=' ∉ t.word.toList := by
  cases t <;> decide

end Transport

namespace Relay

/-- The text of a relay, in the parts into which it is cut from the back. -/
theorem toList_text (r : Relay) :
    r.text.toList =
      ((r.scheme.toList ++ ':' :: r.address.toList) ++ ':' :: Nat.toDigits 10 r.port.toNat ++
        "?transport".toList) ++ '=' :: r.transport.word.toList := by
  simp [text]

theorem not_mem_port (r : Relay) : ':' ∉ Nat.toDigits 10 r.port.toNat :=
  Numeral.not_mem_of_forall_isDigit
    (Numeral.isDigit_of_mem_toDigits (by decide) (by decide) r.port.toNat) (by decide)

/-- Plain and secured traffic are told apart in front of any address. -/
theorem eq_of_scheme_address {r r' : Relay}
    (h : r.scheme.toList ++ ':' :: r.address.toList =
      r'.scheme.toList ++ ':' :: r'.address.toList) :
    r.secure = r'.secure ∧ r.address = r'.address := by
  by_cases hsecure : r.secure = r'.secure
  · have hscheme : r.scheme = r'.scheme := by rw [scheme, scheme, hsecure]
    rw [hscheme] at h
    have haddress := (List.cons.inj (List.append_cancel_left h)).2
    exact ⟨hsecure, String.toList_inj.mp haddress⟩
  · -- where one text has its colon the other one has the fifth letter of its scheme
    cases hplain : r.secure <;> cases hplain' : r'.secure
    · exact absurd (hplain.trans hplain'.symm) hsecure
    · simp [scheme, hplain, hplain'] at h
    · simp [scheme, hplain, hplain'] at h
    · exact absurd (hplain.trans hplain'.symm) hsecure

/-- The texts of two relays are equal exactly when the relays differ in nothing but their names and
    passwords. -/
theorem text_eq_iff (r r' : Relay) :
    r.text = r'.text ↔
      r.secure = r'.secure ∧ r.address = r'.address ∧ r.port = r'.port ∧
        r.transport = r'.transport := by
  constructor
  · intro htext
    have hchars : r.text.toList = r'.text.toList := congrArg String.toList htext
    rw [toList_text, toList_text] at hchars
    obtain ⟨hfront, hword⟩ :=
      Text.cut_at_last r.transport.not_mem_word r'.transport.not_mem_word hchars
    obtain ⟨hopening, hdigits⟩ :=
      Text.cut_at_last r.not_mem_port r'.not_mem_port (List.append_cancel_right hfront)
    obtain ⟨hsecure, haddress⟩ := eq_of_scheme_address hopening
    have hport : r.port.toNat = r'.port.toNat := by
      calc r.port.toNat
          = Nat.ofDigitChars 10 (Nat.toDigits 10 r.port.toNat) 0 :=
            Nat.ofDigitChars_ten_toDigits.symm
        _ = Nat.ofDigitChars 10 (Nat.toDigits 10 r'.port.toNat) 0 := by rw [hdigits]
        _ = r'.port.toNat := Nat.ofDigitChars_ten_toDigits
    have htransport : r.transport = r'.transport :=
      Transport.word_injective (String.toList_inj.mp hword)
    exact ⟨hsecure, haddress, UInt16.toNat_inj.mp hport, htransport⟩
  · rintro ⟨hsecure, haddress, hport, htransport⟩
    rw [text, text, scheme, scheme, hsecure, haddress, hport, htransport]

end Relay

end CandidatePool
