import CandidatePool.Numeral
import CandidatePool.Text.Front
import Mathlib.Algebra.Group.Nat.Defs
import Mathlib.Data.List.Basic
/-!
Numbers in a text, in any base up to 16.  The digits that a number is written with stand for the
number, and a reader who takes as many digits as there are gets back the number and what follows it,
as long as what follows does not go on with a digit.
-/

namespace CandidatePool.Numeral

/-! ### Digits -/

theorem digitValue?_digitChar {d : Nat} (h : d < 16) : digitValue? d.digitChar = some d := by
  revert d
  decide

section Runs

variable {base : Nat} {digits : List Char} (hdigits : ∀ c ∈ digits, isDigit base c = true)

include hdigits

/-- A run of digits is taken from the front of a text as a whole if no digit follows it. -/
theorem leading_append_of_head? {rest : List Char}
    (hrest : ∀ c ∈ rest.head?, isDigit base c = false) :
    leading base (digits ++ rest) = digits ∧ afterLeading base (digits ++ rest) = rest :=
  Text.takeWhile_dropWhile_append hdigits hrest

theorem not_mem_of_forall_isDigit {c : Char} (hc : isDigit base c = false) : c ∉ digits := by
  intro hmem
  rw [hdigits c hmem] at hc
  cases hc

theorem value?_of_forall_isDigit (hne : digits ≠ []) :
    value? base digits = some (ofDigits base digits) := by
  rw [value?, if_pos ⟨hne, List.all_eq_true.mpr hdigits⟩]

end Runs

theorem extend_append (base n : Nat) (digits more : List Char) :
    extend base n (digits ++ more) = extend base (extend base n digits) more :=
  List.foldl_append

/-! ### The digits of a number -/

section Numbers

variable {base : Nat} (hlow : 1 < base) (hhigh : base ≤ 16) (n : Nat)

include hlow hhigh

omit hlow in
theorem isDigit_digitChar {d : Nat} (h : d < base) : isDigit base d.digitChar := by
  simp [isDigit, digitValue?_digitChar (Nat.lt_of_lt_of_le h hhigh), h]

theorem isDigit_of_mem_toDigits : ∀ c ∈ Nat.toDigits base n, isDigit base c = true := by
  induction n using Nat.strongRecOn with
  | ind n ih =>
      intro c hc
      rw [Nat.toDigits_eq_if hlow] at hc
      split at hc
      · rename_i hlt
        rw [List.mem_singleton.mp hc]
        exact isDigit_digitChar hhigh hlt
      · rename_i hle
        rcases List.mem_append.mp hc with hearlier | hlast
        · exact ih (n / base) (Nat.div_lt_self (by omega) hlow) c hearlier
        · rw [List.mem_singleton.mp hlast]
          exact isDigit_digitChar hhigh (Nat.mod_lt n (by omega))

theorem ofDigits_toDigits : ofDigits base (Nat.toDigits base n) = n := by
  induction n using Nat.strongRecOn with
  | ind n ih =>
      have hdigit : ∀ d < base, (digitValue? d.digitChar).getD 0 = d := by
        intro d hd
        rw [digitValue?_digitChar (Nat.lt_of_lt_of_le hd hhigh), Option.getD_some]
      rw [Nat.toDigits_eq_if hlow]
      split
      · rename_i hlt
        simp [ofDigits, extend, hdigit n hlt]
      · rename_i hle
        have hearlier := ih (n / base) (Nat.div_lt_self (by omega) hlow)
        rw [ofDigits] at hearlier
        rw [ofDigits, extend_append, hearlier]
        simp only [extend, List.foldl_cons, List.foldl_nil, hdigit _ (Nat.mod_lt n (by omega))]
        exact Nat.div_add_mod n base

theorem value?_toDigits : value? base (Nat.toDigits base n) = some n := by
  rw [value?_of_forall_isDigit (isDigit_of_mem_toDigits hlow hhigh n) Nat.toDigits_ne_nil,
    ofDigits_toDigits hlow hhigh]

omit hhigh in
/-- Only the number 0 is written with a zero in front. -/
theorem head?_toDigits_ne_zero (hn : n ≠ 0) : (Nat.toDigits base n).head? ≠ some '0' := by
  induction n using Nat.strongRecOn with
  | ind n ih =>
      rw [Nat.toDigits_eq_if hlow]
      split
      · simp [hn]
      · rename_i hle
        have hpos : 0 < n / base := Nat.div_pos (by omega) (by omega)
        rw [List.head?_append_of_ne_nil _ Nat.toDigits_ne_nil]
        exact ih (n / base) (Nat.div_lt_self (by omega) hlow) (by omega)

/-- A number that is small enough is written with as many digits as one likes. -/
theorem exists_digits {width : Nat} (h : n < base ^ width) :
    ∃ digits, digits.length = width ∧ (∀ c ∈ digits, isDigit base c) ∧
      ofDigits base digits = n := by
  induction width generalizing n with
  | zero =>
      refine ⟨[], rfl, List.forall_mem_nil _, ?_⟩
      rw [Nat.lt_one_iff.mp h]
      rfl
  | succ width ih =>
      rw [Nat.pow_succ'] at h
      obtain ⟨digits, hlength, hdigits, hvalue⟩ := ih (n / base) (Nat.div_lt_of_lt_mul h)
      have hlast : n % base < base := Nat.mod_lt n (by omega)
      refine ⟨digits ++ [(n % base).digitChar], ?_, ?_, ?_⟩
      · rw [List.length_append, hlength, List.length_singleton]
      · intro c hc
        rcases List.mem_append.mp hc with hmem | hmem
        · exact hdigits c hmem
        · rw [List.mem_singleton.mp hmem]
          exact isDigit_digitChar hhigh hlast
      · have hdigit := digitValue?_digitChar (Nat.lt_of_lt_of_le hlast hhigh)
        rw [ofDigits] at hvalue ⊢
        rw [extend_append, hvalue, extend, List.foldl_cons, List.foldl_nil, hdigit,
          Option.getD_some]
        exact Nat.div_add_mod n base

variable {n} {rest : List Char} (hrest : ∀ c ∈ rest.head?, isDigit base c = false)

include hrest

/-- A number is read up to where its digits end. -/
theorem leading_toDigits_append :
    leading base (Nat.toDigits base n ++ rest) = Nat.toDigits base n :=
  (leading_append_of_head? (isDigit_of_mem_toDigits hlow hhigh n) hrest).1

theorem afterLeading_toDigits_append : afterLeading base (Nat.toDigits base n ++ rest) = rest :=
  (leading_append_of_head? (isDigit_of_mem_toDigits hlow hhigh n) hrest).2

end Numbers

end CandidatePool.Numeral
