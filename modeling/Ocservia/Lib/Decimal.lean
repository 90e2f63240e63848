import Mathlib.Data.List.Induction
import Mathlib.Tactic.IntervalCases

/-!
# Decimal numerals

A decimal text without a leading zero is the printed form of its value: a parser that accepts such
texts only and the printer are inverse to each other.
-/

namespace Decimal

open Nat List

/-- The value of a sequence of decimal digits. -/
abbrev value (digits : List Char) : Nat := Nat.ofDigitChars 10 digits 0

/-- Digits without a leading zero, except for the numeral zero. -/
structure Canonical (digits : List Char) : Prop where
  ne_nil : digits ≠ []
  digit : ∀ c ∈ digits, c.isDigit = true
  zero : digits.head? = some '0' → digits.length = 1

theorem toNat_of_isDigit {c : Char} (h : c.isDigit = true) : 48 ≤ c.toNat ∧ c.toNat ≤ 57 := by
  simp only [Char.isDigit, Bool.and_eq_true, decide_eq_true_eq, ge_iff_le,
    UInt32.le_iff_toNat_le] at h
  exact h

theorem digitChar_of_isDigit {c : Char} (h : c.isDigit = true) :
    Nat.digitChar (c.toNat - 48) = c := by
  obtain ⟨hle, hge⟩ := toNat_of_isDigit h
  have hc : c = Char.ofNat c.toNat := (Char.ofNat_toNat c).symm
  rw [hc]
  generalize c.toNat = n at *
  interval_cases n <;> rfl

theorem value_append_singleton (digits : List Char) (c : Char) :
    value (digits ++ [c]) = 10 * value digits + (c.toNat - 48) := by
  simp [value, ofDigitChars]

theorem value_le_value_append (a b : List Char) : value a ≤ value (a ++ b) := by
  induction b using reverseRecOn with
  | nil => simp
  | append_singleton b c ih =>
    rw [← append_assoc, value_append_singleton]
    omega

/-- **A canonical numeral is the printed form of its value.** -/
theorem toDigits_value {digits : List Char} (h : Canonical digits) :
    Nat.toDigits 10 (value digits) = digits := by
  induction digits using reverseRecOn with
  | nil => exact absurd rfl h.ne_nil
  | append_singleton init c ih =>
    have hc : c.isDigit = true := h.digit c (by simp)
    have hlt : c.toNat - 48 < 10 := by
      have := toNat_of_isDigit hc
      omega
    have hlast : toDigits 10 (c.toNat - 48) = [c] := by
      rw [toDigits_of_lt_base hlt, digitChar_of_isDigit hc]
    rw [value_append_singleton]
    by_cases hinit : init = []
    · subst hinit
      simpa [value, ofDigitChars] using hlast
    -- the digits before the last are canonical themselves, and not zero
    have hhead : init.head? ≠ some '0' := fun hzero => by
      have hlength := h.zero (by rw [head?_append, hzero]; rfl)
      simp [hinit] at hlength
    have hcanonical : Canonical init :=
      ⟨hinit, fun d hd => h.digit d (by simp [hd]), fun hzero => absurd hzero hhead⟩
    have hprinted := ih hcanonical
    have hpos : 0 < value init := pos_of_ne_zero fun hzero => by
      rw [hzero] at hprinted
      rw [← hprinted] at hhead
      exact hhead rfl
    rw [← toDigits_append_toDigits (by decide) hpos hlt, hprinted, hlast]

theorem value_toDigits (n : Nat) : value (Nat.toDigits 10 n) = n :=
  ofDigitChars_toDigits (by decide) (by decide)

theorem toDigits_canonical (n : Nat) : Canonical (Nat.toDigits 10 n) := by
  refine ⟨Nat.toDigits_ne_nil,
    fun c hc => Nat.isDigit_of_mem_toDigits (by decide) (by decide) hc, ?_⟩
  induction n using Nat.strongRecOn with
  | ind n ih =>
    by_cases hlt : n < 10
    · simp [toDigits_of_lt_base hlt]
    rw [toDigits_of_base_le (by decide) (by omega), head?_append,
      head?_eq_some_head toDigits_ne_nil, Option.some_or,
      ← head?_eq_some_head toDigits_ne_nil]
    intro hzero
    -- a leading zero makes the quotient the numeral zero
    have hlength := ih (n / 10) (by omega) hzero
    obtain ⟨c, hc⟩ := length_eq_one_iff.1 hlength
    rw [hc] at hzero
    cases hzero
    have hvalue := value_toDigits (n / 10)
    rw [hc] at hvalue
    simp [value, ofDigitChars] at hvalue
    omega

end Decimal
