import ControlInterface.Text.Basic
import Mathlib

/-!
# Decimal text

The digits of a number in base ten, and the numbers that digits without a leading zero
spell.
-/

namespace Text

theorem digitChar_of_isDigit {char : Char} (digit : char.isDigit = true) :
    char.toNat - 48 < 10 ∧ Nat.digitChar (char.toNat - 48) = char := by
  have range : 48 ≤ char.toNat ∧ char.toNat ≤ 57 := by
    simpa [Char.isDigit, UInt32.le_iff_toNat_le] using digit
  have small : char.toNat - 48 < 10 := by omega
  refine ⟨small, Char.toNat_inj.mp ?_⟩
  rw [Nat.toNat_digitChar_of_lt_ten small]
  omega

/-- Digits without a leading zero are the digits of the number they spell. -/
theorem toDigits_ofDigitChars {digits : List Char} (nonempty : digits ≠ [])
    (inside : ∀ char ∈ digits, char.isDigit = true)
    (noZero : digits.head? = some '0' → digits.length ≤ 1) :
    Nat.toDigits 10 (Nat.ofDigitChars 10 digits 0) = digits := by
  induction digits using List.reverseRecOn with
  | nil => contradiction
  | append_singleton front last ih =>
      rcases digitChar_of_isDigit (inside last (by simp)) with ⟨small, isLast⟩
      have lastDigits : Nat.toDigits 10 (last.toNat - 48) = [last] := by
        rw [Nat.toDigits_of_lt_base small, isLast]
      rw [Nat.ofDigitChars_append, Nat.ofDigitChars_cons, Nat.ofDigitChars_nil]
      simp only [Char.reduceToNat]
      cases front with
      | nil => simpa using lastDigits
      | cons first others =>
          have notZero : first ≠ '0' := by
            intro same
            subst same
            simpa using noZero rfl
          have frontDigits := ih (by simp)
            (fun char member => inside char (List.mem_append_left _ member))
            (fun zero => absurd (Option.some.inj zero) notZero)
          have positive : 0 < Nat.ofDigitChars 10 (first :: others) 0 := by
            refine Nat.pos_of_ne_zero fun zero => notZero ?_
            rw [zero, Nat.toDigits_zero] at frontDigits
            exact (List.cons.inj frontDigits).1.symm
          rw [← Nat.toDigits_append_toDigits (by decide) positive small, frontDigits, lastDigits]

/-- Printed numbers have no leading zero. -/
theorem toDigits_head_ne_zero {value : Nat} (positive : 0 < value) :
    (Nat.toDigits 10 value).head? ≠ some '0' := by
  induction value using Nat.strongRecOn with
  | ind value ih =>
      rw [Nat.toDigits_eq_if (by decide)]
      split
      next small =>
        intro zero
        have spelled := congrArg Char.toNat (Option.some.inj zero)
        rw [Nat.toNat_digitChar_of_lt_ten small] at spelled
        simp only [Char.reduceToNat] at spelled
        omega
      next =>
        have front := ih (value / 10) (by omega) (by omega)
        rwa [List.head?_append_of_ne_nil _ Nat.toDigits_ne_nil]

end Text
