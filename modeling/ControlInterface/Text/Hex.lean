import ControlInterface.Text.Basic
import Mathlib.Tactic.IntervalCases
import Mathlib.Tactic.Ring

/-!
# Hexadecimal text

The number a list of digits spells in a base, and hexadecimal digits of either
case.  A string of digits is compared through the number it spells, so that two
spellings of one byte string are related without either being the canonical one.
-/

namespace Text

/-! ## Positional notation -/

/-- The number a list of digits spells, the most significant first. -/
def number (base : Nat) : List Nat → Nat
  | [] => 0
  | digit :: rest => digit * base ^ rest.length + number base rest

section Number

variable {base : Nat}

theorem number_lt {digits : List Nat} (bounded : ∀ digit ∈ digits, digit < base) :
    number base digits < base ^ digits.length := by
  induction digits with
  | nil => simp [number]
  | cons digit rest ih =>
      simp only [List.mem_cons, forall_eq_or_imp] at bounded
      have tail := ih bounded.2
      have head := Nat.mul_le_mul_right (base ^ rest.length) (Nat.succ_le_of_lt bounded.1)
      rw [number, List.length_cons, Nat.pow_succ, Nat.mul_comm _ base]
      rw [Nat.succ_mul] at head
      omega

/-- Numbers of one length are equal only when they agree digit by digit. -/
theorem number_injective {left right : List Nat} (sameLength : left.length = right.length)
    (leftBounded : ∀ digit ∈ left, digit < base) (rightBounded : ∀ digit ∈ right, digit < base)
    (equal : number base left = number base right) : left = right := by
  induction left generalizing right with
  | nil => exact (List.length_eq_zero_iff.mp sameLength.symm).symm
  | cons digit rest ih =>
      cases right with
      | nil => cases sameLength
      | cons other others =>
          simp only [List.mem_cons, forall_eq_or_imp] at leftBounded rightBounded
          simp only [List.length_cons, Nat.add_right_cancel_iff] at sameLength
          have below := number_lt leftBounded.2
          have belowOther := number_lt rightBounded.2
          rw [number, number, sameLength] at equal
          rw [sameLength] at below
          have positive : 0 < base ^ others.length := by omega
          have heads : digit = other := by
            have quotient := congrArg (· / base ^ others.length) equal
            simpa [Nat.mul_comm _ (base ^ others.length), Nat.mul_add_div positive,
              Nat.div_eq_of_lt below, Nat.div_eq_of_lt belowOther] using quotient
          subst heads
          rw [ih sameLength leftBounded.2 rightBounded.2 (by omega)]

/-- Grouping digits in pairs squares the base. -/
theorem number_pairs (pairs : List (Nat × Nat)) :
    number base (pairs.flatMap fun pair => [pair.1, pair.2]) =
      number (base * base) (pairs.map fun pair => pair.1 * base + pair.2) := by
  induction pairs with
  | nil => rfl
  | cons pair rest ih =>
      have length : (rest.flatMap fun pair => [pair.1, pair.2]).length = 2 * rest.length := by
        simp [List.length_flatMap, Nat.mul_comm]
      simp only [List.flatMap_cons, List.cons_append, List.nil_append, List.map_cons, number,
        List.length_cons, List.length_map, length, ih, Nat.mul_pow]
      ring

theorem number_append_singleton (front : List Nat) (last : Nat) :
    number base (front ++ [last]) = number base front * base + last := by
  induction front with
  | nil => simp [number]
  | cons digit rest ih =>
      rw [List.cons_append, number, number, ih, List.length_append, List.length_singleton,
        Nat.pow_succ]
      ring

end Number

/-! ## Digits -/

/-- The value of a hexadecimal digit of either case. -/
def hexDigit? (char : Char) : Option Nat :=
  if '0' ≤ char ∧ char ≤ '9' then some (char.toNat - 48)
  else if 'a' ≤ char ∧ char ≤ 'f' then some (char.toNat - 87)
  else if 'A' ≤ char ∧ char ≤ 'F' then some (char.toNat - 55)
  else none

/-- A decimal digit or one of the letters `a` to `f`. -/
def IsLowerHex (char : Char) : Prop := ('0' ≤ char ∧ char ≤ '9') ∨ ('a' ≤ char ∧ char ≤ 'f')

instance (char : Char) : Decidable (IsLowerHex char) := inferInstanceAs (Decidable (_ ∨ _))

/-- The lowercase digit of a value below 16. -/
def hexChar (value : Nat) : Char := Nat.digitChar value

/-- The number a hexadecimal text spells, if every character of it is a digit. -/
def hexNumber? (chars : List Char) : Option Nat := (chars.mapM hexDigit?).map (number 16)

theorem hexDigit?_hexChar {value : Nat} (small : value < 16) :
    hexDigit? (hexChar value) = some value := by
  interval_cases value <;> rfl

theorem isLowerHex_hexChar {value : Nat} (small : value < 16) : IsLowerHex (hexChar value) := by
  interval_cases value <;> decide

/-- The ranges of digits, by code point. -/
theorem hexDigit?_eq_some_iff {char : Char} {value : Nat} :
    hexDigit? char = some value ↔
      (48 ≤ char.toNat ∧ char.toNat ≤ 57 ∧ value = char.toNat - 48) ∨
        (97 ≤ char.toNat ∧ char.toNat ≤ 102 ∧ value = char.toNat - 87) ∨
          (65 ≤ char.toNat ∧ char.toNat ≤ 70 ∧ value = char.toNat - 55) := by
  simp only [hexDigit?, Char.le_def, UInt32.le_iff_toNat_le, Char.toNat_val, Char.reduceToNat]
  split
  · grind
  · grind

theorem hexDigit?_lt {char : Char} {value : Nat} (digit : hexDigit? char = some value) :
    value < 16 := by
  rw [hexDigit?_eq_some_iff] at digit
  omega

theorem isAscii_of_hexDigit? {char : Char} {value : Nat} (digit : hexDigit? char = some value) :
    IsAscii char := by
  rw [hexDigit?_eq_some_iff] at digit
  simp only [IsAscii, UInt32.lt_iff_toNat_lt, Char.toNat_val, UInt32.reduceToNat]
  omega

theorem isLowerHex_iff {char : Char} :
    IsLowerHex char ↔
      (48 ≤ char.toNat ∧ char.toNat ≤ 57) ∨ (97 ≤ char.toNat ∧ char.toNat ≤ 102) := by
  simp only [IsLowerHex, Char.le_def, UInt32.le_iff_toNat_le, Char.toNat_val, Char.reduceToNat]

/-- A lowercase digit is the digit of its value. -/
theorem IsLowerHex.hexDigit? {char : Char} (lower : IsLowerHex char) :
    ∃ value, Text.hexDigit? char = some value := by
  rw [isLowerHex_iff] at lower
  rcases lower with decimal | letter
  · exact ⟨_, hexDigit?_eq_some_iff.mpr (.inl ⟨decimal.1, decimal.2, rfl⟩)⟩
  · exact ⟨_, hexDigit?_eq_some_iff.mpr (.inr (.inl ⟨letter.1, letter.2, rfl⟩))⟩

theorem IsLowerHex.isAscii {char : Char} (lower : IsLowerHex char) : IsAscii char := by
  rcases lower.hexDigit? with ⟨_, digit⟩
  exact isAscii_of_hexDigit? digit

theorem hexNumber?_isSome_iff {chars : List Char} :
    (hexNumber? chars).isSome ↔ ∀ char ∈ chars, (hexDigit? char).isSome := by
  rw [hexNumber?, Option.isSome_map]
  induction chars with
  | nil => simp
  | cons char rest ih =>
      rw [List.mapM_cons, List.forall_mem_cons, ← ih]
      cases hexDigit? char <;> cases rest.mapM hexDigit? <;> simp

/-! ## Prefixed text -/

/-- The text without one leading `0x`. -/
def unprefixed (text : String) : String := (stripPrefix "0x" text).getD text

/-- A text of digits has no prefix to lose. -/
theorem unprefixed_of_digits {text : String}
    (digits : ∀ char ∈ text.toList, (hexDigit? char).isSome) : unprefixed text = text := by
  cases stripped : stripPrefix "0x" text with
  | none => rw [unprefixed, stripped, Option.getD_none]
  | some rest =>
      have letter : (hexDigit? 'x').isSome := digits 'x' (by
        rw [stripPrefix_eq_some_iff.mp stripped]
        simp)
      exact absurd letter (by decide)

theorem unprefixed_of_isLowerHex {text : String} (lower : ∀ char ∈ text.toList, IsLowerHex char) :
    unprefixed text = text :=
  unprefixed_of_digits fun char member =>
    Option.isSome_iff_exists.mpr (lower char member).hexDigit?

theorem unprefixed_append (text : String) : unprefixed ("0x" ++ text) = text := by
  rw [unprefixed, stripPrefix_eq_some_iff.mpr rfl, Option.getD_some]

/-- What is left is the text, or what follows the prefix in it. -/
theorem eq_or_eq_prefixed (text : String) :
    text = unprefixed text ∨ text = "0x" ++ unprefixed text := by
  cases stripped : stripPrefix "0x" text with
  | none => exact .inl (by rw [unprefixed, stripped, Option.getD_none])
  | some rest =>
      have split := stripPrefix_eq_some_iff.mp stripped
      exact .inr (by rw [unprefixed, stripped, Option.getD_some, ← split])

end Text
