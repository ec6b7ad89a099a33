import ControlInterface.Text.Hex
import Mathlib

/-!
# Collation

The order of strings, byte by byte, and the order of numbers.  Between texts of one
width in lowercase hexadecimal the two are the same order.
-/

namespace Text

/-! ## Comparing digit by digit -/

theorem compare_congr {left right first second : Nat} (less : left < right ↔ first < second)
    (greater : right < left ↔ second < first) : compare left right = compare first second := by
  rcases Nat.lt_trichotomy left right with below | same | above
  · rw [Nat.compare_eq_lt.mpr below, Nat.compare_eq_lt.mpr (less.mp below)]
  · have equal : first = second := by omega
    rw [same, equal, Nat.compare_eq_eq.mpr rfl, Nat.compare_eq_eq.mpr rfl]
  · rw [Nat.compare_eq_gt.mpr above, Nat.compare_eq_gt.mpr (greater.mp above)]

/-- Two lists of digits of one length compare as the numbers they spell. -/
theorem compare_number {base : Nat} {left right : List Nat}
    (sameLength : left.length = right.length) (leftBounded : ∀ digit ∈ left, digit < base)
    (rightBounded : ∀ digit ∈ right, digit < base) :
    compare left right = compare (number base left) (number base right) := by
  induction left generalizing right with
  | nil =>
      rw [List.length_eq_zero_iff.mp sameLength.symm]
      rfl
  | cons digit rest ih =>
      cases right with
      | nil => cases sameLength
      | cons other others =>
          rw [List.forall_mem_cons] at leftBounded rightBounded
          rw [List.length_cons, List.length_cons, Nat.add_right_cancel_iff] at sameLength
          have tails := ih sameLength leftBounded.2 rightBounded.2
          have below := number_lt leftBounded.2
          have belowOther := number_lt rightBounded.2
          rw [← sameLength] at belowOther
          rw [List.compare_cons_cons, tails, number, number, ← sameLength]
          rcases Nat.lt_trichotomy digit other with less | same | greater
          · -- a smaller first digit outweighs all that follow
            have outweighs := Nat.mul_le_mul_right (base ^ rest.length) (Nat.succ_le_of_lt less)
            rw [Nat.succ_mul] at outweighs
            rw [Nat.compare_eq_lt.mpr less, Ordering.lt_then, eq_comm, Nat.compare_eq_lt]
            omega
          · subst same
            rw [Nat.compare_eq_eq.mpr rfl, Ordering.eq_then]
            exact compare_congr (by omega) (by omega)
          · have outweighs := Nat.mul_le_mul_right (base ^ rest.length) (Nat.succ_le_of_lt greater)
            rw [Nat.succ_mul] at outweighs
            rw [Nat.compare_eq_gt.mpr greater, Ordering.gt_then, eq_comm, Nat.compare_eq_gt]
            omega

theorem compare_byte (left right : UInt8) : compare left right = compare left.toNat right.toNat := by
  simp only [compare, compareOfLessAndEq, UInt8.lt_iff_toNat_lt, ← UInt8.toNat_inj]

theorem compare_bytes (left right : List UInt8) :
    compare left right = compare (left.map UInt8.toNat) (right.map UInt8.toNat) := by
  induction left generalizing right with
  | nil => cases right <;> rfl
  | cons byte rest ih =>
      cases right with
      | nil => rfl
      | cons other others =>
          rw [List.map_cons, List.map_cons, List.compare_cons_cons, List.compare_cons_cons,
            compare_byte, ih]

/-! ## Strings -/

/-- The order of strings (`str::cmp`): byte by byte. -/
def compareText (left right : String) : Ordering := compare (bytes left) (bytes right)

theorem bytes_injective {left right : String} (same : bytes left = bytes right) : left = right := by
  have encoded := congrArg List.toByteArray same
  change left.toList.utf8Encode = right.toList.utf8Encode at encoded
  rwa [← String.toByteArray_ofList, ← String.toByteArray_ofList, String.ofList_toList,
    String.ofList_toList, String.toByteArray_inj] at encoded

instance : Std.TransCmp compareText := inferInstanceAs (Std.TransCmp (compareOn bytes))

instance : Std.LawfulEqCmp compareText where
  compare_self := Std.ReflCmp.compare_self
  eq_of_compare same := bytes_injective (Std.LawfulEqCmp.eq_of_compare same)

/-! ## Lowercase hexadecimal -/

/-- The character is the lowercase digit of the value. -/
def IsLowerDigit (char : Char) (value : Nat) : Prop := IsLowerHex char ∧ hexDigit? char = some value

/-- The letters follow the decimal digits, as their values do. -/
theorem compare_lowerDigit {left right : Char} {leftValue rightValue : Nat}
    (leftDigit : IsLowerDigit left leftValue) (rightDigit : IsLowerDigit right rightValue) :
    compare (byte left) (byte right) = compare leftValue rightValue := by
  rcases leftDigit with ⟨leftLower, leftRead⟩
  rcases rightDigit with ⟨rightLower, rightRead⟩
  rw [compare_byte, byte_toNat (isAscii_of_hexDigit? leftRead),
    byte_toNat (isAscii_of_hexDigit? rightRead)]
  rw [isLowerHex_iff] at leftLower rightLower
  rw [hexDigit?_eq_some_iff] at leftRead rightRead
  exact compare_congr (by omega) (by omega)

theorem exists_lowerDigits {chars : List Char} (lower : ∀ char ∈ chars, IsLowerHex char)
    {value : Nat} (spelled : hexNumber? chars = some value) :
    ∃ digits, List.Forall₂ IsLowerDigit chars digits ∧ number 16 digits = value := by
  rw [hexNumber?, Option.map_eq_some_iff] at spelled
  rcases spelled with ⟨digits, read, same⟩
  refine ⟨digits, ?_, same⟩
  clear same
  induction chars generalizing digits with
  | nil =>
      cases read
      exact .nil
  | cons char rest ih =>
      rw [List.forall_mem_cons] at lower
      simp only [List.mapM_cons, Option.bind_eq_bind, Option.bind_eq_some_iff, Option.pure_def,
        Option.some.injEq] at read
      rcases read with ⟨digit, isDigit, others, readOthers, rfl⟩
      exact .cons ⟨lower.1, isDigit⟩ (ih lower.2 others readOthers)

theorem compare_lowerDigits {left right : List Char} {leftDigits rightDigits : List Nat}
    (leftRead : List.Forall₂ IsLowerDigit left leftDigits)
    (rightRead : List.Forall₂ IsLowerDigit right rightDigits) :
    compare (left.map byte) (right.map byte) = compare leftDigits rightDigits := by
  induction leftRead generalizing right rightDigits with
  | nil => cases rightRead <;> rfl
  | cons digit _ ih =>
      cases rightRead with
      | nil => rfl
      | cons other others =>
          rw [List.map_cons, List.map_cons, List.compare_cons_cons, List.compare_cons_cons,
            compare_lowerDigit digit other, ih others]

theorem lowerDigits_lt {chars : List Char} {digits : List Nat}
    (read : List.Forall₂ IsLowerDigit chars digits) : ∀ digit ∈ digits, digit < 16 := by
  induction read with
  | nil => simp
  | cons digit _ ih => exact List.forall_mem_cons.mpr ⟨hexDigit?_lt digit.2, ih⟩

theorem hexNumber?_lt {chars : List Char} (lower : ∀ char ∈ chars, IsLowerHex char) {value : Nat}
    (spelled : hexNumber? chars = some value) : value < 16 ^ chars.length := by
  rcases exists_lowerDigits lower spelled with ⟨digits, read, rfl⟩
  rw [read.length_eq]
  exact number_lt (lowerDigits_lt read)

/-- Lowercase texts of one width compare as the numbers they spell. -/
theorem compareText_of_isLowerHex {left right : String}
    (sameLength : left.toList.length = right.toList.length)
    (leftLower : ∀ char ∈ left.toList, IsLowerHex char)
    (rightLower : ∀ char ∈ right.toList, IsLowerHex char) {leftNumber rightNumber : Nat}
    (leftSpelled : hexNumber? left.toList = some leftNumber)
    (rightSpelled : hexNumber? right.toList = some rightNumber) :
    compareText left right = compare leftNumber rightNumber := by
  rcases exists_lowerDigits leftLower leftSpelled with ⟨leftDigits, leftRead, rfl⟩
  rcases exists_lowerDigits rightLower rightSpelled with ⟨rightDigits, rightRead, rfl⟩
  have digitsLength : leftDigits.length = rightDigits.length := by
    rw [← leftRead.length_eq, ← rightRead.length_eq, sameLength]
  rw [compareText, bytes_of_ascii, bytes_of_ascii, compare_lowerDigits leftRead rightRead]
  · exact compare_number digitsLength (lowerDigits_lt leftRead) (lowerDigits_lt rightRead)
  · exact fun char member => (rightLower char member).isAscii
  · exact fun char member => (leftLower char member).isAscii

end Text
