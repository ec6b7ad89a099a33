import ControlInterface.Text.Decimal
import ControlInterface.Text.Hex

/-!
# Numerals

Numbers in a base up to sixteen, as the standard library reads them at the start of a
text: as many digits as there are, within a number of digits and below a bound.
-/

namespace Text

/-- `char::to_digit` -/
def toDigit (radix : Nat) (char : Char) : Option Nat := (hexDigit? char).filter (· < radix)

def isDigit (radix : Nat) (char : Char) : Bool := (toDigit radix char).isSome

/-- The number a text of digits spells. -/
def numeral? (radix : Nat) (chars : List Char) : Option Nat :=
  (chars.mapM (toDigit radix)).map (number radix)

/-- `Parser::read_number`: a number below a bound, and what follows it. -/
def readNumber (radix : Nat) (maxDigits : Option Nat) (allowZeroPrefix : Bool) (bound : Nat)
    (chars : List Char) : Option (Nat × List Char) :=
  let digits := chars.takeWhile (isDigit radix)
  match numeral? radix digits with
  | none => none
  | some result =>
      if digits = [] ∨ (∃ most ∈ maxDigits, most < digits.length) ∨
          (allowZeroPrefix = false ∧ digits.head? = some '0' ∧ 1 < digits.length) ∨ bound ≤ result
      then none
      else some (result, chars.dropWhile (isDigit radix))

/-! ## Digits -/

section Digits

variable {radix : Nat}

theorem toDigit_eq_some_iff {char : Char} {digit : Nat} :
    toDigit radix char = some digit ↔ hexDigit? char = some digit ∧ digit < radix := by
  rw [toDigit, Option.filter_eq_some_iff, decide_eq_true_eq]

theorem toDigit_digitChar {digit : Nat} (inBase : digit < radix) (small : radix ≤ 16) :
    toDigit radix (Nat.digitChar digit) = some digit :=
  toDigit_eq_some_iff.mpr ⟨hexDigit?_hexChar (by omega), inBase⟩

/-- Decimal digits are those that the standard library names so. -/
theorem isDigit_ten_iff {char : Char} : isDigit 10 char = true ↔ char.isDigit = true := by
  rw [isDigit, Option.isSome_iff_exists]
  simp only [toDigit_eq_some_iff, hexDigit?_eq_some_iff, Char.isDigit, Bool.and_eq_true,
    decide_eq_true_eq, UInt32.le_iff_toNat_le, ge_iff_le, Char.reduceVal, UInt32.reduceToNat,
    Char.toNat_val]
  constructor
  · intro digit
    rcases digit with ⟨value, spelled, small⟩
    omega
  · intro range
    exact ⟨char.toNat - 48, .inl ⟨range.1, range.2, rfl⟩, by omega⟩

/-- A digit of a base is one of every larger base. -/
theorem isDigit_mono {larger : Nat} {char : Char} (le : radix ≤ larger)
    (digit : isDigit radix char = true) : isDigit larger char = true := by
  rw [isDigit, Option.isSome_iff_exists] at digit ⊢
  rcases digit with ⟨value, digit⟩
  rw [toDigit_eq_some_iff] at digit
  exact ⟨value, toDigit_eq_some_iff.mpr ⟨digit.1, digit.2.trans_le le⟩⟩

end Digits

/-! ## Numerals -/

section Numerals

variable {radix : Nat}

/-- The last digit of a number. -/
theorem numeral?_append_singleton_eq_some_iff {front : List Char} {last : Char} {value : Nat} :
    numeral? radix (front ++ [last]) = some value ↔
      ∃ frontValue digit, numeral? radix front = some frontValue ∧
        toDigit radix last = some digit ∧ frontValue * radix + digit = value := by
  simp only [numeral?, Option.map_eq_some_iff, List.mapM_append, List.mapM_cons, List.mapM_nil,
    Option.bind_eq_bind, Option.bind_eq_some_iff, Option.pure_def, Option.some.injEq]
  constructor
  · intro read
    rcases read with ⟨_, ⟨front, readFront, _, ⟨digit, isLast, _, rfl, rfl⟩, rfl⟩, rfl⟩
    exact ⟨_, digit, ⟨front, readFront, rfl⟩, isLast, (number_append_singleton front digit).symm⟩
  · intro split
    rcases split with ⟨_, digit, ⟨front, readFront, rfl⟩, isLast, rfl⟩
    exact ⟨_, ⟨front, readFront, _, ⟨digit, isLast, _, rfl, rfl⟩, rfl⟩,
      number_append_singleton front digit⟩

/-- The digits of a number spell it. -/
theorem numeral?_toDigits (large : 1 < radix) (small : radix ≤ 16) (value : Nat) :
    numeral? radix (Nat.toDigits radix value) = some value := by
  induction value using Nat.strongRecOn with
  | ind value ih =>
      rw [Nat.toDigits_eq_if large]
      split
      next inBase => simp [numeral?, toDigit_digitChar inBase small, number]
      next beyond =>
        have smaller : value / radix < value := Nat.div_lt_self (by omega) large
        have inBase : value % radix < radix := Nat.mod_lt _ (by omega)
        rw [numeral?_append_singleton_eq_some_iff]
        exact ⟨_, _, ih _ smaller, toDigit_digitChar inBase small, Nat.div_add_mod' value radix⟩

/-- A text spells a number just when all its characters are digits. -/
theorem isSome_numeral?_iff {chars : List Char} :
    (numeral? radix chars).isSome ↔ ∀ char ∈ chars, isDigit radix char = true := by
  rw [numeral?, Option.isSome_map]
  induction chars with
  | nil => simp
  | cons char rest ih =>
      rw [List.mapM_cons, List.forall_mem_cons, ← ih, isDigit]
      cases toDigit radix char <;> cases rest.mapM (toDigit radix) <;> simp

theorem isDigit_of_numeral? {chars : List Char} {value : Nat}
    (spelled : numeral? radix chars = some value) : ∀ char ∈ chars, isDigit radix char = true := by
  rw [← isSome_numeral?_iff, spelled, Option.isSome_some]

theorem isDigit_toDigits (large : 1 < radix) (small : radix ≤ 16) (value : Nat) :
    ∀ char ∈ Nat.toDigits radix value, isDigit radix char = true :=
  isDigit_of_numeral? (numeral?_toDigits large small value)

theorem numeral?_lt {chars : List Char} {value : Nat}
    (spelled : numeral? radix chars = some value) : value < radix ^ chars.length := by
  induction chars using List.reverseRecOn generalizing value with
  | nil =>
      cases spelled
      exact Nat.one_pos
  | append_singleton front last ih =>
      rcases numeral?_append_singleton_eq_some_iff.mp spelled with
        ⟨frontValue, digit, readFront, isLast, rfl⟩
      have below := Nat.mul_le_mul_right radix (Nat.succ_le_of_lt (ih readFront))
      have inBase := (toDigit_eq_some_iff.mp isLast).2
      rw [List.length_append, List.length_singleton, Nat.pow_succ]
      rw [Nat.succ_mul] at below
      omega

/-- In base ten the number is the one the library spells so. -/
theorem ofDigitChars_eq_of_numeral? {chars : List Char} {value : Nat}
    (spelled : numeral? 10 chars = some value) : Nat.ofDigitChars 10 chars 0 = value := by
  induction chars using List.reverseRecOn generalizing value with
  | nil => cases spelled; rfl
  | append_singleton front last ih =>
      rcases numeral?_append_singleton_eq_some_iff.mp spelled with
        ⟨frontValue, digit, readFront, isLast, rfl⟩
      have digitValue : digit = last.toNat - 48 := by
        rw [toDigit_eq_some_iff, hexDigit?_eq_some_iff] at isLast
        omega
      rw [Nat.ofDigitChars_append, ih readFront, Nat.ofDigitChars_cons, Nat.ofDigitChars_nil,
        digitValue]
      simp only [Char.reduceToNat]
      omega

/-- A decimal number without leading zeros has one spelling. -/
theorem toDigits_of_numeral? {chars : List Char} {value : Nat} (nonempty : chars ≠ [])
    (noZero : chars.head? = some '0' → chars.length ≤ 1)
    (spelled : numeral? 10 chars = some value) : Nat.toDigits 10 value = chars := by
  rw [← ofDigitChars_eq_of_numeral? spelled]
  apply toDigits_ofDigitChars nonempty
  · intro char member
    exact isDigit_ten_iff.mp (isDigit_of_numeral? spelled char member)
  · exact noZero

end Numerals

/-! ## Reading -/

/-- The digits are read as the number, if no more of them follow. -/
structure IsNumeral (radix : Nat) (maxDigits : Option Nat) (allowZeroPrefix : Bool) (bound : Nat)
    (digits : List Char) (value : Nat) : Prop where
  spelled : numeral? radix digits = some value
  nonempty : digits ≠ []
  short : ∀ most ∈ maxDigits, digits.length ≤ most
  noZero : allowZeroPrefix = false → digits.head? = some '0' → digits.length ≤ 1
  small : value < bound

theorem readNumber_eq_some_iff {radix : Nat} {maxDigits : Option Nat} {allowZeroPrefix : Bool}
    {bound value : Nat} {chars rest : List Char} :
    readNumber radix maxDigits allowZeroPrefix bound chars = some (value, rest) ↔
      ∃ digits, chars = digits ++ rest ∧ Stops (isDigit radix) rest ∧
        IsNumeral radix maxDigits allowZeroPrefix bound digits value := by
  constructor
  · intro read
    refine ⟨chars.takeWhile (isDigit radix), ?_⟩
    rw [readNumber] at read
    split at read
    next => cases read
    next result spelled =>
      simp only [Option.ite_none_left_eq_some, not_or, Option.some.injEq, Prod.mk.injEq] at read
      rcases read with ⟨⟨nonempty, short, noZero, small⟩, rfl, rfl⟩
      refine ⟨List.takeWhile_append_dropWhile.symm, stops_dropWhile _ _, spelled, nonempty, ?_,
        ?_, ?_⟩
      · intro most given
        by_contra long
        exact short ⟨most, given, Nat.not_le.mp long⟩
      · intro disallowed leading
        by_contra long
        exact noZero ⟨disallowed, leading, Nat.not_le.mp long⟩
      · exact Nat.not_le.mp small
  · intro split
    rcases split with ⟨digits, rfl, stops, isNumeral⟩
    have inside := isDigit_of_numeral? isNumeral.spelled
    simp only [readNumber, takeWhile_append inside stops, dropWhile_append inside stops,
      isNumeral.spelled]
    rw [if_neg]
    intro refused
    rcases refused with empty | ⟨most, given, long⟩ | ⟨disallowed, leading, long⟩ | large
    · exact isNumeral.nonempty empty
    · exact absurd (isNumeral.short most given) (Nat.not_le.mpr long)
    · exact absurd (isNumeral.noZero disallowed leading) (Nat.not_le.mpr long)
    · exact absurd isNumeral.small (Nat.not_lt.mpr large)

/-- Read the next character if it is the given one (`Parser::read_given_char`). -/
def readGivenChar (target : Char) : List Char → Option (List Char)
  | [] => none
  | char :: rest => if char = target then some rest else none

theorem readGivenChar_eq_some_iff {target : Char} {chars rest : List Char} :
    readGivenChar target chars = some rest ↔ chars = target :: rest := by
  cases chars with
  | nil => simp [readGivenChar]
  | cons char others =>
      rw [readGivenChar, Option.ite_none_right_eq_some, Option.some.injEq, List.cons.injEq]

end Text
