import ControlInterface.Text.Decimal

/-!
# Semantic versions

Versions as the `semver` crate has them (three 64-bit numbers, an optional
pre-release and optional build metadata), their grammar and their printed form.
Reading and printing are inverse to each other.
-/

namespace Semver

open Text

/-! ## Versions -/

/-- A character of a pre-release or of build metadata. -/
def isIdentChar (char : Char) : Bool := char.isAlphanum || char == '-' || char == '.'

/-- A dot-separated part: not empty, and in a pre-release not a number with a
leading zero. -/
def isSegment (pre : Bool) (segment : List Char) : Bool :=
  !segment.isEmpty &&
    !(pre && segment.all Char.isDigit && decide (1 < segment.length) && segment.head? == some '0')

def isIdentifier (pre : Bool) (text : List Char) : Bool :=
  text.all isIdentChar && (text.splitOn '.').all (isSegment pre)

/-- A pre-release (`pre`) or build metadata that is not empty. -/
abbrev Identifier (pre : Bool) := { text : List Char // isIdentifier pre text = true }

/-- `semver::Version`; an empty pre-release or build is `none`. -/
structure Version where
  major : UInt64
  minor : UInt64
  patch : UInt64
  pre : Option (Identifier true)
  build : Option (Identifier false)
  deriving DecidableEq

/-- A version without pre-release and build metadata. -/
def Version.new (major minor patch : UInt64) : Version where
  major := major
  minor := minor
  patch := patch
  pre := none
  build := none

/-! ## Printing -/

/-- The decimal digits of a component. -/
def decimal (value : UInt64) : List Char := Nat.toDigits 10 value.toNat

/-- An optional identifier, behind its mark. -/
def marked {pre : Bool} (mark : Char) : Option (Identifier pre) → List Char
  | none => []
  | some identifier => mark :: identifier.1

def Version.chars (version : Version) : List Char :=
  decimal version.major ++ '.' :: (decimal version.minor ++ '.' :: (decimal version.patch ++
    (marked '-' version.pre ++ marked '+' version.build)))

def Version.display (version : Version) : String := String.ofList version.chars

/-! ## Reading -/

/-- A decimal number of at most 64 bits, without leading zeros, and what follows it. -/
def numericIdentifier (chars : List Char) : Option (UInt64 × List Char) :=
  let digits := chars.takeWhile Char.isDigit
  let value := Nat.ofDigitChars 10 digits 0
  if digits = [] ∨ (1 < digits.length ∧ digits.head? = some '0') ∨ 2 ^ 64 ≤ value then none
  else some (UInt64.ofNat value, chars.dropWhile Char.isDigit)

def dot : List Char → Option (List Char)
  | '.' :: rest => some rest
  | _ => none

/-- A pre-release or build metadata, and what follows it. -/
def identifier (pre : Bool) (chars : List Char) : Option (Identifier pre × List Char) :=
  let text := chars.takeWhile isIdentChar
  if valid : isIdentifier pre text = true then
    some (⟨text, valid⟩, chars.dropWhile isIdentChar)
  else none

/-- An identifier if its mark comes next. -/
def optional (pre : Bool) (mark : Char) : List Char → Option (Option (Identifier pre) × List Char)
  | [] => some (none, [])
  | char :: rest =>
      if char = mark then (identifier pre rest).map fun (value, rest) => (some value, rest)
      else some (none, char :: rest)

/-- `Version::from_str`, on characters. -/
def Version.read (chars : List Char) : Option Version := do
  let (major, chars) ← numericIdentifier chars
  let chars ← dot chars
  let (minor, chars) ← numericIdentifier chars
  let chars ← dot chars
  let (patch, chars) ← numericIdentifier chars
  let (pre, chars) ← optional true '-' chars
  let (build, chars) ← optional false '+' chars
  if chars = [] then some ⟨major, minor, patch, pre, build⟩ else none

def Version.parse (text : String) : Option Version := read text.toList

example : (Version.parse "1.0.0-rc.1+sha").map Version.display = some "1.0.0-rc.1+sha" := by
  decide +kernel

/-! ## Components -/

theorem decimal_digits (value : UInt64) : ∀ char ∈ decimal value, char.isDigit = true :=
  fun _ member => Nat.isDigit_of_mem_toDigits (by decide) (by decide) member

theorem decimal_noZero {value : UInt64} (long : 1 < (decimal value).length) :
    (decimal value).head? ≠ some '0' := by
  refine toDigits_head_ne_zero (Nat.pos_of_ne_zero fun zero => ?_)
  rw [decimal, zero, Nat.toDigits_zero] at long
  exact absurd long (by decide)

/-- A component is read back from its digits, and from nothing else. -/
theorem numericIdentifier_eq_some_iff {chars rest : List Char} {value : UInt64} :
    numericIdentifier chars = some (value, rest) ↔
      chars = decimal value ++ rest ∧ Stops Char.isDigit rest := by
  constructor
  · intro read
    simp only [numericIdentifier, Option.ite_none_left_eq_some, not_or, Option.some.injEq,
      Prod.mk.injEq] at read
    rcases read with ⟨⟨nonempty, noZero, small⟩, rfl, rfl⟩
    refine ⟨?_, stops_dropWhile _ _⟩
    have inside : ∀ char ∈ chars.takeWhile Char.isDigit, char.isDigit = true := fun char member =>
      List.mem_takeWhile_imp member
    rw [decimal, UInt64.toNat_ofNat_of_lt' (by simpa using small),
      toDigits_ofDigitChars nonempty inside (by grind), List.takeWhile_append_dropWhile]
  · intro split
    rcases split with ⟨rfl, stops⟩
    have bounded := value.toNat_lt
    simp only [numericIdentifier, takeWhile_append (decimal_digits value) stops,
      dropWhile_append (decimal_digits value) stops]
    rw [if_neg]
    · rw [decimal, Nat.ofDigitChars_ten_toDigits, UInt64.ofNat_toNat]
    · intro refused
      rcases refused with empty | ⟨long, zero⟩ | large
      · exact Nat.toDigits_ne_nil empty
      · exact decimal_noZero long zero
      · rw [decimal, Nat.ofDigitChars_ten_toDigits] at large
        omega

theorem dot_eq_some_iff {chars rest : List Char} :
    dot chars = some rest ↔ chars = '.' :: rest := by
  unfold dot
  split <;> simp_all

section Identifier

variable {pre : Bool}

theorem identifier_chars (value : Identifier pre) : ∀ char ∈ value.1, isIdentChar char = true := by
  have valid := value.2
  simp only [isIdentifier, Bool.and_eq_true, List.all_eq_true] at valid
  exact valid.1

theorem identifier_eq_some_iff {chars rest : List Char} {value : Identifier pre} :
    identifier pre chars = some (value, rest) ↔
      chars = value.1 ++ rest ∧ Stops isIdentChar rest := by
  constructor
  · intro read
    simp only [identifier, Option.dite_none_right_eq_some, Option.some.injEq,
      Prod.mk.injEq] at read
    rcases read with ⟨valid, rfl, rfl⟩
    exact ⟨List.takeWhile_append_dropWhile.symm, stops_dropWhile _ _⟩
  · intro split
    rcases split with ⟨rfl, stops⟩
    have taken := takeWhile_append (identifier_chars value) stops
    simp only [identifier, taken, dropWhile_append (identifier_chars value) stops, value.2,
      dif_pos]

/-- What follows an optional identifier does not belong to it, or does not start it. -/
def Ends (mark : Char) (rest : List Char) : Option (Identifier pre) → Prop
  | none => rest.head? ≠ some mark
  | some _ => Stops isIdentChar rest

theorem optional_eq_some_iff {mark : Char} {chars rest : List Char}
    {value : Option (Identifier pre)} :
    optional pre mark chars = some (value, rest) ↔
      chars = marked mark value ++ rest ∧ Ends mark rest value := by
  cases value with
  | none =>
      cases chars with
      | nil =>
          simp only [optional, marked, Ends, Option.some.injEq, Prod.mk.injEq, true_and,
            List.nil_append]
          constructor
          · intro same
            subst same
            exact ⟨rfl, by simp⟩
          · intro split
            exact split.1
      | cons char others =>
          simp only [optional, marked, Ends, List.nil_append]
          by_cases same : char = mark
          · subst same
            simp only [if_true, Option.map_eq_some_iff, Prod.mk.injEq, reduceCtorEq, false_and,
              and_false, exists_false, false_iff, not_and, not_not]
            intro same
            subst same
            rfl
          · simp only [if_neg same, Option.some.injEq, Prod.mk.injEq, true_and]
            constructor
            · intro same
              subst same
              exact ⟨rfl, by simpa using same⟩
            · intro split
              exact split.1
  | some value =>
      cases chars with
      | nil => simp [optional, marked]
      | cons char others =>
          by_cases same : char = mark
          · simp [optional, marked, Ends, identifier_eq_some_iff, same]
          · simp [optional, marked, same]

end Identifier

/-! ## Versions are read back -/

theorem stops_marked {pre : Bool} {belongs : Char → Bool} {mark : Char}
    (other : belongs mark = false) (value : Option (Identifier pre)) {rest : List Char}
    (stops : Stops belongs rest) : Stops belongs (marked mark value ++ rest) := by
  cases value with
  | none => exact stops
  | some value => simpa [marked, Stops] using other

theorem ends_of_stops {pre : Bool} {mark : Char} (value : Option (Identifier pre))
    {rest : List Char} (stops : Stops isIdentChar rest) (unmarked : rest.head? ≠ some mark) :
    Ends mark rest value := by
  cases value with
  | none => exact unmarked
  | some value => exact stops

/-- A version is read from its printed characters, and from nothing else. -/
theorem Version.read_eq_some_iff {chars : List Char} {version : Version} :
    read chars = some version ↔ chars = version.chars := by
  simp only [read, Option.bind_eq_bind, Option.bind_eq_some_iff, Prod.exists,
    numericIdentifier_eq_some_iff, dot_eq_some_iff, optional_eq_some_iff,
    Option.ite_none_right_eq_some, Option.some.injEq]
  constructor
  · rintro ⟨major, _, ⟨rfl, _⟩, _, rfl, minor, _, ⟨rfl, _⟩, _, rfl, patch, _, ⟨rfl, _⟩, pre, _,
      ⟨rfl, _⟩, build, _, ⟨rfl, _⟩, rfl, rfl⟩
    rw [List.append_nil]
    rfl
  · intro same
    subst same
    rcases version with ⟨major, minor, patch, pre, build⟩
    have tail : Stops Char.isDigit (marked '-' pre ++ marked '+' build) :=
      stops_marked rfl pre (List.append_nil (marked '+' build) ▸ stops_marked rfl build nofun)
    have endsPre : Ends '-' (marked '+' build) pre := by
      apply ends_of_stops pre
      · exact List.append_nil (marked '+' build) ▸ stops_marked rfl build nofun
      · cases build <;> simp [marked]
    exact ⟨major, _, ⟨rfl, by simp [Stops]⟩, _, rfl, minor, _, ⟨rfl, by simp [Stops]⟩, _, rfl,
      patch, _, ⟨rfl, tail⟩, pre, _, ⟨rfl, endsPre⟩, build, [], ⟨(List.append_nil _).symm,
        ends_of_stops build nofun nofun⟩, rfl, rfl⟩

theorem Version.parse_eq_some_iff {text : String} {version : Version} :
    parse text = some version ↔ text = version.display := by
  rw [parse, read_eq_some_iff, display, ← String.toList_inj, String.toList_ofList]

@[simp] theorem Version.parse_display (version : Version) :
    parse version.display = some version :=
  parse_eq_some_iff.mpr rfl

theorem Version.display_injective {left right : Version} (same : left.display = right.display) :
    left = right := by
  rw [← Option.some_inj, ← parse_display left, same, parse_display right]

/-! ## The characters of a version -/

theorem isIdentChar_of_isDigit {char : Char} (digit : char.isDigit = true) :
    isIdentChar char = true := by
  simp [isIdentChar, Char.isAlphanum, digit]

/-- A printed version consists of identifier characters and the mark of the build. -/
theorem Version.chars_subset (version : Version) :
    ∀ char ∈ version.chars, isIdentChar char = true ∨ char = '+' := by
  have ofDecimal : ∀ value, ∀ char ∈ decimal value, isIdentChar char = true ∨ char = '+' :=
    fun value char member => .inl (isIdentChar_of_isDigit (decimal_digits value char member))
  have ofPre : ∀ char ∈ marked '-' version.pre, isIdentChar char = true ∨ char = '+' := by
    intro char member
    cases pre : version.pre with
    | none => simp [pre, marked] at member
    | some value =>
        rw [pre, marked, List.mem_cons] at member
        rcases member with rfl | member
        · exact .inl rfl
        · exact .inl (identifier_chars value char member)
  have ofBuild : ∀ char ∈ marked '+' version.build, isIdentChar char = true ∨ char = '+' := by
    intro char member
    cases build : version.build with
    | none => simp [build, marked] at member
    | some value =>
        rw [build, marked, List.mem_cons] at member
        rcases member with rfl | member
        · exact .inr rfl
        · exact .inl (identifier_chars value char member)
  intro char member
  simp only [chars, List.mem_append, List.mem_cons] at member
  rcases member with major | rfl | minor | rfl | patch | pre | build
  · exact ofDecimal _ _ major
  · exact .inl rfl
  · exact ofDecimal _ _ minor
  · exact .inl rfl
  · exact ofDecimal _ _ patch
  · exact ofPre _ pre
  · exact ofBuild _ build

theorem isWhitespace_of_isIdentChar {char : Char} (inside : isIdentChar char = true ∨ char = '+') :
    Text.isWhitespace char = false := by
  have range : 0x20 < char.toNat ∧ char.toNat < 0x7f := by
    simp only [isIdentChar, Char.isAlphanum, Char.isAlpha, Char.isUpper, Char.isLower, Char.isDigit,
      Bool.or_eq_true, Bool.and_eq_true, decide_eq_true_eq, beq_iff_eq, UInt32.le_iff_toNat_le,
      ge_iff_le, Char.reduceVal, UInt32.reduceToNat, Char.toNat_val] at inside
    rcases inside with ((letterOrDigit | rfl) | rfl) | rfl
    · omega
    all_goals decide
  exact Text.isWhitespace_of_printable range.1 range.2

theorem slash_not_mem_display (version : Version) : '/' ∉ version.display.toList := by
  rw [Version.display, String.toList_ofList]
  intro member
  rcases version.chars_subset '/' member with inside | same
  · exact absurd inside (by decide)
  · exact absurd same (by decide)

/-- A printed version ends in a visible character. -/
theorem exists_last_visible (version : Version) :
    ∃ char ∈ version.display.toList.getLast?, Text.isWhitespace char = false := by
  have nonempty : version.chars ≠ [] := by simp [Version.chars]
  rw [Version.display, String.toList_ofList, List.getLast?_eq_some_getLast nonempty]
  exact ⟨_, rfl, isWhitespace_of_isIdentChar (version.chars_subset _ (List.getLast_mem _))⟩

end Semver
