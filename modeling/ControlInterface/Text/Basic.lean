import Mathlib.Data.List.DropRight

/-!
# Strings

The string operations of Rust's standard library that a text format is read with:
the UTF-8 bytes of a string, stripping a prefix, trimming white space and
splitting at the last occurrence of a character.  Each is given by what it does to
the list of characters.
-/

namespace Text

/-! ## Bytes -/

/-- The UTF-8 encoding of a string (`str::as_bytes`). -/
def bytes (text : String) : List UInt8 := text.toList.flatMap String.utf8EncodeChar

/-- The character is encoded by one byte. -/
def IsAscii (char : Char) : Prop := char.val < 0x80

instance (char : Char) : Decidable (IsAscii char) := inferInstanceAs (Decidable (_ < _))

/-- The byte of an ASCII character. -/
def byte (char : Char) : UInt8 := char.val.toUInt8

theorem byte_toNat {char : Char} (ascii : IsAscii char) : (byte char).toNat = char.toNat := by
  simp only [IsAscii, UInt32.lt_iff_toNat_lt, Char.toNat_val, UInt32.reduceToNat] at ascii
  rw [byte, UInt32.toNat_toUInt8, Char.toNat_val]
  omega

theorem encode_of_isAscii {char : Char} (ascii : IsAscii char) :
    String.utf8EncodeChar char = [byte char] := by
  apply String.utf8EncodeChar_eq_singleton
  simp only [IsAscii] at ascii
  simp only [Char.utf8Size]
  grind

/-- A character beyond ASCII has a byte beyond ASCII. -/
theorem exists_high_byte {char : Char} (other : ¬ IsAscii char) :
    ∃ high ∈ String.utf8EncodeChar char, 0x80 ≤ high := by
  have large : 0x80 ≤ char.val.toNat := by
    simpa [IsAscii, UInt32.lt_iff_toNat_lt] using other
  fun_cases String.utf8EncodeChar char
  · omega
  all_goals
    refine ⟨_, List.mem_cons_self, ?_⟩
    simp only [UInt8.le_iff_toNat_le, UInt8.toNat_ofNat', UInt8.reduceToNat]
    omega

theorem bytes_of_ascii {text : String} (ascii : ∀ char ∈ text.toList, IsAscii char) :
    bytes text = text.toList.map byte := by
  rw [bytes, List.map_eq_flatMap]
  exact List.flatMap_congr fun char member => encode_of_isAscii (ascii char member)

/-- An ASCII text has as many bytes as characters. -/
theorem utf8ByteSize_of_ascii {text : String} (ascii : ∀ char ∈ text.toList, IsAscii char) :
    text.utf8ByteSize = text.toList.length := by
  rw [← String.ofList_toList (s := text), String.toList_ofList]
  generalize text.toList = chars at ascii
  induction chars with
  | nil => rfl
  | cons char rest ih =>
      rw [List.forall_mem_cons] at ascii
      rw [← List.singleton_append, String.ofList_append, String.utf8ByteSize_append, ih ascii.2,
        List.length_append, ← String.singleton_eq_ofList, String.utf8ByteSize_singleton,
        ← String.length_utf8EncodeChar, encode_of_isAscii ascii.1]
      rfl

/-- A test that only ASCII bytes pass holds of all bytes of a string just when all
its characters are ASCII and pass it. -/
theorem forall_bytes_iff {text : String} {accepts : UInt8 → Prop}
    (low : ∀ byte, accepts byte → byte < 0x80) :
    (∀ byte ∈ bytes text, accepts byte) ↔
      ∀ char ∈ text.toList, IsAscii char ∧ accepts (byte char) := by
  constructor
  · intro accepted char member
    have encoded : ∀ byte ∈ String.utf8EncodeChar char, accepts byte := fun byte inside =>
      accepted byte (List.mem_flatMap.mpr ⟨char, member, inside⟩)
    have ascii : IsAscii char := by
      by_contra other
      rcases exists_high_byte other with ⟨high, inside, large⟩
      exact UInt8.not_le.mpr (low high (encoded high inside)) large
    rw [encode_of_isAscii ascii] at encoded
    exact ⟨ascii, encoded _ List.mem_cons_self⟩
  · intro accepted
    rw [bytes_of_ascii fun char member => (accepted char member).1]
    simpa using fun char member => (accepted char member).2

/-! ## Prefixes -/

/-- What follows a prefix (`str::strip_prefix`). -/
def stripPrefix (start text : String) : Option String :=
  if start.toList.isPrefixOf text.toList then
    some (String.ofList (text.toList.drop start.toList.length))
  else none

theorem stripPrefix_eq_some_iff {start text rest : String} :
    stripPrefix start text = some rest ↔ text = start ++ rest := by
  rw [stripPrefix, ← String.toList_inj, String.toList_append]
  split
  next begins =>
    rcases List.isPrefixOf_iff_prefix.mp begins with ⟨suffix, split⟩
    simp [← split, ← String.toList_inj, eq_comm]
  next other =>
    simp only [reduceCtorEq, false_iff]
    intro split
    exact other (List.isPrefixOf_iff_prefix.mpr ⟨rest.toList, split.symm⟩)

/-! ## White space -/

/-- The `White_Space` property of Unicode (`char::is_whitespace`). -/
def isWhitespace (char : Char) : Bool :=
  decide (char.toNat ∈ [0x09, 0x0a, 0x0b, 0x0c, 0x0d, 0x20, 0x85, 0xa0, 0x1680, 0x2000, 0x2001,
    0x2002, 0x2003, 0x2004, 0x2005, 0x2006, 0x2007, 0x2008, 0x2009, 0x200a, 0x2028, 0x2029,
    0x202f, 0x205f, 0x3000])

theorem isWhitespace_of_printable {char : Char} (above : 0x20 < char.toNat)
    (below : char.toNat < 0x7f) : isWhitespace char = false := by
  simp only [isWhitespace, List.mem_cons, List.not_mem_nil, or_false, decide_eq_false_iff_not]
  omega

/-- Drop the white space at both ends. -/
def trimChars (chars : List Char) : List Char :=
  (chars.dropWhile isWhitespace).rdropWhile isWhitespace

/-- `str::trim` -/
def trim (text : String) : String := String.ofList (trimChars text.toList)

/-- The text neither starts nor ends with white space. -/
def Trimmed (text : String) : Prop :=
  (∀ char ∈ text.toList.head?, isWhitespace char = false) ∧
    ∀ char ∈ text.toList.getLast?, isWhitespace char = false

theorem dropWhile_eq_self_iff {chars : List Char} :
    chars.dropWhile isWhitespace = chars ↔ ∀ char ∈ chars.head?, isWhitespace char = false := by
  cases chars with
  | nil => simp
  | cons char rest =>
      cases blank : isWhitespace char with
      | false => simp [blank]
      | true =>
          simp only [List.dropWhile_cons, blank, if_true, List.head?_cons]
          simp only [Option.mem_def, Option.some.injEq, forall_eq', blank, Bool.true_eq_false,
            iff_false]
          intro same
          have shorter := (List.dropWhile_sublist (p := isWhitespace) (l := rest)).length_le
          rw [same, List.length_cons] at shorter
          omega

theorem rdropWhile_eq_self_iff {chars : List Char} :
    chars.rdropWhile isWhitespace = chars ↔
      ∀ char ∈ chars.getLast?, isWhitespace char = false := by
  rw [List.rdropWhile_eq_self_iff]
  constructor
  · rintro kept char last
    rcases List.mem_getLast?_eq_getLast last with ⟨nonempty, rfl⟩
    simpa using kept nonempty
  · intro kept nonempty
    simpa using kept _ (List.getLast?_eq_some_getLast nonempty)

theorem trim_eq_self_iff {text : String} : trim text = text ↔ Trimmed text := by
  rw [trim, ← String.toList_inj, String.toList_ofList, Trimmed, ← dropWhile_eq_self_iff,
    ← rdropWhile_eq_self_iff, trimChars]
  constructor
  · intro kept
    have front : text.toList.dropWhile isWhitespace = text.toList := by
      apply (List.dropWhile_sublist (p := isWhitespace)).eq_of_length_le
      have shorter := (List.rdropWhile_prefix isWhitespace
        (text.toList.dropWhile isWhitespace)).length_le
      rwa [kept] at shorter
    exact ⟨front, by rwa [front] at kept⟩
  · intro both
    rcases both with ⟨front, back⟩
    rw [front, back]

instance (text : String) : Decidable (Trimmed text) := decidable_of_iff _ trim_eq_self_iff

/-- What is left after trimming has no white space at either end. -/
theorem trimmed_trim (text : String) : Trimmed (trim text) := by
  have start := List.rdropWhile_prefix isWhitespace (text.toList.dropWhile isWhitespace)
  rw [Trimmed, trim, String.toList_ofList, trimChars]
  constructor
  · intro char first
    have head : (text.toList.dropWhile isWhitespace).head? = some char := by
      rcases start with ⟨dropped, split⟩
      rw [← split, List.head?_append, first, Option.some_or]
    exact dropWhile_eq_self_iff.mp (List.dropWhile_idempotent ..) char head
  · exact rdropWhile_eq_self_iff.mp (List.rdropWhile_idempotent ..)

@[simp] theorem trim_trim (text : String) : trim (trim text) = trim text :=
  trim_eq_self_iff.mpr (trimmed_trim text)

theorem trimmed_append {left right : String}
    (front : ∃ char ∈ left.toList.head?, isWhitespace char = false)
    (back : ∃ char ∈ right.toList.getLast?, isWhitespace char = false) :
    Trimmed (left ++ right) := by
  rcases front with ⟨first, isFirst, visible⟩
  rcases back with ⟨last, isLast, lastVisible⟩
  rw [Option.mem_def] at isFirst isLast
  simp [Trimmed, List.head?_append, List.getLast?_append, isFirst, isLast, visible, lastVisible]

/-! ## Runs of characters -/

/-- The next character, if there is one, does not belong to the run. -/
def Stops (belongs : Char → Bool) (rest : List Char) : Prop :=
  ∀ char ∈ rest.head?, belongs char = false

theorem stops_nil (belongs : Char → Bool) : Stops belongs [] := nofun

theorem stops_cons {belongs : Char → Bool} {char : Char} (other : belongs char = false)
    (rest : List Char) : Stops belongs (char :: rest) := by
  intro next first
  cases first
  exact other

theorem takeWhile_append {belongs : Char → Bool} {run rest : List Char}
    (inside : ∀ char ∈ run, belongs char = true) (stops : Stops belongs rest) :
    (run ++ rest).takeWhile belongs = run := by
  rw [List.takeWhile_append_of_pos inside]
  cases rest with
  | nil => simp
  | cons char rest => simp [stops char rfl]

theorem dropWhile_append {belongs : Char → Bool} {run rest : List Char}
    (inside : ∀ char ∈ run, belongs char = true) (stops : Stops belongs rest) :
    (run ++ rest).dropWhile belongs = rest := by
  rw [List.dropWhile_append_of_pos inside]
  cases rest with
  | nil => simp
  | cons char rest => simp [stops char rfl]

theorem stops_dropWhile (belongs : Char → Bool) (chars : List Char) :
    Stops belongs (chars.dropWhile belongs) := by
  intro char first
  have stopped := List.head?_dropWhile_not belongs chars
  rw [Option.mem_def.mp first] at stopped
  exact stopped

/-! ## Splitting -/

/-- Split a list at the last occurrence of a value. -/
def splitLast {α : Type} [DecidableEq α] (separator : α) : List α → Option (List α × List α)
  | [] => none
  | value :: rest =>
      match splitLast separator rest with
      | some (before, after) => some (value :: before, after)
      | none => if value = separator then some ([], rest) else none

section Split

variable {α : Type} [DecidableEq α] {separator : α}

theorem splitLast_eq_none_iff {values : List α} :
    splitLast separator values = none ↔ separator ∉ values := by
  induction values with
  | nil => simp [splitLast]
  | cons value rest ih =>
      rw [splitLast, List.mem_cons]
      cases found : splitLast separator rest with
      | none => simp [ih.mp found, eq_comm]
      | some parts =>
          have inside : separator ∈ rest := by
            by_contra other
            simp [ih.mpr other] at found
          simp [inside]

theorem splitLast_append {before after : List α} (outside : separator ∉ after) :
    splitLast separator (before ++ separator :: after) = some (before, after) := by
  induction before with
  | nil => simp [splitLast, splitLast_eq_none_iff.mpr outside]
  | cons value before ih => rw [List.cons_append, splitLast, ih]

theorem splitLast_sound {values before after : List α}
    (found : splitLast separator values = some (before, after)) :
    values = before ++ separator :: after ∧ separator ∉ after := by
  induction values generalizing before with
  | nil => simp [splitLast] at found
  | cons value rest ih =>
      rw [splitLast] at found
      cases inner : splitLast separator rest with
      | none =>
          simp only [inner, Option.ite_none_right_eq_some, Option.some.injEq,
            Prod.mk.injEq] at found
          rcases found with ⟨rfl, rfl, rfl⟩
          exact ⟨rfl, splitLast_eq_none_iff.mp inner⟩
      | some parts =>
          simp only [inner, Option.some.injEq, Prod.mk.injEq] at found
          rcases found with ⟨rfl, rfl⟩
          rcases ih inner with ⟨split, outside⟩
          exact ⟨by rw [split]; rfl, outside⟩

end Split

/-- `str::rsplit_once` -/
def rsplitOnce (separator : Char) (text : String) : Option (String × String) :=
  (splitLast separator text.toList).map fun (before, after) =>
    (String.ofList before, String.ofList after)

theorem rsplitOnce_eq_some_iff {separator : Char} {text before after : String} :
    rsplitOnce separator text = some (before, after) ↔
      text = before ++ String.singleton separator ++ after ∧ separator ∉ after.toList := by
  simp only [rsplitOnce, Option.map_eq_some_iff, Prod.exists, Prod.mk.injEq,
    ← String.toList_inj, String.toList_ofList, String.toList_append, String.toList_singleton,
    List.append_assoc, List.singleton_append]
  constructor
  · intro found
    rcases found with ⟨_, _, found, rfl, rfl⟩
    exact splitLast_sound found
  · intro joined
    rcases joined with ⟨split, outside⟩
    exact ⟨_, _, split ▸ splitLast_append outside, rfl, rfl⟩

end Text
