import ControlInterface.Text.Numeral
import ControlInterface.Text.PrefixCode

/-!
# Escaped characters

How the standard library writes a character so that it can be seen: by a letter behind a
backslash, by itself, or by its number.  Which characters extend a grapheme and which are
printable is read from tables of the standard library; of these only what it documents is
used.  The escapes are a code that is read one character at a time.
-/

namespace Text

/-- A control character (`char::is_control`). -/
def isControl (char : Char) : Bool :=
  decide (char.toNat < 0x20) || decide (0x7f ≤ char.toNat ∧ char.toNat ≤ 0x9f)

/-- A format character that orders text by direction (the property `Bidi_Control`). -/
def isBidiControl (char : Char) : Bool :=
  decide (char.toNat = 0x61c ∨ char.toNat = 0x200e ∨ char.toNat = 0x200f ∨
    (0x202a ≤ char.toNat ∧ char.toNat ≤ 0x202e) ∨ (0x2066 ≤ char.toNat ∧ char.toNat ≤ 0x2069))

/-- A character that is not seen itself but acts on what is shown. -/
def isHidden (char : Char) : Bool := isControl char || isBidiControl char

/-- Printable ASCII is neither a control character nor a format character. -/
theorem not_hidden_of_ascii {char : Char} (above : 0x20 ≤ char.toNat) (below : char.toNat < 0x7f) :
    isHidden char = false := by
  simp only [isHidden, isControl, isBidiControl, Bool.or_eq_false_iff, decide_eq_false_iff_not]
  omega

/-- The tables of the standard library, with what it documents of them. -/
structure UnicodeTables where
  isGraphemeExtended : Char → Bool
  isPrintable : Char → Bool
  visible_of_printable {char : Char} : isPrintable char = true → isHidden char = false
  ellipsis : isPrintable '…' = true ∧ isGraphemeExtended '…' = false

/-- The tables as far as printable ASCII and the ellipsis go. -/
def UnicodeTables.ascii : UnicodeTables where
  isGraphemeExtended _ := false
  isPrintable char := decide (0x20 ≤ char.toNat ∧ char.toNat < 0x7f) || char == '…'
  visible_of_printable {char} printable := by
    rw [Bool.or_eq_true, decide_eq_true_eq, beq_iff_eq] at printable
    rcases printable with ascii | rfl
    · exact not_hidden_of_ascii ascii.1 ascii.2
    · rfl
  ellipsis := ⟨rfl, rfl⟩

/-- The number of a character (`char::escape_unicode`). -/
def escapeUnicode (char : Char) : List Char :=
  '\\' :: 'u' :: '{' :: (Nat.toDigits 16 char.toNat ++ ['}'])

/-- `char::escape_debug` -/
def escapeDebug (tables : UnicodeTables) (char : Char) : List Char :=
  match char with
  | '\x00' => ['\\', '0']
  | '\t' => ['\\', 't']
  | '\r' => ['\\', 'r']
  | '\n' => ['\\', 'n']
  | '\\' => ['\\', '\\']
  | '"' => ['\\', '"']
  | '\'' => ['\\', '\'']
  | char =>
      if tables.isGraphemeExtended char then escapeUnicode char
      else if tables.isPrintable char then [char]
      else escapeUnicode char

/-! ## Reading escapes -/

/-- The character whose escape comes first. -/
def unescape : List Char → Option Char
  | '\\' :: '0' :: _ => some '\x00'
  | '\\' :: 't' :: _ => some '\t'
  | '\\' :: 'r' :: _ => some '\r'
  | '\\' :: 'n' :: _ => some '\n'
  | '\\' :: 'u' :: '{' :: rest => (numeral? 16 (rest.takeWhile (· != '}'))).map Char.ofNat
  | '\\' :: char :: _ => some char
  | char :: _ => some char
  | [] => none

theorem unescape_escapeUnicode (char : Char) (rest : List Char) :
    unescape (escapeUnicode char ++ rest) = some char := by
  have inside : ∀ digit ∈ Nat.toDigits 16 char.toNat, (digit != '}') = true := by
    intro digit member
    have isDigit := isDigit_toDigits (by decide) (by decide) char.toNat digit member
    rw [bne_iff_ne]
    intro same
    rw [same] at isDigit
    exact absurd isDigit (by decide)
  have digits : ((Nat.toDigits 16 char.toNat ++ ['}']) ++ rest).takeWhile (· != '}') =
      Nat.toDigits 16 char.toNat := by
    rw [List.append_assoc]
    exact takeWhile_append inside (stops_cons rfl rest)
  simp only [escapeUnicode, List.cons_append, unescape]
  rw [digits, numeral?_toDigits (by decide) (by decide), Option.map_some, Char.ofNat_toNat]

variable (tables : UnicodeTables)

/-- An escape is a backslash and a letter, the character or its number. -/
theorem escapeDebug_cases {motive : Char → List Char → Prop}
    (zero : motive '\x00' ['\\', '0']) (tab : motive '\t' ['\\', 't'])
    (carriageReturn : motive '\r' ['\\', 'r']) (newline : motive '\n' ['\\', 'n'])
    (quoted : ∀ char ∈ ['\\', '"', '\''], motive char ['\\', char])
    (itself : ∀ char, char ≠ '\\' → tables.isPrintable char = true → motive char [char])
    (unicode : ∀ char, motive char (escapeUnicode char)) (char : Char) :
    motive char (escapeDebug tables char) := by
  unfold escapeDebug
  split
  next => exact zero
  next => exact tab
  next => exact carriageReturn
  next => exact newline
  next => exact quoted _ (by decide)
  next => exact quoted _ (by decide)
  next => exact quoted _ (by decide)
  next notBackslash _ _ =>
    split_ifs with extended printable
    · exact unicode _
    · exact itself _ notBackslash printable
    · exact unicode _

theorem unescape_escapeDebug (char : Char) (rest : List Char) :
    unescape (escapeDebug tables char ++ rest) = some char := by
  cases char using escapeDebug_cases tables with
  | zero => rfl
  | tab => rfl
  | carriageReturn => rfl
  | newline => rfl
  | quoted char special =>
      simp only [List.mem_cons, List.not_mem_nil, or_false] at special
      rcases special with rfl | rfl | rfl <;> rfl
  | itself char notBackslash _ =>
      unfold unescape
      split <;> simp_all
  | unicode char => exact unescape_escapeUnicode char rest

/-- The escapes as a code. -/
def escapeCode : PrefixCode Char Char where
  word := escapeDebug tables
  word_ne_nil char := by
    cases char using escapeDebug_cases tables <;> simp [escapeUnicode]
  instantaneous {char other rest tail} same := by
    have read := unescape_escapeDebug tables char rest
    rw [same, unescape_escapeDebug] at read
    exact (Option.some.inj read).symm

/-! ## What escapes show -/

theorem not_hidden_of_isDigit {char : Char} (digit : isDigit 16 char = true) :
    isHidden char = false := by
  rcases Option.isSome_iff_exists.mp digit with ⟨value, spelled⟩
  rw [toDigit_eq_some_iff, hexDigit?_eq_some_iff] at spelled
  apply not_hidden_of_ascii <;> omega

/-- No escape holds a hidden character. -/
theorem not_hidden_of_mem_escapeDebug {char shown : Char}
    (member : shown ∈ escapeDebug tables char) : isHidden shown = false := by
  revert member
  cases char using escapeDebug_cases tables with
  | itself char _ printable =>
      intro member
      rw [List.mem_singleton] at member
      rw [member]
      exact tables.visible_of_printable printable
  | unicode char =>
      simp only [escapeUnicode, List.mem_cons, List.mem_append, List.not_mem_nil, or_false]
      intro member
      rcases member with rfl | rfl | rfl | digit | rfl
      · rfl
      · rfl
      · rfl
      · exact not_hidden_of_isDigit (isDigit_toDigits (by decide) (by decide) _ shown digit)
      · rfl
  | quoted char special =>
      simp only [List.mem_cons, List.not_mem_nil, or_false] at special ⊢
      intro member
      rcases special with rfl | rfl | rfl <;> rcases member with rfl | rfl <;> rfl
  | _ =>
      simp only [List.mem_cons, List.not_mem_nil, or_false]
      intro member
      rcases member with rfl | rfl <;> rfl

theorem escapeDebug_ellipsis : escapeDebug tables '…' = ['…'] := by
  simp [escapeDebug, tables.ellipsis]

end Text
