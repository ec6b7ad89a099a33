import Mathlib

/-!
# Codes that are read one word at a time

A code gives every symbol a word such that no word can be mistaken for the start of
another, whatever follows.  A list of symbols is written word after word, and what is
written determines the list.  A list that is cut to a size keeps whole words, and the
words kept are the most that fit exactly when the next one would not.
-/

/-- A code in which the word of a symbol is recognized before what follows it. -/
structure PrefixCode (Symbol Letter : Type) where
  word : Symbol → List Letter
  word_ne_nil (symbol : Symbol) : word symbol ≠ []
  instantaneous {symbol other : Symbol} {rest tail : List Letter} :
    word symbol ++ rest = word other ++ tail → symbol = other

namespace PrefixCode

variable {Symbol Letter : Type} (code : PrefixCode Symbol Letter)

/-- The words of a list of symbols, one after the other. -/
def encode (symbols : List Symbol) : List Letter := symbols.flatMap code.word

@[simp] theorem encode_nil : code.encode [] = [] := rfl

@[simp] theorem encode_cons (symbol : Symbol) (symbols : List Symbol) :
    code.encode (symbol :: symbols) = code.word symbol ++ code.encode symbols := rfl

@[simp] theorem encode_append (front back : List Symbol) :
    code.encode (front ++ back) = code.encode front ++ code.encode back :=
  List.flatMap_append

variable {code}

/-- What begins with the words of some symbols is written for a list that begins with them. -/
theorem exists_of_encode_eq_append {symbols front : List Symbol} {rest : List Letter}
    (written : code.encode symbols = code.encode front ++ rest) :
    ∃ back, symbols = front ++ back ∧ code.encode back = rest := by
  induction front generalizing symbols with
  | nil => exact ⟨symbols, rfl, written⟩
  | cons symbol front ih =>
      cases symbols with
      | nil =>
          rw [encode_nil, encode_cons, List.append_assoc] at written
          exact absurd (List.append_eq_nil_iff.mp written.symm).1 (code.word_ne_nil symbol)
      | cons other symbols =>
          rw [encode_cons, encode_cons, List.append_assoc] at written
          have same := code.instantaneous written
          subst same
          rcases ih (List.append_cancel_left written) with ⟨back, rfl, rest⟩
          exact ⟨back, rfl, rest⟩

theorem encode_eq_nil_iff {symbols : List Symbol} : code.encode symbols = [] ↔ symbols = [] := by
  cases symbols with
  | nil => simp
  | cons symbol symbols => simp [code.word_ne_nil symbol]

theorem encode_injective : Function.Injective code.encode := by
  intro symbols other same
  rw [← List.append_nil (code.encode other)] at same
  rcases exists_of_encode_eq_append same with ⟨back, rfl, empty⟩
  rw [encode_eq_nil_iff.mp empty, List.append_nil]

theorem encode_prefix_iff {front symbols : List Symbol} :
    code.encode front <+: code.encode symbols ↔ front <+: symbols := by
  constructor
  · intro begins
    rcases begins with ⟨rest, written⟩
    rcases exists_of_encode_eq_append written.symm with ⟨back, rfl, _⟩
    exact List.prefix_append front back
  · intro begins
    rcases begins with ⟨back, rfl⟩
    rw [encode_append]
    exact List.prefix_append _ _

/-! ## Cutting to a size -/

/-- The total of a size over a list of letters. -/
def total (size : Letter → Nat) (letters : List Letter) : Nat := (letters.map size).sum

section Total

variable {size : Letter → Nat}

@[simp] theorem total_append (front back : List Letter) :
    total size (front ++ back) = total size front + total size back := by
  simp [total]

end Total

/-- Whole words at the start of what is written for the symbols. -/
def IsWholePrefix (code : PrefixCode Symbol Letter) (symbols : List Symbol)
    (letters : List Letter) : Prop :=
  ∃ front, front <+: symbols ∧ code.encode front = letters

/-- The most whole words at the start of what is written for the symbols that stay within
the bound. -/
structure IsLongestWithin (code : PrefixCode Symbol Letter) (size : Letter → Nat) (bound : Nat)
    (symbols : List Symbol) (letters : List Letter) : Prop where
  whole : code.IsWholePrefix symbols letters
  within : total size letters ≤ bound
  longest {other : List Letter} :
    code.IsWholePrefix symbols other → total size other ≤ bound → other <+: letters

variable {size : Letter → Nat} {bound : Nat} {symbols : List Symbol}

/-- All words are kept when all of them fit. -/
theorem isLongestWithin_encode (within : total size (code.encode symbols) ≤ bound) :
    code.IsLongestWithin size bound symbols (code.encode symbols) where
  whole := ⟨symbols, List.prefix_rfl, rfl⟩
  within := within
  longest := by
    intro other whole _
    rcases whole with ⟨front, begins, rfl⟩
    exact encode_prefix_iff.mpr begins

/-- Words that fit are the most that fit when the next one does not. -/
theorem isLongestWithin_of_next {front back : List Symbol} {next : Symbol}
    (within : total size (code.encode front) ≤ bound)
    (beyond : bound < total size (code.encode front) + total size (code.word next)) :
    code.IsLongestWithin size bound (front ++ next :: back) (code.encode front) where
  whole := ⟨front, List.prefix_append _ _, rfl⟩
  within := within
  longest := by
    intro other whole fits
    rcases whole with ⟨otherFront, begins, rfl⟩
    rw [encode_prefix_iff]
    rcases List.prefix_or_prefix_of_prefix begins (List.prefix_append front _) with
      shorter | longer
    · exact shorter
    · rcases longer with ⟨more, rfl⟩
      rw [List.prefix_append_right_inj] at begins
      cases more with
      | nil => rw [List.append_nil]
      | cons first more =>
          have same := (List.cons_prefix_cons.mp begins).1
          subst same
          rw [encode_append, encode_cons, total_append, total_append] at fits
          omega

/-- A larger bound keeps no less. -/
theorem IsLongestWithin.mono {larger : Nat} {letters other : List Letter} (le : bound ≤ larger)
    (kept : code.IsLongestWithin size bound symbols letters)
    (keptLarger : code.IsLongestWithin size larger symbols other) : letters <+: other :=
  keptLarger.longest kept.whole (kept.within.trans le)

/-- What is kept is determined by the bound. -/
theorem IsLongestWithin.unique {letters other : List Letter}
    (kept : code.IsLongestWithin size bound symbols letters)
    (keptOther : code.IsLongestWithin size bound symbols other) : letters = other := by
  have longer := kept.mono (Nat.le_refl bound) keptOther
  exact longer.eq_of_length_le (keptOther.mono (Nat.le_refl bound) kept).length_le

/-- Everything is kept exactly when everything fits. -/
theorem IsLongestWithin.eq_encode_iff {letters : List Letter}
    (kept : code.IsLongestWithin size bound symbols letters) :
    letters = code.encode symbols ↔ total size (code.encode symbols) ≤ bound := by
  constructor
  · intro all
    rw [← all]
    exact kept.within
  · intro within
    have begins := kept.longest ⟨symbols, List.prefix_rfl, rfl⟩ within
    rcases kept.whole with ⟨front, frontBegins, rfl⟩
    exact (encode_prefix_iff.mpr frontBegins).eq_of_length_le begins.length_le

end PrefixCode
