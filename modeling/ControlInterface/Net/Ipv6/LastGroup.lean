import ControlInterface.Net.Ipv6.Read

/-!
# Texts short of a group

When digits behind a colon make a text an IPv6 literal, they are its last group.  The text
before them is then an address itself, or it lacks just that group.
-/

namespace Net

open Text

/-- Groups that are not an address, and no double colon behind them. -/
theorem Groups.readIpv6Addr_eq_none {text rest : List Char} {values : List UInt16}
    (groups : Groups text values false) (few : values.length ≤ 7) (halts : Halts rest)
    (noColons : ∀ after, rest ≠ ':' :: ':' :: after) : readIpv6Addr (text ++ rest) = none := by
  have short : values.length ≠ 8 := by omega
  have fits : values.length ≤ 8 := by omega
  have read := groups.readGroups fits halts
  rw [Option.eq_none_iff_forall_ne_some]
  intro result found
  rw [Net.readIpv6Addr, read] at found
  simp only [short, dif_neg, not_false_eq_true, Bool.false_eq_true, if_false, Option.bind_eq_bind,
    Option.bind_eq_some_iff, readGivenChar_eq_some_iff] at found
  rcases found with ⟨_, rfl, after, rfl, _⟩
  exact noColons after rfl

/-- No digit is a colon. -/
theorem colon_not_mem_of_digits {digits : List Char}
    (inside : ∀ char ∈ digits, isDigit 16 char = true) : ':' ∉ digits :=
  fun member => absurd (inside ':' member) (by decide)

theorem Led.append_group {front digits : List Char} {values : List UInt16} {value : UInt16}
    {embedded : Bool} (led : Led front values embedded) (notEmbedded : embedded = false)
    (isGroup : IsGroup digits value) : Led (front ++ ':' :: digits) (values ++ [value]) false := by
  induction led with
  | nil =>
      have single := Led.group isGroup .nil
      rwa [List.append_nil] at single
  | group first led ih =>
      rw [List.cons_append, List.append_assoc]
      exact .group first (ih notEmbedded)
  | ipv4 => cases notEmbedded

/-- The first separator comes after what has none. -/
theorem exists_of_append_eq_append_cons {α : Type} {separator : α} {left right front back : List α}
    (outside : separator ∉ left) (same : left ++ right = front ++ separator :: back) :
    ∃ more, front = left ++ more ∧ right = more ++ separator :: back := by
  induction left generalizing front with
  | nil => exact ⟨front, rfl, same⟩
  | cons value left ih =>
      rw [List.mem_cons, not_or] at outside
      cases front with
      | nil => exact absurd (List.cons.inj same).1.symm outside.1
      | cons first front =>
          rw [List.cons_append, List.cons_append, List.cons.injEq] at same
          rcases same with ⟨rfl, same⟩
          rcases ih outside.2 same with ⟨more, rfl, rest⟩
          exact ⟨more, rfl, rest⟩

/-- Behind a colon without another one there is a single group. -/
theorem Led.exists_of_digits {digits : List Char} {values : List UInt16} {embedded : Bool}
    (led : Led (':' :: digits) values embedded)
    (inside : ∀ char ∈ digits, isDigit 16 char = true) :
    ∃ value, values = [value] ∧ IsGroup digits value := by
  have noColon := colon_not_mem_of_digits inside
  cases led with
  | @group first chars value others _ isGroup led =>
      cases led with
      | nil =>
          rw [List.append_nil]
          exact ⟨value, rfl, isGroup⟩
      | group => simp at noColon
      | ipv4 => simp at noColon
  | ipv4 address =>
      rcases address.exists_chars with ⟨octet, rest, split, _⟩
      have dot : '.' ∈ address.chars := by simp [split]
      exact absurd (inside '.' dot) (by decide)

/-- The digits behind the last colon are the last group. -/
theorem Led.exists_of_append {front digits : List Char} {values : List UInt16} {embedded : Bool}
    (led : Led (front ++ ':' :: digits) values embedded)
    (inside : ∀ char ∈ digits, isDigit 16 char = true) :
    ∃ others value, values = others ++ [value] ∧ Led front others false ∧
      IsGroup digits value := by
  generalize whole : front ++ ':' :: digits = text at led
  induction led generalizing front with
  | nil => simp at whole
  | @group first chars value values embedded isGroup led ih =>
      cases front with
      | nil =>
          have all := Led.group isGroup led
          rw [← whole] at all
          rcases all.exists_of_digits inside with ⟨last, same, isLast⟩
          exact ⟨[], last, same, .nil, isLast⟩
      | cons colon front =>
          rw [List.cons_append, List.cons.injEq] at whole
          rcases whole with ⟨rfl, whole⟩
          have noColon := colon_not_mem_of_digits (isDigit_of_numeral? isGroup.spelled)
          rcases exists_of_append_eq_append_cons noColon whole.symm with ⟨more, rfl, rest⟩
          rcases ih rest.symm with ⟨others, last, rfl, led, isLast⟩
          exact ⟨value :: others, last, rfl, .group isGroup led, isLast⟩
  | ipv4 address =>
      cases front with
      | nil =>
          have all := Led.ipv4 address
          rw [← whole] at all
          rcases all.exists_of_digits inside with ⟨last, same, _⟩
          cases same
      | cons colon front =>
          rw [List.cons_append, List.cons.injEq] at whole
          have colon : ':' ∈ address.chars := by simp [← whole.2]
          exact absurd colon address.colon_not_mem

/-- The text is an address but for one group: seven groups, or fewer before a colon. -/
inductive LacksGroup : List Char → Prop where
  | seven {text : List Char} {values : List UInt16} :
      Groups text values false → values.length = 7 → LacksGroup text
  | colon {head : List Char} {values : List UInt16} :
      Groups head values false → values.length ≤ 6 → LacksGroup (head ++ [':'])

/-- With one more group such a text is an address. -/
theorem LacksGroup.exists_literal {text digits : List Char} {value : UInt16}
    (lacks : LacksGroup text) (isGroup : IsGroup digits value) :
    ∃ values, Ipv6Literal (text ++ ':' :: digits) values := by
  have single : Groups digits [value] false := by
    have led := Led.group isGroup .nil
    rw [List.append_nil] at led
    exact .led led
  cases lacks with
  | seven groups seven =>
      cases groups with
      | empty => cases seven
      | led led =>
          have full : Groups (text ++ ':' :: digits) _ false := .led (led.append_group rfl isGroup)
          exact ⟨_, .full full (by rw [List.length_append, seven]; rfl)⟩
  | colon groups few =>
      rw [List.append_assoc]
      exact ⟨_, .compressed groups single (Nat.succ_le_succ few)⟩

/-- Digits at the end of a text with a double colon: they follow it, or a further colon. -/
theorem exists_of_digits_after_colons {text digits head tail : List Char}
    (inside : ∀ char ∈ digits, isDigit 16 char = true)
    (whole : text ++ ':' :: digits = head ++ ':' :: ':' :: tail) :
    (text = head ++ [':'] ∧ digits = tail) ∨
      ∃ front, text = head ++ ':' :: ':' :: front ∧ tail = front ++ ':' :: digits := by
  have noColon := colon_not_mem_of_digits inside
  rcases List.append_eq_append_iff.mp whole with ⟨more, rfl, rest⟩ | ⟨more, rfl, rest⟩
  · -- Two colons cannot be among the last colon and the digits.
    cases more <;> simp [(List.cons.inj rest).2] at noColon
  · cases more with
    | nil => simp [← (List.cons.inj rest).2] at noColon
    | cons first more =>
        rw [List.cons_append, List.cons.injEq] at rest
        rcases rest with ⟨rfl, rest⟩
        cases more with
        | nil => exact .inl ⟨rfl, (List.cons.inj rest).2.symm⟩
        | cons second front =>
            rw [List.cons_append, List.cons.injEq] at rest
            rcases rest with ⟨rfl, rest⟩
            exact .inr ⟨front, rfl, rest⟩

/-- A text that one more group makes an address lacks that group, or is an address itself. -/
theorem Ipv6Literal.lacksGroup_or {text digits : List Char} {values : List UInt16}
    (literal : Ipv6Literal (text ++ ':' :: digits) values) (nonempty : digits ≠ [])
    (inside : ∀ char ∈ digits, isDigit 16 char = true) :
    (∃ value, IsGroup digits value) ∧ (LacksGroup text ∨ ∃ others, Ipv6Literal text others) := by
  generalize whole : text ++ ':' :: digits = chars at literal
  cases literal with
  | full groups full =>
      cases groups with
      | empty => cases full
      | led led =>
          rw [← whole, ← List.cons_append] at led
          rcases led.exists_of_append inside with ⟨others, value, rfl, front, isGroup⟩
          rw [List.length_append] at full
          exact ⟨⟨value, isGroup⟩, .inl (.seven (.led front) (Nat.succ.inj full))⟩
  | @compressed head tail values others _ headGroups tailGroups few =>
      rcases exists_of_digits_after_colons inside whole with ⟨rfl, rfl⟩ | ⟨front, rfl, rfl⟩
      · cases tailGroups with
        | empty => contradiction
        | led led =>
            rcases led.exists_of_digits inside with ⟨value, rfl, isGroup⟩
            exact ⟨⟨value, isGroup⟩, .inl (.colon headGroups (Nat.le_of_succ_le_succ few))⟩
      · generalize back : front ++ ':' :: digits = tail at tailGroups
        cases tailGroups with
        | empty => simp at back
        | led led =>
            rw [← back, ← List.cons_append] at led
            rcases led.exists_of_append inside with ⟨others, value, rfl, led, isGroup⟩
            rw [List.length_append, List.length_singleton] at few
            exact ⟨⟨value, isGroup⟩, .inr ⟨_, .compressed headGroups (.led led) (by omega)⟩⟩

/-- It is no address as it stands. -/
theorem LacksGroup.readIpv6Addr_eq_none {text : List Char} (lacks : LacksGroup text) :
    readIpv6Addr text = none := by
  cases lacks with
  | seven groups seven =>
      have nothing := groups.readIpv6Addr_eq_none (Nat.le_of_eq seven) halts_nil nofun
      rwa [List.append_nil] at nothing
  | colon groups few =>
      have halts : Halts [':'] := halts_colon (stops_nil _)
      exact groups.readIpv6Addr_eq_none (few.trans (by decide)) halts nofun

theorem LacksGroup.readIpv4Addr_eq_none {text : List Char} (lacks : LacksGroup text) :
    readIpv4Addr text = none := by
  cases lacks with
  | seven groups _ =>
      have nothing := groups.readIpv4Addr_eq_none closes_nil
      rwa [List.append_nil] at nothing
  | colon groups _ => exact groups.readIpv4Addr_eq_none (closes_colon [])

end Net
