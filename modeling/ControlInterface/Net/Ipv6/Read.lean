import ControlInterface.Net.Ipv4

/-!
# Reading IPv6 addresses

An IPv6 literal is a sequence of groups of hexadecimal digits between colons, the last two
possibly written as an IPv4 address, and either there are eight groups or a double colon
stands for the zeros that are missing.  The reader of the standard library takes as many
groups as it can; it reads the literals and nothing else.
-/

namespace Net

open Text

/-- `std::net::Ipv6Addr` -/
structure Ipv6Addr where
  segments : List UInt16
  length : segments.length = 8
  deriving DecidableEq

/-- `u16::from_be_bytes` -/
def fromBeBytes (high low : UInt8) : UInt16 := UInt16.ofNat (high.toNat * 256 + low.toNat)

/-- The two groups an IPv4 address stands for. -/
def Ipv4Addr.segments (address : Ipv4Addr) : List UInt16 :=
  [fromBeBytes address.first address.second, fromBeBytes address.third address.fourth]

/-- The groups on both sides of a double colon, with zeros between them. -/
def Ipv6Addr.ofParts? (head tail : List UInt16) : Option Ipv6Addr :=
  if fits : head.length + tail.length ≤ 8 then
    some {
      segments := head ++ (List.replicate (8 - head.length - tail.length) 0 ++ tail)
      length := by
        rw [List.length_append, List.length_append, List.length_replicate]
        omega }
  else none

/-! ## The reader -/

def readGroup (chars : List Char) : Option (UInt16 × List Char) :=
  (readNumber 16 (some 4) true 65536 chars).map fun (value, rest) => (UInt16.ofNat value, rest)

/-- `Parser::read_separator`, for a colon -/
def readSeparator {α : Type} (index : Nat) (inner : List Char → Option (α × List Char))
    (chars : List Char) : Option (α × List Char) :=
  if 0 < index then (readGivenChar ':' chars).bind inner else inner chars

/-- `read_groups`: the groups from an index on, whether an IPv4 address ends them, and what
follows them. -/
def readGroups : Nat → Nat → List Char → List UInt16 × Bool × List Char
  | _, 0, chars => ([], false, chars)
  | index, slots + 1, chars =>
      -- An IPv4 address takes two groups.
      match if 0 < slots then readSeparator index readIpv4Addr chars else none with
      | some (address, rest) => (address.segments, true, rest)
      | none =>
          match readSeparator index readGroup chars with
          | none => ([], false, chars)
          | some (group, rest) =>
              let (groups, embedded, rest) := readGroups (index + 1) slots rest
              (group :: groups, embedded, rest)

/-- `Parser::read_ipv6_addr` -/
def readIpv6Addr (chars : List Char) : Option (Ipv6Addr × List Char) :=
  let (head, embedded, rest) := readGroups 0 8 chars
  if full : head.length = 8 then some (⟨head, full⟩, rest)
  else if embedded then none
  else do
    let rest ← readGivenChar ':' rest
    let rest ← readGivenChar ':' rest
    let (tail, _, rest) := readGroups 0 (8 - (head.length + 1)) rest
    let address ← Ipv6Addr.ofParts? head tail
    some (address, rest)

/-! ## Literals -/

/-- Up to four hexadecimal digits. -/
def IsGroup (digits : List Char) (value : UInt16) : Prop :=
  IsNumeral 16 (some 4) true 65536 digits value.toNat

/-- Groups, each behind a colon, and whether an IPv4 address ends them. -/
inductive Led : List Char → List UInt16 → Bool → Prop where
  | nil : Led [] [] false
  | group {digits chars : List Char} {value : UInt16} {values : List UInt16} {embedded : Bool} :
      IsGroup digits value → Led chars values embedded →
      Led (':' :: (digits ++ chars)) (value :: values) embedded
  | ipv4 (address : Ipv4Addr) : Led (':' :: address.chars) address.segments true

/-- Groups between colons. -/
inductive Groups : List Char → List UInt16 → Bool → Prop where
  | empty : Groups [] [] false
  | led {chars : List Char} {values : List UInt16} {embedded : Bool} :
      Led (':' :: chars) values embedded → Groups chars values embedded

/-- The text of an address: eight groups, or fewer around a double colon. -/
inductive Ipv6Literal : List Char → List UInt16 → Prop where
  | full {chars : List Char} {values : List UInt16} {embedded : Bool} :
      Groups chars values embedded → values.length = 8 → Ipv6Literal chars values
  | compressed {head tail : List Char} {values others : List UInt16} {embedded : Bool} :
      Groups head values false → Groups tail others embedded →
      values.length + others.length ≤ 7 →
      Ipv6Literal (head ++ ':' :: ':' :: tail)
        (values ++ (List.replicate (8 - values.length - others.length) 0 ++ others))

/-! ## Single pieces -/

theorem readGroup_eq_some_iff {chars rest : List Char} {value : UInt16} :
    readGroup chars = some (value, rest) ↔
      ∃ digits, chars = digits ++ rest ∧ Stops (isDigit 16) rest ∧ IsGroup digits value := by
  simp only [readGroup, Option.map_eq_some_iff, Prod.exists, Prod.mk.injEq, readNumber_eq_some_iff,
    IsGroup]
  constructor
  · intro read
    rcases read with ⟨number, _, ⟨digits, rfl, stops, isNumeral⟩, rfl, rfl⟩
    rw [UInt16.toNat_ofNat_of_lt' isNumeral.small]
    exact ⟨digits, rfl, stops, isNumeral⟩
  · intro split
    rcases split with ⟨digits, rfl, stops, isNumeral⟩
    exact ⟨_, _, ⟨digits, rfl, stops, isNumeral⟩, UInt16.ofNat_toNat, rfl⟩

/-- A list of digits that is not empty does not stop the digits. -/
theorem not_stops_append {radix : Nat} {digits rest : List Char} (nonempty : digits ≠ [])
    (inside : ∀ char ∈ digits, isDigit radix char = true) :
    ¬ Stops (isDigit radix) (digits ++ rest) := by
  intro stops
  cases digits with
  | nil => contradiction
  | cons first others =>
      have other := stops first rfl
      rw [inside first List.mem_cons_self] at other
      cases other

theorem readGroup_eq_none {chars : List Char} (stops : Stops (isDigit 16) chars) :
    readGroup chars = none := by
  rw [Option.eq_none_iff_forall_ne_some]
  intro result read
  rcases readGroup_eq_some_iff.mp read with ⟨digits, rfl, _, isGroup⟩
  exact not_stops_append isGroup.nonempty (isDigit_of_numeral? isGroup.spelled) stops

/-- The digits an IPv4 address starts with, and the dot behind them. -/
theorem Ipv4Addr.exists_chars (address : Ipv4Addr) :
    ∃ digits rest, address.chars = digits ++ '.' :: rest ∧ digits ≠ [] ∧
      ∀ char ∈ digits, isDigit 16 char = true := by
  refine ⟨decimalOctet address.first, _, rfl, Nat.toDigits_ne_nil, ?_⟩
  intro char member
  apply isDigit_mono (show 10 ≤ 16 by decide)
  exact isDigit_toDigits (by decide) (by decide) _ char member

theorem readIpv4Addr_eq_none {chars : List Char} (stops : Stops (isDigit 16) chars) :
    readIpv4Addr chars = none := by
  rw [Option.eq_none_iff_forall_ne_some]
  intro result read
  rcases result with ⟨address, after⟩
  rcases readIpv4Addr_eq_some_iff.mp read with ⟨rfl, _⟩
  rcases address.exists_chars with ⟨digits, rest, split, nonempty, inside⟩
  rw [split, List.append_assoc] at stops
  exact not_stops_append nonempty inside stops

/-- What comes next is no digit and no dot. -/
def Closes (rest : List Char) : Prop :=
  ∀ char ∈ rest.head?, isDigit 16 char = false ∧ char ≠ '.'

theorem closes_nil : Closes [] := nofun

theorem closes_colon (rest : List Char) : Closes (':' :: rest) := by
  intro char first
  cases first
  exact ⟨rfl, by decide⟩

theorem Closes.stops {rest : List Char} (closes : Closes rest) : Stops (isDigit 16) rest :=
  fun char first => (closes char first).1

/-- A group is not taken for an IPv4 address. -/
theorem readIpv4Addr_group {digits rest : List Char} {value : UInt16} (isGroup : IsGroup digits value)
    (closes : Closes rest) : readIpv4Addr (digits ++ rest) = none := by
  rw [Option.eq_none_iff_forall_ne_some]
  intro result read
  rcases result with ⟨address, others⟩
  rcases readIpv4Addr_eq_some_iff.mp read with ⟨same, _⟩
  rcases address.exists_chars with ⟨octet, after, split, _, inside⟩
  -- Both sides are digits up to the first character that is none, which is the dot.
  rw [split, List.append_assoc, List.cons_append] at same
  have afterDigits := congrArg (List.dropWhile (isDigit 16)) same
  rw [dropWhile_append (isDigit_of_numeral? isGroup.spelled) closes.stops,
    dropWhile_append inside (stops_cons rfl _)] at afterDigits
  rw [afterDigits] at closes
  exact (closes '.' rfl).2 rfl

/-! ## Groups are read -/

theorem readSeparator_zero {α : Type} (inner : List Char → Option (α × List Char)) :
    readSeparator 0 inner = inner := rfl

theorem readSeparator_succ {α : Type} (index : Nat) (inner : List Char → Option (α × List Char))
    (chars : List Char) :
    readSeparator (index + 1) inner chars = (readGivenChar ':' chars).bind inner :=
  if_pos (Nat.succ_pos index)

theorem readSeparator_colon {α : Type} (index : Nat) (inner : List Char → Option (α × List Char))
    (chars : List Char) : readSeparator (index + 1) inner (':' :: chars) = inner chars := by
  rw [readSeparator_succ, readGivenChar, if_pos rfl, Option.bind_some]

/-- All that counts is whether a group is the first. -/
theorem readGroups_index (index slots : Nat) (chars : List Char) :
    readGroups (index + 1) slots chars = readGroups 1 slots chars := by
  induction slots generalizing index chars with
  | zero => rfl
  | succ slots ih => simp only [readGroups, readSeparator_succ, ih]

/-- The first group needs no colon; the groups are those that are read behind one. -/
theorem readGroups_zero (slots : Nat) (chars : List Char) :
    readGroups 0 slots chars =
      if (readGroups 1 slots (':' :: chars)).1 = [] then ([], false, chars)
      else readGroups 1 slots (':' :: chars) := by
  cases slots with
  | zero => rfl
  | succ slots =>
      have colon : ∀ {α : Type} (inner : List Char → Option (α × List Char)),
          readSeparator 1 inner (':' :: chars) = inner chars :=
        fun inner => readSeparator_colon 0 inner chars
      simp only [readGroups, readSeparator_zero, colon, readGroups_index]
      split
      next => rfl
      next =>
        split
        next => rfl
        next => rfl

/-- What is read behind colons are groups behind colons. -/
theorem readGroups_one_sound {slots : Nat} {chars rest : List Char} {values : List UInt16}
    {embedded : Bool} (read : readGroups 1 slots chars = (values, embedded, rest)) :
    ∃ text, chars = text ++ rest ∧ Led text values embedded ∧ values.length ≤ slots := by
  induction slots generalizing chars values with
  | zero =>
      cases read
      exact ⟨[], rfl, .nil, Nat.le_refl 0⟩
  | succ slots ih =>
      rw [readGroups] at read
      simp only [readSeparator_succ, readGroups_index] at read
      split at read
      next address after found =>
        cases read
        rw [Option.ite_none_right_eq_some, Option.bind_eq_some_iff] at found
        rcases found with ⟨two, chars, colon, found⟩
        rw [readGivenChar_eq_some_iff] at colon
        rcases readIpv4Addr_eq_some_iff.mp found with ⟨rfl, _⟩
        exact ⟨_, colon, .ipv4 address, Nat.succ_le_succ two⟩
      next =>
        split at read
        next =>
          cases read
          exact ⟨[], rfl, .nil, Nat.zero_le _⟩
        next group after found =>
          rw [Option.bind_eq_some_iff] at found
          rcases found with ⟨chars, colon, found⟩
          rw [readGivenChar_eq_some_iff] at colon
          rcases readGroup_eq_some_iff.mp found with ⟨digits, rfl, _, isGroup⟩
          cases read
          rcases ih rfl with ⟨text, split, led, fits⟩
          refine ⟨':' :: (digits ++ text), ?_, .group isGroup led, Nat.succ_le_succ fits⟩
          rw [colon, List.cons_append, List.append_assoc, ← split]

theorem readGroups_sound {slots : Nat} {chars rest : List Char} {values : List UInt16}
    {embedded : Bool} (read : readGroups 0 slots chars = (values, embedded, rest)) :
    ∃ text, chars = text ++ rest ∧ Groups text values embedded ∧ values.length ≤ slots := by
  rw [readGroups_zero] at read
  split at read
  next =>
    cases read
    exact ⟨[], rfl, .empty, Nat.zero_le _⟩
  next nonempty =>
    rcases readGroups_one_sound read with ⟨text, split, led, fits⟩
    cases led with
    | nil => rw [read] at nonempty; contradiction
    | group isGroup led => exact ⟨_, (List.cons.inj split).2, .led (.group isGroup led), fits⟩
    | ipv4 address => exact ⟨_, (List.cons.inj split).2, .led (.ipv4 address), fits⟩

/-- No further group follows, with a colon before it or without. -/
structure Halts (rest : List Char) : Prop where
  closes : Closes rest
  afterColon {after : List Char} : rest = ':' :: after → Stops (isDigit 16) after

theorem halts_nil : Halts [] := ⟨closes_nil, nofun⟩

theorem halts_colon {rest : List Char} (stops : Stops (isDigit 16) rest) : Halts (':' :: rest) where
  closes := closes_colon rest
  afterColon := by
    intro after same
    cases same
    exact stops

theorem readGroups_halts (slots : Nat) {rest : List Char} (halts : Halts rest) :
    readGroups 1 slots rest = ([], false, rest) := by
  cases slots with
  | zero => rfl
  | succ slots =>
      have nothing : ∀ {α : Type} {inner : List Char → Option (α × List Char)},
          (∀ {chars}, Stops (isDigit 16) chars → inner chars = none) →
          readSeparator 1 inner rest = none := by
        intro α inner refuses
        rw [readSeparator_succ, Option.bind_eq_none_iff]
        intro after colon
        exact refuses (halts.afterColon (readGivenChar_eq_some_iff.mp colon))
      rw [readGroups, nothing readIpv4Addr_eq_none, nothing readGroup_eq_none, ite_self]

theorem Led.closes {chars rest : List Char} {values : List UInt16} {embedded : Bool}
    (led : Led chars values embedded) (closes : Closes rest) : Closes (chars ++ rest) := by
  cases led with
  | nil => exact closes
  | group => exact closes_colon _
  | ipv4 => exact closes_colon _

/-- Groups behind colons are read, if no group follows them. -/
theorem Led.readGroups {chars rest : List Char} {values : List UInt16} {embedded : Bool}
    (led : Led chars values embedded) {slots : Nat} (fits : values.length ≤ slots)
    (halts : Halts rest) : readGroups 1 slots (chars ++ rest) = (values, embedded, rest) := by
  induction led generalizing slots with
  | nil => exact readGroups_halts slots halts
  | @group digits chars value values embedded isGroup led ih =>
      cases slots with
      | zero => cases fits
      | succ slots =>
          have closes := led.closes halts.closes
          have group : readGroup (digits ++ (chars ++ rest)) = some (value, chars ++ rest) :=
            readGroup_eq_some_iff.mpr ⟨digits, rfl, closes.stops, isGroup⟩
          rw [List.cons_append, List.append_assoc, Net.readGroups, readSeparator_colon,
            readSeparator_colon, readIpv4Addr_group isGroup closes, ite_self, group]
          simp only [readGroups_index, ih (Nat.le_of_succ_le_succ fits)]
  | ipv4 address =>
      cases slots with
      | zero => cases fits
      | succ slots =>
          have two : 0 < slots := Nat.le_of_succ_le_succ fits
          have stops : Stops (isDigit 10) rest := by
            intro char first
            have other := (halts.closes char first).1
            rw [← Bool.not_eq_true] at other ⊢
            exact fun digit => other (isDigit_mono (by decide) digit)
          have found : readIpv4Addr (address.chars ++ rest) = some (address, rest) :=
            readIpv4Addr_eq_some_iff.mpr ⟨rfl, stops⟩
          rw [List.cons_append, Net.readGroups, if_pos two, readSeparator_colon, found]

theorem Groups.readGroups {chars rest : List Char} {values : List UInt16} {embedded : Bool}
    (groups : Groups chars values embedded) {slots : Nat} (fits : values.length ≤ slots)
    (halts : Halts rest) : readGroups 0 slots (chars ++ rest) = (values, embedded, rest) := by
  rw [readGroups_zero]
  cases groups with
  | empty =>
      have colon : Halts (':' :: rest) := halts_colon halts.closes.stops
      rw [List.nil_append, readGroups_halts slots colon, if_pos rfl]
  | led led =>
      rw [← List.cons_append, led.readGroups fits halts, if_neg]
      cases led <;> simp [Ipv4Addr.segments]

/-- Groups are not taken for an IPv4 address. -/
theorem Groups.readIpv4Addr_eq_none {text rest : List Char} {values : List UInt16}
    (groups : Groups text values false) (closes : Closes rest) :
    readIpv4Addr (text ++ rest) = none := by
  cases groups with
  | empty => exact Net.readIpv4Addr_eq_none closes.stops
  | led led =>
      cases led with
      | group isGroup led =>
          rw [List.append_assoc]
          exact readIpv4Addr_group isGroup (led.closes closes)

/-! ## Literals are read -/

theorem ofParts?_eq_some_iff {head tail : List UInt16} {address : Ipv6Addr} :
    Ipv6Addr.ofParts? head tail = some address ↔
      head.length + tail.length ≤ 8 ∧
        head ++ (List.replicate (8 - head.length - tail.length) 0 ++ tail) = address.segments := by
  rw [Ipv6Addr.ofParts?, Option.dite_none_right_eq_some]
  constructor
  · intro made
    rcases made with ⟨fits, made⟩
    cases made
    exact ⟨fits, rfl⟩
  · intro parts
    rcases parts with ⟨fits, same⟩
    refine ⟨fits, ?_⟩
    cases address
    simp only at same
    simp only [same]

/-- What is read as an address is a literal of it. -/
theorem readIpv6Addr_sound {chars rest : List Char} {address : Ipv6Addr}
    (read : readIpv6Addr chars = some (address, rest)) :
    ∃ text, chars = text ++ rest ∧ Ipv6Literal text address.segments := by
  rw [readIpv6Addr] at read
  rcases headRead : readGroups 0 8 chars with ⟨head, embedded, afterHead⟩
  rcases readGroups_sound headRead with ⟨headText, rfl, headGroups, headFits⟩
  simp only [headRead] at read
  split at read
  next full =>
    cases read
    exact ⟨headText, rfl, .full headGroups full⟩
  next short =>
    split at read
    next => cases read
    next notEmbedded =>
      rw [Bool.not_eq_true] at notEmbedded
      subst notEmbedded
      simp only [Option.bind_eq_bind, Option.bind_eq_some_iff, readGivenChar_eq_some_iff,
        ofParts?_eq_some_iff, Option.some.injEq, Prod.mk.injEq] at read
      rcases read with ⟨_, rfl, afterColons, rfl, _, ⟨_, parts⟩, rfl, rfl⟩
      rcases tailRead : readGroups 0 (8 - (head.length + 1)) afterColons with
        ⟨tail, embedded, afterTail⟩
      rcases readGroups_sound tailRead with ⟨tailText, rfl, tailGroups, tailFits⟩
      have few : head.length + tail.length ≤ 7 := by omega
      rw [tailRead] at parts
      rw [← parts]
      refine ⟨headText ++ ':' :: ':' :: tailText, ?_, .compressed headGroups tailGroups few⟩
      simp only [List.append_assoc, List.cons_append]

/-- What follows a literal: no digit, dot or colon. -/
def Delimits (rest : List Char) : Prop :=
  ∀ char ∈ rest.head?, isDigit 16 char = false ∧ char ≠ '.' ∧ char ≠ ':'

theorem Delimits.halts {rest : List Char} (delimits : Delimits rest) : Halts rest where
  closes char first := ⟨(delimits char first).1, (delimits char first).2.1⟩
  afterColon := by
    intro after same
    subst same
    exact absurd rfl (delimits ':' rfl).2.2

theorem halts_colons (rest : List Char) : Halts (':' :: ':' :: rest) :=
  halts_colon (stops_cons rfl rest)

/-- A literal is read as its address. -/
theorem Ipv6Literal.readIpv6Addr {text rest : List Char} {address : Ipv6Addr}
    (literal : Ipv6Literal text address.segments) (delimits : Delimits rest) :
    readIpv6Addr (text ++ rest) = some (address, rest) := by
  generalize segments : address.segments = values at literal
  cases literal with
  | full groups full =>
      have read := groups.readGroups (Nat.le_of_eq full) delimits.halts
      subst segments
      rw [Net.readIpv6Addr, read]
      exact dif_pos address.length
  | @compressed head tail values others embedded headGroups tailGroups fits =>
      have headFits : values.length ≤ 8 := by omega
      have tailFits : others.length ≤ 8 - (values.length + 1) := by omega
      have headRead := headGroups.readGroups headFits (halts_colons (tail ++ rest))
      have tailRead := tailGroups.readGroups tailFits delimits.halts
      have parts : Ipv6Addr.ofParts? values others = some address :=
        ofParts?_eq_some_iff.mpr ⟨by omega, segments.symm⟩
      have short : values.length ≠ 8 := by omega
      rw [List.append_assoc, List.cons_append, List.cons_append, Net.readIpv6Addr, headRead]
      simp only [short, dif_neg, not_false_eq_true, Bool.false_eq_true, if_false, readGivenChar,
        if_true, Option.bind_eq_bind, Option.bind_some, tailRead, parts]

end Net
