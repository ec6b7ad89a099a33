import ControlInterface.Text.Numeral

/-!
# IPv4 addresses

Four octets, written as decimal numbers between dots.  An address is read from what is
written for it and from nothing else: a number with a leading zero is none.
-/

namespace Net

open Text

/-- `std::net::Ipv4Addr` -/
structure Ipv4Addr where
  first : UInt8
  second : UInt8
  third : UInt8
  fourth : UInt8
  deriving DecidableEq

def decimalOctet (octet : UInt8) : List Char := Nat.toDigits 10 octet.toNat

def Ipv4Addr.chars (address : Ipv4Addr) : List Char :=
  decimalOctet address.first ++ '.' :: (decimalOctet address.second ++
    '.' :: (decimalOctet address.third ++ '.' :: decimalOctet address.fourth))

/-- An octet is a number of up to three digits without leading zeros. -/
def readOctet (chars : List Char) : Option (UInt8 × List Char) :=
  (readNumber 10 (some 3) false 256 chars).map fun (value, rest) => (UInt8.ofNat value, rest)

/-- `Parser::read_ipv4_addr` -/
def readIpv4Addr (chars : List Char) : Option (Ipv4Addr × List Char) := do
  let (first, chars) ← readOctet chars
  let chars ← readGivenChar '.' chars
  let (second, chars) ← readOctet chars
  let chars ← readGivenChar '.' chars
  let (third, chars) ← readOctet chars
  let chars ← readGivenChar '.' chars
  let (fourth, chars) ← readOctet chars
  some (⟨first, second, third, fourth⟩, chars)

theorem isNumeral_decimalOctet (octet : UInt8) :
    IsNumeral 10 (some 3) false 256 (decimalOctet octet) octet.toNat where
  spelled := numeral?_toDigits (by decide) (by decide) _
  nonempty := Nat.toDigits_ne_nil
  short := by
    intro most given
    cases given
    rw [decimalOctet, Nat.length_toDigits_le_iff (by decide) (by decide)]
    exact octet.toNat_lt.trans (by decide)
  noZero := by
    intro _ leading
    cases zero : octet.toNat with
    | zero => rw [decimalOctet, zero, Nat.toDigits_zero]; rfl
    | succ value => exact absurd leading (toDigits_head_ne_zero (by omega))
  small := octet.toNat_lt

/-- An octet is read from its digits, and from nothing else. -/
theorem readOctet_eq_some_iff {chars rest : List Char} {octet : UInt8} :
    readOctet chars = some (octet, rest) ↔
      chars = decimalOctet octet ++ rest ∧ Stops (isDigit 10) rest := by
  simp only [readOctet, Option.map_eq_some_iff, Prod.exists, Prod.mk.injEq, readNumber_eq_some_iff]
  constructor
  · intro read
    rcases read with ⟨value, _, ⟨digits, rfl, stops, isNumeral⟩, rfl, rfl⟩
    have spelling := toDigits_of_numeral? isNumeral.nonempty (isNumeral.noZero rfl)
      isNumeral.spelled
    rw [decimalOctet, UInt8.toNat_ofNat_of_lt' isNumeral.small, spelling]
    exact ⟨rfl, stops⟩
  · intro split
    rcases split with ⟨rfl, stops⟩
    exact ⟨_, _, ⟨_, rfl, stops, isNumeral_decimalOctet octet⟩, UInt8.ofNat_toNat, rfl⟩

theorem stops_dot (rest : List Char) : Stops (isDigit 10) ('.' :: rest) := stops_cons rfl rest

/-- An address is read from its characters, and from nothing else. -/
theorem readIpv4Addr_eq_some_iff {chars rest : List Char} {address : Ipv4Addr} :
    readIpv4Addr chars = some (address, rest) ↔
      chars = address.chars ++ rest ∧ Stops (isDigit 10) rest := by
  simp only [readIpv4Addr, Option.bind_eq_bind, Option.bind_eq_some_iff, Prod.exists,
    readOctet_eq_some_iff, readGivenChar_eq_some_iff, Option.some.injEq, Prod.mk.injEq]
  constructor
  · intro read
    rcases read with ⟨first, _, ⟨rfl, _⟩, _, rfl, second, _, ⟨rfl, _⟩, _, rfl, third, _, ⟨rfl, _⟩,
      _, rfl, fourth, _, ⟨rfl, stops⟩, rfl, rfl⟩
    constructor
    · simp only [Ipv4Addr.chars, List.append_assoc, List.cons_append]
    · exact stops
  · intro split
    rcases split with ⟨rfl, stops⟩
    rcases address with ⟨first, second, third, fourth⟩
    simp only [Ipv4Addr.chars, List.append_assoc, List.cons_append]
    exact ⟨first, _, ⟨rfl, stops_dot _⟩, _, rfl, second, _, ⟨rfl, stops_dot _⟩, _, rfl, third, _,
      ⟨rfl, stops_dot _⟩, _, rfl, fourth, _, ⟨rfl, stops⟩, rfl, rfl⟩

theorem Ipv4Addr.isDigit_or_dot (address : Ipv4Addr) :
    ∀ char ∈ address.chars, isDigit 10 char = true ∨ char = '.' := by
  intro char member
  have digit : ∀ octet, char ∈ decimalOctet octet → isDigit 10 char = true := fun octet inside =>
    isDigit_toDigits (by decide) (by decide) _ char inside
  simp only [Ipv4Addr.chars, List.mem_append, List.mem_cons] at member
  rcases member with first | rfl | second | rfl | third | rfl | fourth
  · exact .inl (digit _ first)
  · exact .inr rfl
  · exact .inl (digit _ second)
  · exact .inr rfl
  · exact .inl (digit _ third)
  · exact .inr rfl
  · exact .inl (digit _ fourth)

theorem Ipv4Addr.colon_not_mem (address : Ipv4Addr) : ':' ∉ address.chars := by
  intro member
  rcases address.isDigit_or_dot ':' member with digit | dot
  · exact absurd digit (by decide)
  · exact absurd dot (by decide)

end Net
