import ControlInterface.Net.IpAddr
import ControlInterface.Net.Ipv6.LastGroup
import ControlInterface.Params.Basic

/-!
# Addresses of trusted peers

A peer is kept under the one text of its address, whatever spelling it was given in, and is
joined to a port by the text of a socket address.  A text that is no address is joined as it
is, and may be short of just the group that a port makes up.
-/

namespace ControlInterface

open Net Text

/-- The key a peer is kept under. -/
def canonicalPeerIp (format : Serde.Formatter) (raw : String) : Except ControlError String :=
  okOr
    (.of .invalidParams
      ("ip must be a bare IPv4 or IPv6 literal (no brackets, no port, no hostname), got: " ++
        format.debug raw))
    ((IpAddr.parse (trim raw)).map IpAddr.display)

/-- The endpoint of a peer at a port. -/
def chiaPeerEndpoint (ip : String) (port : UInt16) : String :=
  match IpAddr.parse (trim ip) with
  | some (.v6 v6) => "[" ++ String.ofList v6.chars ++ "]:" ++ String.ofList (decimalPort port)
  | some (.v4 v4) => String.ofList v4.chars ++ ":" ++ String.ofList (decimalPort port)
  | none => ip ++ ":" ++ String.ofList (decimalPort port)

/-! ## Keys -/

section Keys

variable {format : Serde.Formatter} {raw key : String}

theorem canonicalPeerIp_eq_ok_iff :
    canonicalPeerIp format raw = .ok key ↔
      ∃ address, IpAddr.parse (trim raw) = some address ∧ address.display = key := by
  rw [canonicalPeerIp, okOr_eq_ok_iff, Option.map_eq_some_iff]

/-- The text of an address has no white space to lose. -/
theorem trim_display (address : IpAddr) : trim address.display = address.display := by
  apply trim_of_isLiteralChar
  rw [IpAddr.display, String.toList_ofList]
  exact address.literal_chars.isLiteralChar

theorem parse_trim_display (address : IpAddr) :
    IpAddr.parse (trim address.display) = some address := by
  rw [trim_display, IpAddr.parse_display]

/-- A key is kept under itself. -/
theorem canonicalPeerIp_of_eq_ok (accepted : canonicalPeerIp format raw = .ok key) :
    canonicalPeerIp format key = .ok key := by
  rcases canonicalPeerIp_eq_ok_iff.mp accepted with ⟨address, _, rfl⟩
  exact canonicalPeerIp_eq_ok_iff.mpr ⟨address, parse_trim_display address, rfl⟩

/-- Keys are equal exactly when they were read as one address. -/
theorem key_eq_iff {other otherKey : String} (accepted : canonicalPeerIp format raw = .ok key)
    (acceptedOther : canonicalPeerIp format other = .ok otherKey) :
    key = otherKey ↔ IpAddr.parse (trim raw) = IpAddr.parse (trim other) := by
  rcases canonicalPeerIp_eq_ok_iff.mp accepted with ⟨address, read, rfl⟩
  rcases canonicalPeerIp_eq_ok_iff.mp acceptedOther with ⟨otherAddress, readOther, rfl⟩
  rw [read, readOther, Option.some_inj]
  constructor
  · intro same
    exact IpAddr.display_injective same
  · intro same
    rw [same]

/-- The texts that are accepted are the literals, with white space around them. -/
theorem exists_key_iff :
    (∃ key, canonicalPeerIp format raw = .ok key) ↔
      ∃ address, IpLiteral (trim raw).toList address := by
  simp only [canonicalPeerIp_eq_ok_iff, IpAddr.parse_eq_some_iff]
  constructor
  · intro accepted
    rcases accepted with ⟨_, address, literal, _⟩
    exact ⟨address, literal⟩
  · intro literal
    rcases literal with ⟨address, literal⟩
    exact ⟨_, address, literal, rfl⟩

/-- A key is joined to a port as the socket address of what it is read as. -/
theorem chiaPeerEndpoint_display (address : IpAddr) (port : UInt16) :
    chiaPeerEndpoint address.display port = endpoint address port := by
  rw [chiaPeerEndpoint, parse_trim_display]
  cases address with
  | v4 address =>
      rw [← String.toList_inj]
      simp [endpoint]
  | v6 address =>
      rw [← String.toList_inj]
      simp [endpoint]

end Keys

/-- Peers have one key each, and keys and ports one endpoint each that is read back as the
address and the port. -/
theorem one_key_and_endpoint (format : Serde.Formatter) :
    (∀ raw, (∃ key, canonicalPeerIp format raw = .ok key) ↔
      ∃ address, IpLiteral (trim raw).toList address) ∧
    (∀ raw key, canonicalPeerIp format raw = .ok key → canonicalPeerIp format key = .ok key) ∧
    (∀ raw key other otherKey,
      canonicalPeerIp format raw = .ok key → canonicalPeerIp format other = .ok otherKey →
      (key = otherKey ↔ IpAddr.parse (trim raw) = IpAddr.parse (trim other))) ∧
    (∀ raw key port, canonicalPeerIp format raw = .ok key →
      ∃ address, IpAddr.parse (trim raw) = some address ∧
        SocketAddr.parse (chiaPeerEndpoint key port) = some (.new address port)) ∧
    ∀ raw key port other otherKey otherPort,
      canonicalPeerIp format raw = .ok key → canonicalPeerIp format other = .ok otherKey →
      chiaPeerEndpoint key port = chiaPeerEndpoint otherKey otherPort →
      key = otherKey ∧ port = otherPort := by
  refine ⟨fun _ => exists_key_iff, ?_, ?_, ?_, ?_⟩
  · intro raw key accepted
    exact canonicalPeerIp_of_eq_ok accepted
  · intro raw key other otherKey accepted acceptedOther
    exact key_eq_iff accepted acceptedOther
  · intro raw key port accepted
    rcases canonicalPeerIp_eq_ok_iff.mp accepted with ⟨address, read, rfl⟩
    refine ⟨address, read, ?_⟩
    rw [chiaPeerEndpoint_display, parse_endpoint]
  · intro raw key port other otherKey otherPort accepted acceptedOther same
    rcases canonicalPeerIp_eq_ok_iff.mp accepted with ⟨address, _, rfl⟩
    rcases canonicalPeerIp_eq_ok_iff.mp acceptedOther with ⟨otherAddress, _, rfl⟩
    rw [chiaPeerEndpoint_display, chiaPeerEndpoint_display] at same
    rcases endpoint_injective same with ⟨rfl, rfl⟩
    exact ⟨rfl, rfl⟩

/-! ## Joined texts that are addresses -/

/-- The text takes the port for the group it lacks. -/
def Absorbs (ip : String) (port : UInt16) : Prop :=
  port.toNat < 10000 ∧ LacksGroup ip.toList

/-- The joined text is no address. -/
def NotBare (ip : String) (port : UInt16) : Prop :=
  IpAddr.parse (chiaPeerEndpoint ip port) = none

theorem isDigit_decimalPort (port : UInt16) :
    ∀ char ∈ decimalPort port, isDigit 16 char = true := by
  intro char member
  apply isDigit_mono (show 10 ≤ 16 by decide)
  exact isDigit_toDigits (by decide) (by decide) _ char member

/-- A port is written like a group when it has up to four digits. -/
theorem exists_isGroup_decimalPort_iff {port : UInt16} :
    (∃ value, IsGroup (decimalPort port) value) ↔ port.toNat < 10000 := by
  have length : (decimalPort port).length ≤ 4 ↔ port.toNat < 10000 :=
    Nat.length_toDigits_le_iff (by decide) (by decide)
  constructor
  · intro isGroup
    rcases isGroup with ⟨value, isGroup⟩
    exact length.mp (isGroup.short 4 rfl)
  · intro small
    have short := length.mpr small
    rcases Option.isSome_iff_exists.mp (isSome_numeral?_iff.mpr (isDigit_decimalPort port)) with
      ⟨value, spelled⟩
    have bound : value < 65536 := by
      apply (numeral?_lt spelled).trans_le
      exact Nat.pow_le_pow_right (by decide) short
    refine ⟨UInt16.ofNat value, ?_⟩
    rw [IsGroup, UInt16.toNat_ofNat_of_lt' bound]
    constructor
    · exact spelled
    · exact Nat.toDigits_ne_nil
    · intro most given
      cases given
      exact short
    · intro disallowed
      cases disallowed
    · exact bound

/-- A text with a colon is no IPv4 address. -/
theorem exists_ipv6Literal_of_colon {text : List Char} {address : IpAddr}
    (literal : IpLiteral text address) (colon : ':' ∈ text) : ∃ values, Ipv6Literal text values := by
  cases literal with
  | v4 address => exact absurd colon address.colon_not_mem
  | v6 literal => exact ⟨_, literal⟩

/-- An address joined to a port is no address. -/
theorem notBare_of_parse {ip : String} {address : IpAddr}
    (read : IpAddr.parse (trim ip) = some address) (port : UInt16) : NotBare ip port := by
  rw [NotBare, Option.eq_none_iff_forall_ne_some]
  intro other found
  rw [IpAddr.parse_eq_some_iff, chiaPeerEndpoint, read] at found
  cases address with
  | v4 address =>
      have joined : (String.ofList address.chars ++ ":" ++ String.ofList (decimalPort port)).toList =
          address.chars ++ ':' :: decimalPort port := by simp
      have first : readIpv4Addr (address.chars ++ ':' :: decimalPort port) =
          some (address, ':' :: decimalPort port) :=
        readIpv4Addr_eq_some_iff.mpr ⟨rfl, stops_cons rfl _⟩
      simp only [joined] at found
      rcases exists_ipv6Literal_of_colon found (by simp) with ⟨values, literal⟩
      rw [literal.readIpv4Addr_eq_none] at first
      cases first
  | v6 address =>
      exact absurd (found.isLiteralChar '[' (by simp)) (by decide)

theorem chiaPeerEndpoint_of_eq_none {ip : String} (other : IpAddr.parse (trim ip) = none)
    (port : UInt16) :
    (chiaPeerEndpoint ip port).toList = ip.toList ++ ':' :: decimalPort port := by
  rw [chiaPeerEndpoint, other]
  simp

theorem isLiteralChar_of_lacksGroup {text : List Char} (lacks : LacksGroup text) :
    ∀ char ∈ text, IsLiteralChar char := by
  cases lacks with
  | seven groups _ => exact groups.isLiteralChar
  | colon groups _ =>
      intro char member
      rw [List.mem_append, List.mem_singleton] at member
      rcases member with inside | rfl
      · exact groups.isLiteralChar char inside
      · exact .inr (.inr rfl)

/-- A text that lacks a group is joined as it is. -/
theorem parse_trim_of_lacksGroup {ip : String} (lacks : LacksGroup ip.toList) :
    IpAddr.parse (trim ip) = none := by
  rw [trim_of_isLiteralChar (isLiteralChar_of_lacksGroup lacks), IpAddr.parse, parseWith,
    readIpAddr, lacks.readIpv4Addr_eq_none, lacks.readIpv6Addr_eq_none]
  rfl

/-- A joined text is no address, unless the text takes the port for the group it lacks. -/
theorem notBare_iff (ip : String) (port : UInt16) : NotBare ip port ↔ ¬ Absorbs ip port := by
  constructor
  · intro notBare absorbs
    rcases absorbs with ⟨small, lacks⟩
    rcases exists_isGroup_decimalPort_iff.mpr small with ⟨value, isGroup⟩
    rcases lacks.exists_literal isGroup with ⟨values, literal⟩
    rw [← chiaPeerEndpoint_of_eq_none (parse_trim_of_lacksGroup lacks)] at literal
    rcases literal.exists_parse with ⟨address, read⟩
    rw [NotBare, read] at notBare
    cases notBare
  · intro notAbsorbs
    cases own : IpAddr.parse (trim ip) with
    | some address => exact notBare_of_parse own port
    | none =>
        rw [NotBare, Option.eq_none_iff_forall_ne_some]
        intro address read
        rw [IpAddr.parse_eq_some_iff, chiaPeerEndpoint_of_eq_none own] at read
        rcases exists_ipv6Literal_of_colon read (by simp) with ⟨values, literal⟩
        rcases literal.lacksGroup_or Nat.toDigits_ne_nil (isDigit_decimalPort port) with
          ⟨isGroup, lacks | whole⟩
        · exact notAbsorbs ⟨exists_isGroup_decimalPort_iff.mp isGroup, lacks⟩
        · -- The text would itself have been read as an address.
          rcases whole with ⟨others, whole⟩
          rw [trim_of_isLiteralChar whole.isLiteralChar] at own
          rcases whole.exists_parse with ⟨address, read⟩
          rw [read] at own
          cases own

/-- Seven groups take the port for the eighth. -/
theorem sevenGroups_absorb_port : ¬ NotBare "1:2:3:4:5:6:7" 8444 := by
  rw [NotBare]
  decide +kernel

end ControlInterface
