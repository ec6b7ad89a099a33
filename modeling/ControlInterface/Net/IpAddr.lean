import ControlInterface.Net.Ipv6.Display

/-!
# Addresses of either family and sockets

An address is read as IPv4 or else as IPv6, and the whole text has to be read.  The socket
address of an address and a port is written with brackets around an IPv6 address, and is
read back.
-/

namespace Net

open Text

/-- `std::net::IpAddr` -/
inductive IpAddr where
  | v4 (address : Ipv4Addr)
  | v6 (address : Ipv6Addr)
  deriving DecidableEq

def IpAddr.chars : IpAddr → List Char
  | .v4 address => address.chars
  | .v6 address => address.chars

def IpAddr.display (address : IpAddr) : String := String.ofList address.chars

/-- `std::net::SocketAddr` -/
inductive SocketAddr where
  | v4 (ip : Ipv4Addr) (port : UInt16)
  | v6 (ip : Ipv6Addr) (port : UInt16) (flowinfo scopeId : UInt32)
  deriving DecidableEq

namespace SocketAddr

/-- `SocketAddr::new` -/
def new : IpAddr → UInt16 → SocketAddr
  | .v4 ip, port => .v4 ip port
  | .v6 ip, port => .v6 ip port 0 0

def ip : SocketAddr → IpAddr
  | .v4 ip _ => .v4 ip
  | .v6 ip _ _ _ => .v6 ip

def port : SocketAddr → UInt16
  | .v4 _ port => port
  | .v6 _ port _ _ => port

@[simp] theorem ip_new (ip : IpAddr) (port : UInt16) : (new ip port).ip = ip := by
  cases ip <;> rfl

@[simp] theorem port_new (ip : IpAddr) (port : UInt16) : (new ip port).port = port := by
  cases ip <;> rfl

end SocketAddr

/-! ## Readers -/

/-- `Parser::parse_with`: the whole text has to be read. -/
def parseWith {α : Type} (inner : List Char → Option (α × List Char)) (text : String) : Option α :=
  match inner text.toList with
  | some (value, []) => some value
  | _ => none

/-- `Parser::read_ip_addr` -/
def readIpAddr (chars : List Char) : Option (IpAddr × List Char) :=
  match readIpv4Addr chars with
  | some (address, rest) => some (.v4 address, rest)
  | none => (readIpv6Addr chars).map fun (address, rest) => (.v6 address, rest)

/-- `IpAddr::from_str` -/
def IpAddr.parse : String → Option IpAddr := parseWith readIpAddr

example : (IpAddr.parse "2001:0DB8:0000::1").map IpAddr.display = some "2001:db8::1" := by
  decide +kernel

/-- `Parser::read_port` -/
def readPort (chars : List Char) : Option (UInt16 × List Char) := do
  let chars ← readGivenChar ':' chars
  let (port, chars) ← readNumber 10 none true 65536 chars
  some (UInt16.ofNat port, chars)

/-- `Parser::read_scope_id` -/
def readScopeId (chars : List Char) : Option (UInt32 × List Char) := do
  let chars ← readGivenChar '%' chars
  let (scopeId, chars) ← readNumber 10 none true 4294967296 chars
  some (UInt32.ofNat scopeId, chars)

/-- `Parser::read_socket_addr_v4` -/
def readSocketAddrV4 (chars : List Char) : Option (SocketAddr × List Char) := do
  let (ip, chars) ← readIpv4Addr chars
  let (port, chars) ← readPort chars
  some (.v4 ip port, chars)

/-- `Parser::read_socket_addr_v6` -/
def readSocketAddrV6 (chars : List Char) : Option (SocketAddr × List Char) := do
  let chars ← readGivenChar '[' chars
  let (ip, chars) ← readIpv6Addr chars
  let (scopeId, chars) := (readScopeId chars).getD (0, chars)
  let chars ← readGivenChar ']' chars
  let (port, chars) ← readPort chars
  some (.v6 ip port 0 scopeId, chars)

/-- `Parser::read_socket_addr` -/
def readSocketAddr (chars : List Char) : Option (SocketAddr × List Char) :=
  (readSocketAddrV4 chars).orElse fun _ => readSocketAddrV6 chars

/-- `SocketAddr::from_str` -/
def SocketAddr.parse : String → Option SocketAddr := parseWith readSocketAddr

theorem parseWith_eq_some_iff {α : Type} {inner : List Char → Option (α × List Char)}
    {text : String} {value : α} :
    parseWith inner text = some value ↔ inner text.toList = some (value, []) := by
  rw [parseWith]
  split
  next found => simp [found]
  next other =>
    constructor
    · intro impossible
      cases impossible
    · intro found
      exact absurd found (other value)

/-! ## Literals -/

/-- The text of an address of either family. -/
inductive IpLiteral : List Char → IpAddr → Prop where
  | v4 (address : Ipv4Addr) : IpLiteral address.chars (.v4 address)
  | v6 {text : List Char} {address : Ipv6Addr} :
      Ipv6Literal text address.segments → IpLiteral text (.v6 address)

/-- No IPv6 literal starts with an IPv4 address. -/
theorem Ipv6Literal.readIpv4Addr_eq_none {text : List Char} {values : List UInt16}
    (literal : Ipv6Literal text values) : readIpv4Addr text = none := by
  cases literal with
  | full groups full =>
      cases groups with
      | empty => cases full
      | led led =>
          cases led with
          | group isGroup led =>
              have closes := led.closes closes_nil
              rw [List.append_nil] at closes
              exact readIpv4Addr_group isGroup closes
          | ipv4 => cases full
  | compressed headGroups _ _ => exact headGroups.readIpv4Addr_eq_none (halts_colons _).closes

/-- The literals of an address are the texts that are read as it. -/
theorem IpAddr.parse_eq_some_iff {text : String} {address : IpAddr} :
    parse text = some address ↔ IpLiteral text.toList address := by
  rw [parse, parseWith_eq_some_iff, readIpAddr]
  constructor
  · intro read
    split at read
    next ipv4 rest found =>
      cases read
      rw [(readIpv4Addr_eq_some_iff.mp found).1, List.append_nil]
      exact .v4 ipv4
    next =>
      rw [Option.map_eq_some_iff] at read
      rcases read with ⟨⟨ipv6, rest⟩, found, same⟩
      cases same
      rcases readIpv6Addr_sound found with ⟨whole, split, literal⟩
      rw [split, List.append_nil]
      exact .v6 literal
  · intro literal
    generalize text.toList = chars at literal
    cases literal with
    | v4 address =>
        have found : readIpv4Addr address.chars = some (address, []) :=
          readIpv4Addr_eq_some_iff.mpr ⟨(List.append_nil _).symm, stops_nil _⟩
        rw [found]
    | v6 literal =>
        have nothing : Delimits [] := nofun
        have found := literal.readIpv6Addr nothing
        rw [List.append_nil] at found
        rw [literal.readIpv4Addr_eq_none, found]
        rfl

-- What is read is known through its literals from here on.
attribute [irreducible] IpAddr.parse

theorem Ipv6Literal.length {text : List Char} {values : List UInt16}
    (literal : Ipv6Literal text values) : values.length = 8 := by
  cases literal with
  | full _ full => exact full
  | compressed =>
      rw [List.length_append, List.length_append, List.length_replicate]
      omega

theorem Ipv6Literal.exists_parse {text : String} {values : List UInt16}
    (literal : Ipv6Literal text.toList values) : ∃ address, IpAddr.parse text = some address := by
  have whole : Ipv6Literal text.toList (Ipv6Addr.mk values literal.length).segments := literal
  exact ⟨_, IpAddr.parse_eq_some_iff.mpr (.v6 whole)⟩

theorem IpAddr.literal_chars : (address : IpAddr) → IpLiteral address.chars address
  | .v4 address => .v4 address
  | .v6 address => .v6 address.literal_chars

/-- An address is read back from what is written for it. -/
@[simp] theorem IpAddr.parse_display (address : IpAddr) : parse address.display = some address := by
  rw [parse_eq_some_iff, display, String.toList_ofList]
  exact address.literal_chars

theorem IpAddr.display_injective {left right : IpAddr} (same : left.display = right.display) :
    left = right := by
  rw [← Option.some_inj, ← parse_display left, same, parse_display right]

/-! ## The characters of a literal -/

/-- A hexadecimal digit, a dot or a colon. -/
def IsLiteralChar (char : Char) : Prop := isDigit 16 char = true ∨ char = '.' ∨ char = ':'

instance (char : Char) : Decidable (IsLiteralChar char) := inferInstanceAs (Decidable (_ ∨ _))

theorem Ipv4Addr.isLiteralChar (address : Ipv4Addr) :
    ∀ char ∈ address.chars, IsLiteralChar char := by
  intro char member
  rcases address.isDigit_or_dot char member with digit | dot
  · exact .inl (isDigit_mono (by decide) digit)
  · exact .inr (.inl dot)

theorem Led.isLiteralChar {chars : List Char} {values : List UInt16} {embedded : Bool}
    (led : Led chars values embedded) : ∀ char ∈ chars, IsLiteralChar char := by
  induction led with
  | nil => nofun
  | group isGroup led ih =>
      intro char member
      rw [List.mem_cons, List.mem_append] at member
      rcases member with rfl | digit | later
      · exact .inr (.inr rfl)
      · exact .inl (isDigit_of_numeral? isGroup.spelled char digit)
      · exact ih char later
  | ipv4 address =>
      intro char member
      rw [List.mem_cons] at member
      rcases member with rfl | inside
      · exact .inr (.inr rfl)
      · exact address.isLiteralChar char inside

theorem Groups.isLiteralChar {chars : List Char} {values : List UInt16} {embedded : Bool}
    (groups : Groups chars values embedded) : ∀ char ∈ chars, IsLiteralChar char := by
  cases groups with
  | empty => nofun
  | led led => exact fun char member => led.isLiteralChar char (List.mem_cons_of_mem _ member)

theorem Ipv6Literal.isLiteralChar {text : List Char} {values : List UInt16}
    (literal : Ipv6Literal text values) : ∀ char ∈ text, IsLiteralChar char := by
  cases literal with
  | full groups _ => exact groups.isLiteralChar
  | compressed headGroups tailGroups _ =>
      intro char member
      simp only [List.mem_append, List.mem_cons] at member
      rcases member with front | rfl | rfl | back
      · exact headGroups.isLiteralChar char front
      · exact .inr (.inr rfl)
      · exact .inr (.inr rfl)
      · exact tailGroups.isLiteralChar char back

theorem IpLiteral.isLiteralChar {text : List Char} {address : IpAddr}
    (literal : IpLiteral text address) : ∀ char ∈ text, IsLiteralChar char := by
  cases literal with
  | v4 address => exact address.isLiteralChar
  | v6 literal => exact literal.isLiteralChar

theorem IsLiteralChar.visible {char : Char} (inside : IsLiteralChar char) :
    isWhitespace char = false := by
  rcases inside with digit | rfl | rfl
  · rw [isDigit, Option.isSome_iff_exists] at digit
    rcases digit with ⟨value, digit⟩
    rw [toDigit_eq_some_iff, hexDigit?_eq_some_iff] at digit
    apply isWhitespace_of_printable <;> omega
  · rfl
  · rfl

/-- A text of such characters has no white space to lose. -/
theorem trim_of_isLiteralChar {text : String} (inside : ∀ char ∈ text.toList, IsLiteralChar char) :
    trim text = text := by
  rw [trim_eq_self_iff]
  constructor
  · intro char first
    exact (inside char (List.mem_of_mem_head? first)).visible
  · intro char last
    exact (inside char (List.mem_of_mem_getLast? last)).visible

/-! ## Socket addresses -/

def decimalPort (port : UInt16) : List Char := Nat.toDigits 10 port.toNat

/-- `SocketAddr::to_string`, for a socket address without a scope -/
def endpoint : IpAddr → UInt16 → String
  | .v4 ip, port => String.ofList (ip.chars ++ ':' :: decimalPort port)
  | .v6 ip, port => String.ofList ('[' :: (ip.chars ++ ']' :: ':' :: decimalPort port))

theorem isNumeral_decimalPort (port : UInt16) :
    IsNumeral 10 none true 65536 (decimalPort port) port.toNat where
  spelled := numeral?_toDigits (by decide) (by decide) _
  nonempty := Nat.toDigits_ne_nil
  short := nofun
  noZero := nofun
  small := port.toNat_lt

theorem readPort_decimalPort (port : UInt16) :
    readPort (':' :: decimalPort port) = some (port, []) := by
  have number : readNumber 10 none true 65536 (decimalPort port) = some (port.toNat, []) :=
    readNumber_eq_some_iff.mpr
      ⟨_, (List.append_nil _).symm, stops_nil _, isNumeral_decimalPort port⟩
  simp [readPort, readGivenChar, number]

/-- The socket address of an address and a port is read back. -/
theorem parse_endpoint (ip : IpAddr) (port : UInt16) :
    SocketAddr.parse (endpoint ip port) = some (.new ip port) := by
  rw [SocketAddr.parse, parseWith_eq_some_iff, readSocketAddr]
  cases ip with
  | v4 ip =>
      have found : readIpv4Addr (ip.chars ++ ':' :: decimalPort port) =
          some (ip, ':' :: decimalPort port) :=
        readIpv4Addr_eq_some_iff.mpr ⟨rfl, stops_cons rfl _⟩
      rw [endpoint, String.toList_ofList, readSocketAddrV4, found]
      simp [readPort_decimalPort, SocketAddr.new]
  | v6 ip =>
      have bracket : readIpv4Addr ('[' :: (ip.chars ++ ']' :: ':' :: decimalPort port)) = none :=
        readIpv4Addr_eq_none (stops_cons rfl _)
      have delimits : Delimits (']' :: ':' :: decimalPort port) := by
        intro char first
        cases first
        decide
      have found := ip.literal_chars.readIpv6Addr delimits
      rw [endpoint, String.toList_ofList, readSocketAddrV4, bracket]
      simp [readSocketAddrV6, readGivenChar, found, readScopeId, readPort_decimalPort,
        SocketAddr.new]

theorem endpoint_injective {ip other : IpAddr} {port otherPort : UInt16}
    (same : endpoint ip port = endpoint other otherPort) : ip = other ∧ port = otherPort := by
  have read := parse_endpoint ip port
  rw [same, parse_endpoint, Option.some_inj] at read
  have sameIp := congrArg SocketAddr.ip read
  have samePort := congrArg SocketAddr.port read
  rw [SocketAddr.ip_new, SocketAddr.ip_new] at sameIp
  rw [SocketAddr.port_new, SocketAddr.port_new] at samePort
  exact ⟨sameIp.symm, samePort.symm⟩

end Net
