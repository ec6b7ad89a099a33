import ControlInterface.Net.Ipv6.Read

/-!
# Writing IPv6 addresses

An address is written in lowercase without leading zeros, with a double colon for a longest
run of zeros, and an address mapped from IPv4 with that address at its end.  What is written
is a literal of the address.
-/

namespace Net

open Text

/-- `Ipv6Addr::to_ipv4_mapped` -/
def Ipv6Addr.toIpv4Mapped (address : Ipv6Addr) : Option Ipv4Addr :=
  match address.segments with
  | [0, 0, 0, 0, 0, 0xffff, high, low] =>
      some ⟨UInt8.ofNat (high.toNat / 256), UInt8.ofNat (high.toNat % 256),
        UInt8.ofNat (low.toNat / 256), UInt8.ofNat (low.toNat % 256)⟩
  | _ => none

/-- A run of segments. -/
structure Span where
  start : Nat
  len : Nat
  deriving DecidableEq

/-- The loop that looks for the longest run of zeros. -/
def longestZeroes : List UInt16 → Nat → Span → Span → Span
  | [], _, longest, _ => longest
  | segment :: rest, index, longest, current =>
      if segment = 0 then
        let current : Span :=
          { start := if current.len = 0 then index else current.start, len := current.len + 1 }
        longestZeroes rest (index + 1) (if longest.len < current.len then current else longest)
          current
      else longestZeroes rest (index + 1) longest ⟨0, 0⟩

def Ipv6Addr.zeroes (address : Ipv6Addr) : Span :=
  longestZeroes address.segments 0 ⟨0, 0⟩ ⟨0, 0⟩

def hexSegment (segment : UInt16) : List Char := Nat.toDigits 16 segment.toNat

/-- `fmt_subslice` -/
def fmtSubslice : List UInt16 → List Char
  | [] => []
  | first :: tail => hexSegment first ++ tail.flatMap fun segment => ':' :: hexSegment segment

/-- `Display::fmt` -/
def Ipv6Addr.chars (address : Ipv6Addr) : List Char :=
  match address.toIpv4Mapped with
  | some ipv4 => ':' :: ':' :: 'f' :: 'f' :: 'f' :: 'f' :: ':' :: ipv4.chars
  | none =>
      let zeroes := address.zeroes
      if 1 < zeroes.len then
        fmtSubslice (address.segments.take zeroes.start) ++
          ':' :: ':' :: fmtSubslice (address.segments.drop (zeroes.start + zeroes.len))
      else fmtSubslice address.segments

/-! ## Runs of zeros -/

/-- The segments are zeros there. -/
def Span.IsZeroes (span : Span) (segments : List UInt16) : Prop :=
  ∃ before after, segments = before ++ (List.replicate span.len 0 ++ after) ∧
    before.length = span.start

theorem Span.IsZeroes.append {span : Span} {segments : List UInt16}
    (isZeroes : span.IsZeroes segments) (more : List UInt16) : span.IsZeroes (segments ++ more) := by
  rcases isZeroes with ⟨before, after, rfl, start⟩
  exact ⟨before, after ++ more, by simp only [List.append_assoc], start⟩

/-- The loop keeps a run of zeros so far, and the run that the segments so far end in. -/
theorem longestZeroes_isZeroes {front rest : List UInt16} {longest current : Span}
    (isZeroes : longest.IsZeroes front)
    (trailing : current.len ≠ 0 →
      ∃ before, front = before ++ List.replicate current.len 0 ∧ before.length = current.start) :
    (longestZeroes rest front.length longest current).IsZeroes (front ++ rest) := by
  induction rest generalizing front longest current with
  | nil =>
      rw [List.append_nil]
      exact isZeroes
  | cons segment rest ih =>
      rw [longestZeroes, List.append_cons]
      have next : front.length + 1 = (front ++ [segment]).length := by simp
      split
      next zero =>
        subst zero
        rw [next]
        have extended : ∃ before, front ++ [0] = before ++ List.replicate (current.len + 1) 0 ∧
            before.length = if current.len = 0 then front.length else current.start := by
          split
          next fresh => exact ⟨front, by rw [fresh]; rfl, rfl⟩
          next running =>
            rcases trailing running with ⟨before, split, start⟩
            exact ⟨before, by rw [split, List.append_assoc, List.replicate_succ'], start⟩
        rcases extended with ⟨before, split, start⟩
        apply ih
        · dsimp only
          by_cases longer : longest.len < current.len + 1
          · rw [if_pos longer]
            exact ⟨before, [], by rw [split, List.append_nil], start⟩
          · rw [if_neg longer]
            exact isZeroes.append [0]
        · intro _
          exact ⟨before, split, start⟩
      next =>
        rw [next]
        apply ih (isZeroes.append [segment])
        intro running
        contradiction

theorem zeroes_isZeroes (address : Ipv6Addr) : address.zeroes.IsZeroes address.segments := by
  have none : (⟨0, 0⟩ : Span).IsZeroes [] := ⟨[], [], rfl, rfl⟩
  apply longestZeroes_isZeroes none
  intro running
  contradiction

/-! ## What is written is a literal -/

theorem isGroup_hexSegment (segment : UInt16) : IsGroup (hexSegment segment) segment where
  spelled := numeral?_toDigits (by decide) (by decide) _
  nonempty := Nat.toDigits_ne_nil
  short := by
    intro most given
    cases given
    rw [hexSegment, Nat.length_toDigits_le_iff (by decide) (by decide)]
    exact segment.toNat_lt
  noZero := nofun
  small := segment.toNat_lt

theorem led_flatMap (segments : List UInt16) :
    Led (segments.flatMap fun segment => ':' :: hexSegment segment) segments false := by
  induction segments with
  | nil => exact .nil
  | cons segment rest ih => exact .group (isGroup_hexSegment segment) ih

theorem groups_fmtSubslice (segments : List UInt16) :
    Groups (fmtSubslice segments) segments false := by
  cases segments with
  | nil => exact .empty
  | cons first tail => exact .led (.group (isGroup_hexSegment first) (led_flatMap tail))

theorem fromBeBytes_split (segment : UInt16) :
    fromBeBytes (UInt8.ofNat (segment.toNat / 256)) (UInt8.ofNat (segment.toNat % 256)) =
      segment := by
  have bound := segment.toNat_lt
  rw [fromBeBytes, UInt8.toNat_ofNat_of_lt' (by simp only [UInt8.size]; omega),
    UInt8.toNat_ofNat_of_lt' (by simp only [UInt8.size]; omega), Nat.div_add_mod',
    UInt16.ofNat_toNat]

theorem segments_of_toIpv4Mapped {address : Ipv6Addr} {ipv4 : Ipv4Addr}
    (mapped : address.toIpv4Mapped = some ipv4) :
    address.segments = [0, 0, 0, 0, 0, 0xffff] ++ ipv4.segments := by
  rw [Ipv6Addr.toIpv4Mapped] at mapped
  split at mapped
  next high low segments =>
    cases mapped
    simp only [segments, Ipv4Addr.segments, fromBeBytes_split, List.cons_append, List.nil_append]
  next => cases mapped

/-- What is written for an address is a literal of it. -/
theorem Ipv6Addr.literal_chars (address : Ipv6Addr) : Ipv6Literal address.chars address.segments := by
  rw [Ipv6Addr.chars]
  split
  next ipv4 mapped =>
    have tail : Groups ('f' :: 'f' :: 'f' :: 'f' :: ':' :: ipv4.chars) (0xffff :: ipv4.segments)
        true :=
      .led (.group (isGroup_hexSegment 0xffff) (.ipv4 ipv4))
    rw [segments_of_toIpv4Mapped mapped]
    exact .compressed .empty tail (show 3 ≤ 7 by decide)
  next =>
    simp only
    split
    next long =>
      rcases zeroes_isZeroes address with ⟨before, after, split, start⟩
      have total := address.length
      rw [split, List.length_append, List.length_append, List.length_replicate] at total
      have head : address.segments.take address.zeroes.start = before := by
        rw [split, ← start, List.take_left]
      have tail : address.segments.drop (address.zeroes.start + address.zeroes.len) = after := by
        rw [split, ← start, ← List.drop_drop, List.drop_left]
        exact List.drop_left' List.length_replicate
      have missing : 8 - before.length - after.length = address.zeroes.len := by omega
      have literal := Ipv6Literal.compressed (groups_fmtSubslice before) (groups_fmtSubslice after)
        (by omega)
      rw [missing, ← split] at literal
      rw [head, tail]
      exact literal
    next => exact .full (groups_fmtSubslice address.segments) address.length

end Net
