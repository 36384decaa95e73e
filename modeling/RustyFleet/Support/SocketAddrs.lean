import Mathlib.Tactic.Common

/-! IP socket addresses and the text they are written as. -/

namespace Net

structure Ipv4Addr where
  first : UInt8
  second : UInt8
  third : UInt8
  fourth : UInt8
deriving DecidableEq

structure Ipv6Addr where
  segments : List UInt16
  eight : segments.length = 8
deriving DecidableEq

inductive IpAddr
  | v4 (ip : Ipv4Addr)
  | v6 (ip : Ipv6Addr)
deriving DecidableEq

inductive SocketAddr
  | v4 (ip : Ipv4Addr) (port : UInt16)
  | v6 (ip : Ipv6Addr) (port : UInt16) (flowinfo scopeId : UInt32)
deriving DecidableEq

def SocketAddr.ip : SocketAddr → IpAddr
  | .v4 ip _ => .v4 ip
  | .v6 ip _ _ _ => .v6 ip

namespace IpAddr

def isLoopback : IpAddr → Bool
  | .v4 ip => ip.first == 127
  | .v6 ip => ip.segments == [0, 0, 0, 0, 0, 0, 0, 1]

def isUnspecified : IpAddr → Bool
  | .v4 ip => ip == ⟨0, 0, 0, 0⟩
  | .v6 ip => ip.segments == [0, 0, 0, 0, 0, 0, 0, 0]

def isMulticast : IpAddr → Bool
  | .v4 ip => 224 ≤ ip.first && ip.first ≤ 239
  | .v6 ip => ip.segments.head?.any fun segment => segment.toNat / 256 == 0xff

end IpAddr

section Display

def decimal (value : Nat) : List Char := Nat.toDigits 10 value

def Ipv4Addr.display (ip : Ipv4Addr) : List Char :=
  decimal ip.first.toNat ++ '.' :: decimal ip.second.toNat ++ '.' :: decimal ip.third.toNat ++
    '.' :: decimal ip.fourth.toNat

/-- A run of zero groups, by where it starts and how long it is. -/
structure ZeroSpan where
  start : Nat
  len : Nat

/-- The longest run so far, and the run that ends at the group just read. -/
def zeroSpanStep (spans : ZeroSpan × ZeroSpan) (entry : UInt16 × Nat) : ZeroSpan × ZeroSpan :=
  if entry.1 = 0 then
    let current : ZeroSpan := ⟨if spans.2.len = 0 then entry.2 else spans.2.start, spans.2.len + 1⟩
    (if current.len > spans.1.len then current else spans.1, current)
  else (spans.1, ⟨0, 0⟩)

def longestZeroes (segments : List UInt16) : ZeroSpan :=
  (segments.zipIdx.foldl zeroSpanStep (⟨0, 0⟩, ⟨0, 0⟩)).1

/-- Groups in hexadecimal with a colon between them. -/
def fmtSubslice : List UInt16 → List Char
  | [] => []
  | first :: tail => Nat.toDigits 16 first.toNat ++ tail.flatMap fun segment => ':' :: Nat.toDigits 16 segment.toNat

def lowOctet (segment : UInt16) : UInt8 := UInt8.ofNat (segment.toNat % 256)

def highOctet (segment : UInt16) : UInt8 := UInt8.ofNat (segment.toNat / 256)

def Ipv6Addr.toIpv4Mapped (ip : Ipv6Addr) : Option Ipv4Addr :=
  match ip.segments with
  | [0, 0, 0, 0, 0, 0xffff, high, low] => some ⟨highOctet high, lowOctet high, highOctet low, lowOctet low⟩
  | _ => none

def Ipv6Addr.display (ip : Ipv6Addr) : List Char :=
  match ip.toIpv4Mapped with
  | some mapped => "::ffff:".toList ++ mapped.display
  | none =>
    let zeroes := longestZeroes ip.segments
    if zeroes.len > 1 then
      fmtSubslice (ip.segments.take zeroes.start) ++ "::".toList ++
        fmtSubslice (ip.segments.drop (zeroes.start + zeroes.len))
    else fmtSubslice ip.segments

def IpAddr.display : IpAddr → List Char
  | .v4 ip => ip.display
  | .v6 ip => ip.display

def SocketAddr.display : SocketAddr → List Char
  | .v4 ip port => ip.display ++ ':' :: decimal port.toNat
  | .v6 ip port _ scopeId =>
    if scopeId = 0 then '[' :: ip.display ++ "]:".toList ++ decimal port.toNat
    else '[' :: ip.display ++ '%' :: decimal scopeId.toNat ++ "]:".toList ++ decimal port.toNat

end Display

section Alphabet

def isAddressChar (c : Char) : Bool :=
  ('0' ≤ c && c ≤ '9') || ('a' ≤ c && c ≤ 'f') || c == ':' || c == '.' || c == '[' || c == ']' || c == '%'

theorem mem_toDigits {base : Nat} (wide : 1 < base) (value : Nat) :
    ∀ c ∈ Nat.toDigits base value, ∃ digit < base, c = Nat.digitChar digit := by
  induction value using Nat.strongRecOn with
  | ind value ih =>
    intro c member
    rw [Nat.toDigits_eq_if wide] at member
    by_cases small : value < base
    · rw [if_pos small, List.mem_singleton] at member
      exact ⟨value, small, member⟩
    · rw [if_neg small] at member
      rcases List.mem_append.mp member with earlier | last
      · exact ih (value / base) (Nat.div_lt_self (by omega) wide) c earlier
      · exact ⟨value % base, Nat.mod_lt _ (by omega), List.mem_singleton.mp last⟩

theorem digits_alphabet {base : Nat} (wide : 1 < base) (hex : base ≤ 16) (value : Nat) :
    ∀ c ∈ Nat.toDigits base value, isAddressChar c = true := by
  intro c member
  obtain ⟨digit, bound, rfl⟩ := mem_toDigits wide value c member
  have table : ∀ d < 16, isAddressChar (Nat.digitChar d) = true := by decide
  exact table digit (by omega)

theorem decimal_alphabet (value : Nat) : ∀ c ∈ decimal value, isAddressChar c = true :=
  digits_alphabet (by decide) (by decide) value

theorem Ipv4Addr.display_alphabet (ip : Ipv4Addr) : ∀ c ∈ ip.display, isAddressChar c = true := by
  have dot : isAddressChar '.' = true := by decide
  simp only [Ipv4Addr.display, List.mem_append, List.mem_cons]
  intro c member
  rcases member with ((digit | rfl | digit) | rfl | digit) | rfl | digit
  · exact decimal_alphabet _ c digit
  · exact dot
  · exact decimal_alphabet _ c digit
  · exact dot
  · exact decimal_alphabet _ c digit
  · exact dot
  · exact decimal_alphabet _ c digit

theorem fmtSubslice_alphabet (chunk : List UInt16) : ∀ c ∈ fmtSubslice chunk, isAddressChar c = true := by
  intro c member
  cases chunk with
  | nil => cases member
  | cons first tail =>
    rcases List.mem_append.mp member with digit | later
    · exact digits_alphabet (by decide) (by decide) _ c digit
    · obtain ⟨segment, _, inside⟩ := List.mem_flatMap.mp later
      rcases List.mem_cons.mp inside with rfl | digit
      · decide
      · exact digits_alphabet (by decide) (by decide) _ c digit

theorem Ipv6Addr.display_alphabet (ip : Ipv6Addr) : ∀ c ∈ ip.display, isAddressChar c = true := by
  have mapped : ∀ c ∈ "::ffff:".toList, isAddressChar c = true := List.all_eq_true.mp (by decide)
  have colons : ∀ c ∈ "::".toList, isAddressChar c = true := List.all_eq_true.mp (by decide)
  intro c member
  unfold Ipv6Addr.display at member
  split at member
  · rcases List.mem_append.mp member with front | digit
    · exact mapped c front
    · exact Ipv4Addr.display_alphabet _ c digit
  · simp only at member
    split at member
    · simp only [List.mem_append] at member
      rcases member with (front | middle) | back
      · exact fmtSubslice_alphabet _ c front
      · exact colons c middle
      · exact fmtSubslice_alphabet _ c back
    · exact fmtSubslice_alphabet _ c member

theorem SocketAddr.display_alphabet (address : SocketAddr) : ∀ c ∈ address.display, isAddressChar c = true := by
  have close : ∀ c ∈ "]:".toList, isAddressChar c = true := List.all_eq_true.mp (by decide)
  intro c member
  cases address with
  | v4 ip port =>
    rcases List.mem_append.mp member with host | digit
    · exact ip.display_alphabet c host
    · rcases List.mem_cons.mp digit with rfl | digit
      · decide
      · exact decimal_alphabet _ c digit
  | v6 ip port flowinfo scopeId =>
    simp only [SocketAddr.display] at member
    split at member
    · simp only [List.mem_append, List.mem_cons] at member
      rcases member with ((rfl | host) | punctuation) | digit
      · decide
      · exact ip.display_alphabet c host
      · exact close c punctuation
      · exact decimal_alphabet _ c digit
    · simp only [List.mem_append, List.mem_cons] at member
      rcases member with (((rfl | host) | rfl | scope) | punctuation) | digit
      · decide
      · exact ip.display_alphabet c host
      · decide
      · exact decimal_alphabet _ c scope
      · exact close c punctuation
      · exact decimal_alphabet _ c digit

end Alphabet

end Net
