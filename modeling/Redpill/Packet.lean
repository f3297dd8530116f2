/-
IPv4 addresses and the header tests of `datagram.rs`.  Packets are raw IP
packets; the version is the high nibble of the first byte.
-/
import Redpill.ByteStream

namespace Redpill

open ByteStream

structure Ipv4Addr where
  a : UInt8
  b : UInt8
  c : UInt8
  d : UInt8
deriving Repr, DecidableEq

def Ipv4Addr.octets (ip : Ipv4Addr) : Bytes := [ip.a, ip.b, ip.c, ip.d]

/-- IP version of a packet: 4, 6, or nothing if invalid. -/
def ipVersion (packet : List UInt8) : Option Nat :=
  if h : packet.length = 0 then none
  else if packet[0] >>> 4 = 4 then some 4
  else if packet[0] >>> 4 = 6 then some 6
  else none

/-- The source address must be the expected one.  IPv6 packets are not
checked, since there is no pool of IPv6 addresses. -/
def validateSourceIp (packet : Bytes) (expectedIp : Ipv4Addr) : Bool :=
  match ipVersion packet with
  | some 4 =>
      if h : packet.length < 20 then false
      else
        let src : Ipv4Addr := ⟨packet[12], packet[13], packet[14], packet[15]⟩
        decide (src = expectedIp)
  | some 6 => true
  | _ => false

/-- Destination address of an IPv4 packet of at least 20 bytes. -/
def extractDstIpv4 (packet : List UInt8) : Option Ipv4Addr :=
  if h : packet.length < 20 then none
  else if packet[0] >>> 4 ≠ 4 then none
  else some ⟨packet[16], packet[17], packet[18], packet[19]⟩

/-- What `writeToTun` hands to the device: an empty packet is not written. -/
def writeToTun (packet : Bytes) : Option Bytes :=
  if packet = [] then none else some packet

/-- The version nibble of a packet, 0 for the empty one. -/
def versionNibble (packet : Bytes) : UInt8 :=
  packet.headD 0 >>> 4

/-- An IPv4 packet of at least 20 bytes whose bytes 12..16 are `ip`. -/
def HasIpv4Source (packet : Bytes) (ip : Ipv4Addr) : Prop :=
  versionNibble packet = 4 ∧ 20 ≤ packet.length ∧
    (packet.drop 12).take 4 = ip.octets

instance (packet : Bytes) (ip : Ipv4Addr) :
    Decidable (HasIpv4Source packet ip) :=
  inferInstanceAs (Decidable (_ ∧ _ ∧ _))

theorem Ipv4Addr.mk_eq_iff {a b c d : UInt8} {ip : Ipv4Addr} :
    (⟨a, b, c, d⟩ : Ipv4Addr) = ip ↔ [a, b, c, d] = ip.octets := by
  cases ip
  simp [Ipv4Addr.octets]

theorem ipVersion_cons (head : UInt8) (tail : Bytes) :
    ipVersion (head :: tail) =
      if head >>> 4 = 4 then some 4
      else if head >>> 4 = 6 then some 6 else none := by
  simp [ipVersion]

theorem ipVersion_eq_four {packet : Bytes} :
    ipVersion packet = some 4 ↔ packet ≠ [] ∧ versionNibble packet = 4 := by
  cases packet with
  | nil => simp [ipVersion]
  | cons head tail =>
      rw [ipVersion_cons]
      by_cases h4 : head >>> 4 = 4
      · simp [versionNibble, h4]
      · by_cases h6 : head >>> 4 = 6 <;> simp [versionNibble, h4, h6]

theorem ipVersion_eq_six {packet : Bytes} :
    ipVersion packet = some 6 ↔ versionNibble packet = 6 := by
  cases packet with
  | nil => simp [ipVersion, versionNibble]
  | cons head tail =>
      rw [ipVersion_cons]
      by_cases h4 : head >>> 4 = 4
      · simp [versionNibble, h4]
      · by_cases h6 : head >>> 4 = 6 <;> simp [versionNibble, h4, h6]

theorem drop_take_four {packet : Bytes} {start : Nat}
    (h : start + 4 ≤ packet.length) :
    (packet.drop start).take 4 =
      [packet[start], packet[start + 1], packet[start + 2],
        packet[start + 3]] := by
  rw [List.drop_eq_getElem_cons (by omega),
    List.drop_eq_getElem_cons (by omega),
    List.drop_eq_getElem_cons (by omega),
    List.drop_eq_getElem_cons (by omega)]
  rfl

/-- The source check accepts exactly the IPv6 packets and the IPv4 packets of
at least 20 bytes that carry the expected address. -/
theorem validateSourceIp_iff {packet : Bytes} {ip : Ipv4Addr} :
    validateSourceIp packet ip = true ↔
      versionNibble packet = 6 ∨ HasIpv4Source packet ip := by
  rw [← ipVersion_eq_six]
  unfold validateSourceIp HasIpv4Source
  split
  · rename_i hfour
    obtain ⟨_, hnibble⟩ := ipVersion_eq_four.mp hfour
    by_cases hlen : packet.length < 20
    · have hnot : ¬ 20 ≤ packet.length := Nat.not_le.mpr hlen
      simp [hlen, hfour, hnot]
    · have hle : 20 ≤ packet.length := by omega
      rw [drop_take_four (by omega)]
      simp [hlen, hle, hfour, hnibble, Ipv4Addr.mk_eq_iff]
  · rename_i hsix
    simp [hsix]
  · rename_i hfour hsix
    have hnibble : versionNibble packet = 4 → packet.length < 20 := by
      intro hnibble
      by_contra hlen
      have hne : packet ≠ [] := by
        rintro rfl
        simp at hlen
      exact hfour (ipVersion_eq_four.mpr ⟨hne, hnibble⟩)
    simp only [Bool.false_eq_true, false_iff, not_or, not_and]
    refine ⟨hsix, fun h4 hlen => ?_⟩
    have := hnibble h4
    omega

theorem extractDstIpv4_eq_some {packet : Bytes} {ip : Ipv4Addr} :
    extractDstIpv4 packet = some ip ↔
      20 ≤ packet.length ∧ versionNibble packet = 4 ∧
        (packet.drop 16).take 4 = ip.octets := by
  by_cases hlen : packet.length < 20
  · simp only [extractDstIpv4, hlen, dite_true, reduceCtorEq, false_iff, not_and]
    omega
  · obtain ⟨head, tail, rfl⟩ : ∃ head tail, packet = head :: tail := by
      cases packet with
      | nil => simp at hlen
      | cons head tail => exact ⟨head, tail, rfl⟩
    have hlen' : 20 ≤ (head :: tail).length := by omega
    rw [drop_take_four (by omega)]
    simp only [extractDstIpv4, hlen, dite_false, versionNibble, hlen', true_and]
    by_cases h4 : head >>> 4 = 4
    · simp [h4, Ipv4Addr.mk_eq_iff]
    · simp [h4]

theorem ne_nil_of_validateSourceIp {packet : Bytes} {ip : Ipv4Addr}
    (h : validateSourceIp packet ip = true) : packet ≠ [] := by
  rintro rfl
  simp [validateSourceIp, ipVersion] at h

end Redpill
