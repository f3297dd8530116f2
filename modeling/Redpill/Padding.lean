/-
Packet size normalization (`padding.rs`) and the camouflaged transport that
applies it.  Padding is appended after the packet; the receiver recovers the
packet from the length field of its own IP header.
-/
import Redpill.Packet

namespace Redpill

open ByteStream

def standardSizes : List Nat := [128, 256, 512, 1024, 1200, 1400]

/-- The smallest standard size that fits, or the length itself above them. -/
def paddingTarget (len : Nat) : Nat :=
  (standardSizes.find? fun size => decide (len ≤ size)).getD len

/-- Pad a packet with zeros to the next standard size. -/
def padToStandard (data : Bytes) : Bytes :=
  data ++ List.replicate (paddingTarget data.length - data.length) 0

/-- Cut a received packet to the length its header announces, unless that
length is zero or more than what was received. -/
def cutToRealLen (data : Bytes) (realLen : Nat) : Bytes :=
  if 0 < realLen ∧ realLen ≤ data.length then data.take realLen else data

/-- Strip padding using the IP header: IPv4 total length in bytes 2-3, IPv6
payload length in bytes 4-5.  Data that is not IP is returned unchanged. -/
def stripPadding (data : Bytes) : Bytes :=
  if h0 : data.length = 0 then data
  else if h4 : data[0] >>> 4 = 4 ∧ 4 ≤ data.length then
    cutToRealLen data (u16FromBeBytes data[2] data[3])
  else if h6 : data[0] >>> 4 = 6 ∧ 6 ≤ data.length then
    cutToRealLen data (u16FromBeBytes data[4] data[5] + 40)
  else data

/-- Parameters of the idle padding generator. -/
structure IdlePadder where
  intervalMs : Nat
  minSize : Nat
  maxSize : Nat

/-- The padder that the client's idle task creates. -/
def clientIdlePadder : IdlePadder := ⟨500, 64, 256⟩

/-- One idle packet from the random bytes that fill its buffer: the version
nibble of the first byte is cleared. -/
def IdlePadder.generate (random : Bytes) : Bytes :=
  match random with
  | [] => []
  | head :: tail => (head &&& 0x0F) :: tail

/-- A packet the padder can produce. -/
def IdlePadder.Produces (padder : IdlePadder) (packet : Bytes) : Prop :=
  ∃ random : Bytes, padder.minSize ≤ random.length ∧
    random.length ≤ padder.maxSize ∧ packet = IdlePadder.generate random

/-- The bytes that `QuicCamouflagedTransport::send` passes to the raw
transport. -/
def camouflagedSend (paddingEnabled : Bool) (data : Bytes) : Bytes :=
  if paddingEnabled then padToStandard data else data

/-- The bytes that `QuicCamouflagedTransport::recv` returns for a datagram. -/
def camouflagedRecv (paddingEnabled : Bool) (data : Bytes) : Bytes :=
  if paddingEnabled then stripPadding data else data

/-- An IPv4 packet of at least 20 bytes whose total length is its length. -/
def WellFormedIpv4 (packet : Bytes) : Prop :=
  versionNibble packet = 4 ∧ 20 ≤ packet.length ∧
    (packet.drop 2).take 2 = u16ToBeBytes packet.length ∧
    packet.length < 65536

/-- An IPv6 packet whose payload length and fixed header make its length. -/
def WellFormedIpv6 (packet : Bytes) : Prop :=
  versionNibble packet = 6 ∧ ∃ payload < 65536,
    packet.length = payload + 40 ∧
    (packet.drop 4).take 2 = u16ToBeBytes payload

instance (packet : Bytes) : Decidable (WellFormedIpv4 packet) :=
  inferInstanceAs (Decidable (_ ∧ _ ∧ _ ∧ _))

theorem le_paddingTarget (len : Nat) : len ≤ paddingTarget len := by
  unfold paddingTarget
  cases hfind : standardSizes.find? fun size => decide (len ≤ size) with
  | none => exact Nat.le_refl len
  | some size =>
      have hle := List.find?_some hfind
      simpa using hle

theorem padToStandard_length (data : Bytes) :
    (padToStandard data).length = paddingTarget data.length := by
  have hle := le_paddingTarget data.length
  simp only [padToStandard, List.length_append, List.length_replicate]
  omega

theorem padToStandard_extends (data : Bytes) :
    data <+: padToStandard data :=
  List.prefix_append _ _

theorem versionNibble_of_extension {data padded : Bytes} (hne : data ≠ [])
    (hext : data <+: padded) : versionNibble padded = versionNibble data := by
  obtain ⟨tail, rfl⟩ := hext
  cases data with
  | nil => exact absurd rfl hne
  | cons head rest => rfl

@[simp] theorem camouflagedSend_extends (paddingEnabled : Bool) (data : Bytes) :
    data <+: camouflagedSend paddingEnabled data := by
  cases paddingEnabled
  · exact List.prefix_rfl
  · exact padToStandard_extends data

theorem cutToRealLen_of_extension {data padded : Bytes} (hpos : data ≠ [])
    (hext : data <+: padded) : cutToRealLen padded data.length = data := by
  have hlen : 0 < data.length := List.length_pos_iff.mpr hpos
  rw [cutToRealLen, if_pos ⟨hlen, hext.length_le⟩]
  exact (List.prefix_iff_eq_take.mp hext).symm

theorem drop_take_two {packet : List UInt8} {start : Nat}
    (h : start + 2 ≤ packet.length) :
    (packet.drop start).take 2 = [packet[start], packet[start + 1]] := by
  rw [List.drop_eq_getElem_cons (by omega),
    List.drop_eq_getElem_cons (by omega)]
  rfl

/-- A two-byte field of a packet is read unchanged from any extension. -/
theorem u16_of_field {packet padded : Bytes} {start value : Nat}
    (hext : packet <+: padded) (hstart : start + 2 ≤ packet.length)
    (hfield : (packet.drop start).take 2 = u16ToBeBytes value)
    (hvalue : value < 65536) (h0 : start < padded.length)
    (h1 : start + 1 < padded.length) :
    u16FromBeBytes padded[start] padded[start + 1] = value := by
  obtain ⟨tail, rfl⟩ := hext
  rw [drop_take_two hstart, u16ToBeBytes] at hfield
  rw [List.getElem_append_left (by omega), List.getElem_append_left (by omega)]
  simp only [List.cons.injEq, and_true] at hfield
  rw [hfield.1, hfield.2]
  exact u16FromBeBytes_ofNat hvalue

theorem stripPadding_of_nibble_four {data : List UInt8}
    (h4 : versionNibble data = 4) (hlen : 4 ≤ data.length) :
    stripPadding data = cutToRealLen data (u16FromBeBytes data[2] data[3]) := by
  cases data with
  | nil => simp at hlen
  | cons head tail =>
      have hhead : head >>> 4 = 4 := h4
      have hlen' : 3 ≤ tail.length := by simpa using hlen
      simp [stripPadding, hhead, hlen']

theorem stripPadding_of_nibble_six {data : List UInt8}
    (h6 : versionNibble data = 6) (hlen : 6 ≤ data.length) :
    stripPadding data =
      cutToRealLen data (u16FromBeBytes data[4] data[5] + 40) := by
  cases data with
  | nil => simp at hlen
  | cons head tail =>
      have hhead : head >>> 4 = 6 := h6
      have hlen' : 5 ≤ tail.length := by simpa using hlen
      simp [stripPadding, hhead, hlen']

/-- Data whose version nibble is neither 4 nor 6 passes through unchanged. -/
theorem stripPadding_of_not_ip {data : Bytes} (h4 : versionNibble data ≠ 4)
    (h6 : versionNibble data ≠ 6) : stripPadding data = data := by
  cases data with
  | nil => rfl
  | cons head tail =>
      have h4' : head >>> 4 ≠ 4 := h4
      have h6' : head >>> 4 ≠ 6 := h6
      simp [stripPadding, h4', h6']

/-- An IPv4 packet of any length from 4 on is recovered from itself with
anything appended. -/
theorem stripPadding_of_total_length {packet padded : List UInt8}
    (hlen : 4 ≤ packet.length) (h4 : versionNibble packet = 4)
    (htotal : u16FromBeBytes packet[2] packet[3] = packet.length)
    (hext : packet <+: padded) : stripPadding padded = packet := by
  have hne : packet ≠ [] := by
    rintro rfl
    simp at hlen
  have hle := hext.length_le
  rw [stripPadding_of_nibble_four
    ((versionNibble_of_extension hne hext).trans h4) (by omega)]
  rw [← hext.getElem (by omega), ← hext.getElem (by omega), htotal]
  exact cutToRealLen_of_extension hne hext

/-- The same for an IPv6 packet whose payload length and fixed header make its
length. -/
theorem stripPadding_of_payload_length {packet padded : List UInt8}
    (hlen : 6 ≤ packet.length) (h6 : versionNibble packet = 6)
    (htotal : u16FromBeBytes packet[4] packet[5] + 40 = packet.length)
    (hext : packet <+: padded) : stripPadding padded = packet := by
  have hne : packet ≠ [] := by
    rintro rfl
    simp at hlen
  have hle := hext.length_le
  rw [stripPadding_of_nibble_six
    ((versionNibble_of_extension hne hext).trans h6) (by omega)]
  rw [← hext.getElem (by omega), ← hext.getElem (by omega), htotal]
  exact cutToRealLen_of_extension hne hext

/-- An IPv4 packet is recovered from itself with anything appended. -/
theorem stripPadding_of_ipv4 {packet padded : Bytes}
    (hpacket : WellFormedIpv4 packet) (hext : packet <+: padded) :
    stripPadding padded = packet := by
  obtain ⟨h4, hlen, hfield, hmax⟩ := hpacket
  apply stripPadding_of_total_length (by omega) h4 _ hext
  exact u16_of_field List.prefix_rfl (by omega) hfield hmax (by omega)
    (by omega)

/-- An IPv6 packet is recovered from itself with anything appended. -/
theorem stripPadding_of_ipv6 {packet padded : Bytes}
    (hpacket : WellFormedIpv6 packet) (hext : packet <+: padded) :
    stripPadding padded = packet := by
  obtain ⟨h6, payload, hmax, hlen, hfield⟩ := hpacket
  apply stripPadding_of_payload_length (by omega) h6 _ hext
  rw [u16_of_field List.prefix_rfl (by omega) hfield hmax, hlen]

/-- Clearing the high nibble leaves version 0. -/
theorem and_0x0F_shiftRight (b : UInt8) : (b &&& 0x0F) >>> 4 = 0 := by
  have hmask : b.toNat &&& 15 = b.toNat % 16 :=
    Nat.and_two_pow_sub_one_eq_mod b.toNat 4
  rw [← UInt8.toNat_inj]
  simp [hmask, Nat.shiftRight_eq_div_pow]

theorem IdlePadder.versionNibble_generate (random : Bytes) :
    versionNibble (IdlePadder.generate random) = 0 := by
  cases random with
  | nil => rfl
  | cons head tail => exact and_0x0F_shiftRight head

end Redpill
