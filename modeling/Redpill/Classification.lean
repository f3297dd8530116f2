/-
What the classifier computes, in terms of header fields, against what it is
for: DNS in both directions, small UDP packets and DSCP EF are realtime.  A
padded session classifies a packet a second time after padding it.
-/
import Redpill.PaddingCodec
import Redpill.Priority

namespace Redpill

open ByteStream

/-- The byte at an offset, 0 beyond the end. -/
def byteAt (packet : Bytes) (i : Nat) : UInt8 := packet.getD i 0

/-- The two-byte field at an offset. -/
def u16At (packet : Bytes) (i : Nat) : Nat :=
  u16FromBeBytes (byteAt packet i) (byteAt packet (i + 1))

/-- Header length of an IPv4 packet in bytes. -/
def headerLen (packet : Bytes) : Nat := (byteAt packet 0 &&& 0x0F).toNat * 4

def dscp (packet : Bytes) : UInt8 := byteAt packet 1 >>> 2

def isUdp (packet : Bytes) : Prop := byteAt packet 9 = 17

def srcPort (packet : Bytes) : Nat := u16At packet (headerLen packet)

def dstPort (packet : Bytes) : Nat := u16At packet (headerLen packet + 2)

instance (packet : Bytes) : Decidable (isUdp packet) :=
  inferInstanceAs (Decidable (_ = _))

/-- An unfragmented IPv4 packet with its whole header, and with a UDP header
if it is UDP: no more-fragments bit and no fragment offset. -/
structure Ipv4Datagram (packet : Bytes) : Prop where
  version : versionNibble packet = 4
  ihl : 20 ≤ headerLen packet
  total : u16At packet 2 = packet.length
  unfragmented : u16At packet 6 % 0x4000 = 0
  header : headerLen packet ≤ packet.length
  udp : isUdp packet → headerLen packet + 8 ≤ packet.length

/-- What the classifier is for: DSCP EF, and UDP that is small or has port 53
at either end. -/
def IsRealtime (packet : Bytes) : Prop :=
  dscp packet = 46 ∨ isUdp packet ∧
    (packet.length < 300 ∨ srcPort packet = 53 ∨ dstPort packet = 53)

/-- A large DNS answer: UDP of at least 300 bytes from port 53 to another
port, without DSCP EF. -/
def LargeDnsAnswer (packet : Bytes) : Prop :=
  dscp packet ≠ 46 ∧ isUdp packet ∧ 300 ≤ packet.length ∧
    srcPort packet = 53 ∧ dstPort packet ≠ 53

/-- `classify` with every access checked: `none` is an access out of range. -/
def classifyChecked (packet : Bytes) : Option Priority :=
  if packet.length < 20 then some .bulk
  else do
    let first ← index packet 0
    if first >>> 4 ≠ 4 then some .bulk
    else
      let tos ← index packet 1
      if tos >>> 2 = 46 then some .realtime
      else
        let protocol ← index packet 9
        if protocol ≠ 17 then some .bulk
        else
          let ihl := (first &&& 0x0F).toNat * 4
          if packet.length < ihl + 4 then some .bulk
          else
            let high ← index packet (ihl + 2)
            let low ← index packet (ihl + 3)
            if u16FromBeBytes high low = 53 then some .realtime
            else if packet.length < 300 then some .realtime
            else some .bulk

/-- No access of `classify` is out of range, whatever the bytes are. -/
theorem classifyChecked_eq (packet : Bytes) :
    classifyChecked packet = some (classify packet) := by
  unfold classifyChecked classify
  by_cases hlen : packet.length < 20
  · rw [if_pos hlen, dif_pos hlen]
  · rw [if_neg hlen, dif_neg hlen]
    simp only [index_eq_some (show 0 < packet.length by omega),
      index_eq_some (show 1 < packet.length by omega),
      index_eq_some (show 9 < packet.length by omega),
      Option.bind_eq_bind, Option.bind_some]
    split
    · rfl
    · split
      · rfl
      · split
        · rfl
        · by_cases hports :
              packet.length < (packet[0] &&& 0x0F).toNat * 4 + 4
          · rw [if_pos hports, dif_pos hports]
          · rw [if_neg hports, dif_neg hports, index_eq_some (by omega),
              index_eq_some (by omega)]
            simp only [Option.bind_some]
            split
            · rfl
            · split <;> rfl

theorem byteAt_eq {packet : Bytes} {i : Nat} (hi : i < packet.length) :
    byteAt packet i = packet[i] := by
  rw [byteAt, List.getD_eq_getElem?_getD, List.getElem?_eq_getElem hi]
  rfl

theorem versionNibble_eq {packet : Bytes} (hlen : 0 < packet.length) :
    versionNibble packet = packet[0] >>> 4 := by
  cases packet with
  | nil => simp at hlen
  | cons head tail => rfl

/-- What `classify` computes for an IPv4 packet of at least 20 bytes. -/
theorem classify_eq_realtime_iff {packet : Bytes} (hlen : 20 ≤ packet.length)
    (h4 : versionNibble packet = 4) :
    classify packet = .realtime ↔
      dscp packet = 46 ∨ isUdp packet ∧
        headerLen packet + 4 ≤ packet.length ∧
        (dstPort packet = 53 ∨ packet.length < 300) := by
  rw [versionNibble_eq (by omega)] at h4
  unfold classify dscp isUdp dstPort u16At headerLen
  rw [dif_neg (by omega), if_neg (by rw [h4]; decide),
    byteAt_eq (show 0 < packet.length by omega),
    byteAt_eq (show 1 < packet.length by omega),
    byteAt_eq (show 9 < packet.length by omega)]
  by_cases hdscp : packet[1] >>> 2 = 46
  · simp [hdscp]
  · by_cases hudp : packet[9] = 17
    · rw [if_neg hdscp, if_neg (not_not.mpr hudp)]
      simp only [hdscp, hudp, false_or, true_and]
      by_cases hports : packet.length < (packet[0] &&& 0x0F).toNat * 4 + 4
      · rw [dif_pos hports]
        exact ⟨fun h => absurd h (by decide), fun h => by omega⟩
      · have hle : (packet[0] &&& 0x0F).toNat * 4 + 4 ≤ packet.length := by
          omega
        rw [dif_neg hports, byteAt_eq (by omega), byteAt_eq (by omega)]
        simp only [hle, true_and]
        split
        · rename_i hdns
          exact ⟨fun _ => Or.inl hdns, fun _ => rfl⟩
        · rename_i hdns
          split
          · rename_i hsmall
            exact ⟨fun _ => Or.inr hsmall, fun _ => rfl⟩
          · rename_i hlarge
            exact ⟨fun h => absurd h (by decide),
              fun h => absurd h (not_or.mpr ⟨hdns, hlarge⟩)⟩
    · simp [hdscp, hudp]

/-- The classifier tells realtime from bulk as intended on an unfragmented IPv4
packet exactly when the packet is not a large DNS answer. -/
theorem classify_intended_iff {packet : Bytes}
    (hpacket : Ipv4Datagram packet) :
    (classify packet = .realtime ↔ IsRealtime packet) ↔
      ¬ LargeDnsAnswer packet := by
  have hheader := hpacket.header
  have hihl := hpacket.ihl
  have hudp := hpacket.udp
  rw [classify_eq_realtime_iff (by omega) hpacket.version]
  unfold IsRealtime LargeDnsAnswer
  by_cases hdscp : dscp packet = 46
  · simp [hdscp]
  · by_cases hproto : isUdp packet
    · have hports : headerLen packet + 4 ≤ packet.length := by
        have := hudp hproto
        omega
      by_cases hsmall : packet.length < 300
      · simp [hdscp, hproto, hports, hsmall, Nat.not_le.mpr hsmall]
      · have hlarge : 300 ≤ packet.length := by omega
        by_cases hdns : dstPort packet = 53
        · simp [hdscp, hproto, hports, hdns]
        · simp [hdscp, hproto, hports, hdns, hsmall, hlarge]
    · simp [hdscp, hproto]

/-- The classifier never reads out of range, whatever the data is, and on an
IPv4 datagram it misses its purpose exactly if that is a large DNS answer. -/
theorem classify_meets_iff (data : Bytes) :
    classifyChecked data = some (classify data) ∧
      (Ipv4Datagram data →
        ((classify data = .realtime ↔ IsRealtime data) ↔
          ¬ LargeDnsAnswer data)) :=
  ⟨classifyChecked_eq data, classify_intended_iff⟩

/-- A DNS request of 300 bytes, from port 12345 to port 53. -/
def largeDnsRequest : Bytes :=
  [0x45, 0, 1, 44, 0, 0, 0, 0, 64, 17, 0, 0, 10, 0, 0, 2, 1, 1, 1, 1] ++
    [48, 57, 0, 53, 1, 24, 0, 0] ++ List.replicate 272 0

theorem ipv4Datagram_largeDnsRequest : Ipv4Datagram largeDnsRequest where
  version := by decide
  ihl := by decide
  total := by decide +kernel
  unfragmented := by decide
  header := by decide +kernel
  udp := by decide +kernel

theorem classify_meets_iff_largeDnsRequest :
    classify largeDnsRequest = .realtime ↔ IsRealtime largeDnsRequest := by
  have hnot : ¬ LargeDnsAnswer largeDnsRequest := fun hanswer =>
    hanswer.2.2.2.2 (by decide)
  exact ((classify_meets_iff largeDnsRequest).2
    ipv4Datagram_largeDnsRequest).mpr hnot

/-- A DNS answer of 300 bytes, from port 53 to port 12345. -/
def largeDnsAnswer : Bytes :=
  [0x45, 0, 1, 44, 0, 0, 0, 0, 64, 17, 0, 0, 1, 1, 1, 1, 10, 0, 0, 2] ++
    [0, 53, 48, 57, 1, 24, 0, 0] ++ List.replicate 272 0

theorem ipv4Datagram_largeDnsAnswer : Ipv4Datagram largeDnsAnswer where
  version := by decide
  ihl := by decide
  total := by decide +kernel
  unfragmented := by decide
  header := by decide +kernel
  udp := by decide +kernel

/-- The answer is DNS and is classified as bulk. -/
theorem classify_misses_dns_answer :
    ¬ ∀ packet : Bytes, Ipv4Datagram packet →
      (classify packet = .realtime ↔ IsRealtime packet) := by
  intro hall
  have hiff := hall largeDnsAnswer ipv4Datagram_largeDnsAnswer
  have hrealtime : IsRealtime largeDnsAnswer :=
    Or.inr ⟨by decide, Or.inr (Or.inl (by decide))⟩
  have hbulk : classify largeDnsAnswer = .bulk := by decide +kernel
  rw [hbulk] at hiff
  exact absurd (hiff.mpr hrealtime) (by decide)

/-- The class that the sending loop reads off a packet: the packet is padded
before, if the session pads. -/
def sendClass (padded : Bool) (packet : Bytes) : Priority :=
  classify (camouflagedSend padded packet)

theorem byteAt_of_extension {packet padded : Bytes} {i : Nat}
    (hext : packet <+: padded) (hi : i < packet.length) :
    byteAt padded i = byteAt packet i := by
  have hle := hext.length_le
  rw [byteAt_eq hi, byteAt_eq (by omega)]
  exact (hext.getElem hi).symm

theorem headerLen_le (packet : Bytes) : headerLen packet ≤ 60 := by
  have hmask : (byteAt packet 0).toNat &&& 15 = (byteAt packet 0).toNat % 16 :=
    Nat.and_two_pow_sub_one_eq_mod (byteAt packet 0).toNat 4
  rw [headerLen, UInt8.toNat_and]
  have hmask' : (byteAt packet 0).toNat &&& (0x0F : UInt8).toNat =
      (byteAt packet 0).toNat % 16 := hmask
  rw [hmask']
  omega

/-- A padded packet has at least 128 bytes, and it has fewer than 300 only if
the packet has at most 256. -/
theorem paddingTarget_lt_iff (len : Nat) :
    (paddingTarget len < 300 ↔ len ≤ 256) ∧ 128 ≤ paddingTarget len := by
  have hle := le_paddingTarget len
  by_cases hlen : len ≤ 1400
  · obtain ⟨hmem, _, hleast⟩ := smallestStandard_paddingTarget hlen
    have hgap : ∀ size ∈ standardSizes, (size < 300 → size ≤ 256) ∧
        128 ≤ size := by decide
    have htarget := hgap _ hmem
    refine ⟨⟨?_, ?_⟩, htarget.2⟩
    · intro hsmall
      have := htarget.1 hsmall
      omega
    · intro hsmall
      have := hleast 256 (by decide) hsmall
      omega
  · omega

theorem classify_eq_classify_iff (first second : Bytes) :
    classify first = classify second ↔
      (classify first = .realtime ↔ classify second = .realtime) := by
  cases classify first <;> cases classify second <;> simp

/-- The class of a padded packet.  Padding keeps the header fields, gives a
short packet ports and leaves only packets of up to 256 bytes small. -/
theorem classify_padToStandard_iff {packet : Bytes}
    (hlen : 20 ≤ packet.length) (h4 : versionNibble packet = 4) :
    classify (padToStandard packet) = .realtime ↔
      dscp packet = 46 ∨ isUdp packet ∧
        (headerLen packet + 4 ≤ packet.length ∧ dstPort packet = 53 ∨
          packet.length ≤ 256) := by
  have hext := padToStandard_extends packet
  have hne : packet ≠ [] := by
    rintro rfl
    simp at hlen
  have hlength := padToStandard_length packet
  obtain ⟨hsmall, hmin⟩ := paddingTarget_lt_iff packet.length
  have hheader : headerLen (padToStandard packet) = headerLen packet := by
    rw [headerLen, headerLen, byteAt_of_extension hext (by omega)]
  have hbound := headerLen_le packet
  rw [classify_eq_realtime_iff (by have := hext.length_le; omega)
    ((versionNibble_of_extension hne hext).trans h4)]
  unfold dscp isUdp dstPort u16At
  rw [hheader, hlength, hsmall, byteAt_of_extension hext (by omega),
    byteAt_of_extension hext (by omega)]
  have hroom : headerLen packet + 4 ≤ paddingTarget packet.length := by omega
  by_cases hports : headerLen packet + 4 ≤ packet.length
  · rw [byteAt_of_extension hext (by omega),
      byteAt_of_extension hext (by omega)]
    simp only [hroom, hports, true_and]
  · have h256 : packet.length ≤ 256 := by omega
    simp only [hroom, h256, or_true, and_true]

/-- The router and the sending loop agree on the class of a packet exactly
when the session does not pad, or the class does not depend on the length and
the ports, or the ports are inside the packet and padding does not take it
over the 300 bytes of a small packet. -/
theorem sendClass_eq_iff (padded : Bool) {packet : Bytes}
    (hlen : 20 ≤ packet.length) (h4 : versionNibble packet = 4) :
    classify packet = sendClass padded packet ↔
      padded = false ∨ dscp packet = 46 ∨ ¬ isUdp packet ∨
        headerLen packet + 4 ≤ packet.length ∧
          (dstPort packet = 53 ∨ packet.length ≤ 256 ∨
            300 ≤ packet.length) := by
  cases padded with
  | false => simp [sendClass, camouflagedSend]
  | true =>
      have hbound := headerLen_le packet
      rw [sendClass, camouflagedSend, if_pos rfl, classify_eq_classify_iff,
        classify_padToStandard_iff hlen h4, classify_eq_realtime_iff hlen h4]
      by_cases hdscp : dscp packet = 46
      · simp [hdscp]
      · by_cases hudp : isUdp packet
        · by_cases hports : headerLen packet + 4 ≤ packet.length
          · by_cases hdns : dstPort packet = 53
            · simp [hdscp, hudp, hports, hdns]
            · simp only [hdscp, hudp, hports, hdns, true_and, false_or,
                Bool.true_eq_false, not_true_eq_false, and_false]
              omega
          · have h256 : packet.length ≤ 256 := by omega
            simp [hdscp, hudp, hports, h256]
        · simp [hdscp, hudp]

theorem sendClass_eq_iff_largeDnsAnswer :
    classify largeDnsAnswer = sendClass true largeDnsAnswer :=
  (sendClass_eq_iff true (by decide +kernel) (by decide)).mpr
    (Or.inr (Or.inr (Or.inr ⟨by decide +kernel,
      Or.inr (Or.inr (by decide +kernel))⟩)))

/-- A UDP packet of 280 bytes, from port 4000 to port 5000. -/
def gamePacket : Bytes :=
  [0x45, 0, 1, 24, 0, 0, 0, 0, 64, 17, 0, 0, 1, 1, 1, 1, 10, 0, 0, 2] ++
    [15, 160, 19, 136, 1, 4, 0, 0] ++ List.replicate 252 0

/-- Padded to 512 bytes, the packet of the realtime lane is sent as bulk. -/
theorem sendClass_changes_gamePacket :
    ¬ ∀ (padded : Bool) (packet : Bytes), 20 ≤ packet.length →
      versionNibble packet = 4 → u16At packet 2 = packet.length →
      classify packet = sendClass padded packet := by
  intro hall
  have hsame := hall true gamePacket (by decide +kernel) (by decide)
    (by decide +kernel)
  exact absurd hsame (by decide +kernel)

end Redpill
