/-
The padding codec: a packet whose header tells its length survives padding,
stripping is a safe idempotent cut of any bytes, and padding hides a length
within its standard size.
-/
import Redpill.Padding

namespace Redpill

open ByteStream

/-- `cutToRealLen` with its slice checked. -/
def cutToRealLenChecked (data : Bytes) (realLen : Nat) : Option Bytes :=
  if 0 < realLen ∧ realLen ≤ data.length then slice data 0 realLen
  else some data

/-- `stripPadding` with every access checked: `none` is an access out of
range. -/
def stripPaddingChecked (data : Bytes) : Option Bytes :=
  if data.length = 0 then some data
  else do
    let first ← index data 0
    if first >>> 4 = 4 ∧ 4 ≤ data.length then
      let high ← index data 2
      let low ← index data 3
      cutToRealLenChecked data (u16FromBeBytes high low)
    else if first >>> 4 = 6 ∧ 6 ≤ data.length then
      let high ← index data 4
      let low ← index data 5
      cutToRealLenChecked data (u16FromBeBytes high low + 40)
    else some data

/-- The smallest standard size that is not below a length. -/
def SmallestStandard (len size : Nat) : Prop :=
  size ∈ standardSizes ∧ len ≤ size ∧
    ∀ other ∈ standardSizes, len ≤ other → size ≤ other

theorem cutToRealLenChecked_eq (data : Bytes) (realLen : Nat) :
    cutToRealLenChecked data realLen = some (cutToRealLen data realLen) := by
  rw [cutToRealLenChecked, cutToRealLen]
  by_cases hcut : 0 < realLen ∧ realLen ≤ data.length
  · rw [if_pos hcut, if_pos hcut, slice_eq_some (Nat.zero_le _) hcut.2]
    rfl
  · rw [if_neg hcut, if_neg hcut]

/-- No access of `stripPadding` is out of range. -/
theorem stripPaddingChecked_eq (data : Bytes) :
    stripPaddingChecked data = some (stripPadding data) := by
  unfold stripPaddingChecked stripPadding
  by_cases hempty : data.length = 0
  · rw [if_pos hempty, dif_pos hempty]
  · rw [if_neg hempty, dif_neg hempty, index_eq_some (by omega)]
    simp only [Option.bind_eq_bind, Option.bind_some]
    by_cases h4 : data[0] >>> 4 = 4 ∧ 4 ≤ data.length
    · have hlen := h4.2
      rw [if_pos h4, dif_pos h4, index_eq_some (by omega),
        index_eq_some (by omega)]
      exact cutToRealLenChecked_eq data _
    · rw [if_neg h4, dif_neg h4]
      by_cases h6 : data[0] >>> 4 = 6 ∧ 6 ≤ data.length
      · have hlen := h6.2
        rw [if_pos h6, dif_pos h6, index_eq_some (by omega),
          index_eq_some (by omega)]
        exact cutToRealLenChecked_eq data _
      · rw [if_neg h6, dif_neg h6]

/-- What stripping may do: leave the data alone, or cut it to the length that
its IPv4 or its IPv6 header announces. -/
theorem stripPadding_cases (data : Bytes) :
    stripPadding data = data ∨
    (∃ (_ : 4 ≤ data.length) (realLen : Nat), versionNibble data = 4 ∧
      u16FromBeBytes data[2] data[3] = realLen ∧ realLen ≤ data.length ∧
      stripPadding data = data.take realLen) ∨
    ∃ (_ : 6 ≤ data.length) (realLen : Nat), versionNibble data = 6 ∧
      u16FromBeBytes data[4] data[5] + 40 = realLen ∧
      realLen ≤ data.length ∧ stripPadding data = data.take realLen := by
  by_cases h4 : versionNibble data = 4 ∧ 4 ≤ data.length
  · obtain ⟨hnibble, hlen⟩ := h4
    rw [stripPadding_of_nibble_four hnibble hlen, cutToRealLen]
    by_cases hcut : 0 < u16FromBeBytes data[2] data[3] ∧
        u16FromBeBytes data[2] data[3] ≤ data.length
    · rw [if_pos hcut]
      exact Or.inr (Or.inl ⟨hlen, _, hnibble, rfl, hcut.2, rfl⟩)
    · rw [if_neg hcut]
      exact Or.inl rfl
  · by_cases h6 : versionNibble data = 6 ∧ 6 ≤ data.length
    · obtain ⟨hnibble, hlen⟩ := h6
      rw [stripPadding_of_nibble_six hnibble hlen, cutToRealLen]
      by_cases hcut : 0 < u16FromBeBytes data[4] data[5] + 40 ∧
          u16FromBeBytes data[4] data[5] + 40 ≤ data.length
      · rw [if_pos hcut]
        exact Or.inr (Or.inr ⟨hlen, _, hnibble, rfl, hcut.2, rfl⟩)
      · rw [if_neg hcut]
        exact Or.inl rfl
    · left
      cases data with
      | nil => rfl
      | cons head tail =>
          have h4' : ¬ (head >>> 4 = 4 ∧ 4 ≤ (head :: tail).length) := h4
          have h6' : ¬ (head >>> 4 = 6 ∧ 6 ≤ (head :: tail).length) := h6
          rw [stripPadding, dif_neg (by simp)]
          simp only [List.getElem_cons_zero]
          rw [dif_neg h4', dif_neg h6']

theorem stripPadding_shortens (data : Bytes) : stripPadding data <+: data := by
  rcases stripPadding_cases data with hid | ⟨_, realLen, _, _, _, hcut⟩ |
    ⟨_, realLen, _, _, _, hcut⟩
  · exact ⟨[], by rw [List.append_nil, hid]⟩
  · rw [hcut]
    exact List.take_prefix realLen data
  · rw [hcut]
    exact List.take_prefix realLen data

/-- Data too short for any length field is left alone. -/
theorem stripPadding_of_short {data : Bytes} (hlen : data.length < 4) :
    stripPadding data = data := by
  rcases stripPadding_cases data with hid | ⟨hlong, _⟩ | ⟨hlong, _⟩
  · exact hid
  · omega
  · omega

theorem versionNibble_take {data : Bytes} {len : Nat} (hpos : 0 < len)
    (hle : len ≤ data.length) :
    versionNibble (data.take len) = versionNibble data := by
  have hne : data.take len ≠ [] := by
    rw [← List.length_pos_iff, List.length_take_of_le hle]
    exact hpos
  exact (versionNibble_of_extension hne (List.take_prefix len data)).symm

/-- A cut packet announces its own length or is too short to announce one. -/
theorem stripPadding_idempotent (data : Bytes) :
    stripPadding (stripPadding data) = stripPadding data := by
  rcases stripPadding_cases data with hid |
    ⟨hlen, realLen, h4, htotal, hle, hcut⟩ |
    ⟨hlen, realLen, h6, htotal, hle, hcut⟩
  · rw [hid, hid]
  · rw [hcut]
    have htake : (data.take realLen).length = realLen :=
      List.length_take_of_le hle
    by_cases hlong : 4 ≤ realLen
    · have hversion : versionNibble (data.take realLen) = 4 := by
        rw [versionNibble_take (by omega) hle, h4]
      apply stripPadding_of_total_length (by omega) hversion _
        List.prefix_rfl
      simp only [List.getElem_take, htake]
      exact htotal
    · exact stripPadding_of_short (by omega)
  · rw [hcut]
    have htake : (data.take realLen).length = realLen :=
      List.length_take_of_le hle
    have hversion : versionNibble (data.take realLen) = 6 := by
      rw [versionNibble_take (by omega) hle, h6]
    apply stripPadding_of_payload_length (by omega) hversion _
      List.prefix_rfl
    simp only [List.getElem_take, htake]
    exact htotal

theorem standardSizes_sorted : standardSizes.Pairwise (· ≤ ·) := by
  decide

/-- The target of a length within the standard sizes is the smallest of them
that fits. -/
theorem smallestStandard_paddingTarget {len : Nat} (hlen : len ≤ 1400) :
    SmallestStandard len (paddingTarget len) := by
  unfold paddingTarget
  cases hfind : standardSizes.find? fun size => decide (len ≤ size) with
  | none =>
      rw [List.find?_eq_none] at hfind
      exact absurd hlen (by simpa using hfind 1400 (by decide))
  | some size =>
      obtain ⟨hfits, before, after, hsplit, hbefore⟩ :=
        List.find?_eq_some_iff_append.mp hfind
      refine ⟨List.mem_of_find?_eq_some hfind, by simpa using hfits, ?_⟩
      intro other hother hle
      have hsorted := standardSizes_sorted
      rw [hsplit, List.pairwise_append, List.pairwise_cons] at hsorted
      rw [hsplit, List.mem_append, List.mem_cons] at hother
      rcases hother with hother | rfl | hother
      · exact absurd hle (by simpa using hbefore other hother)
      · exact Nat.le_refl _
      · exact hsorted.2.1.1 other hother

theorem SmallestStandard.eq {len size other : Nat}
    (hsize : SmallestStandard len size) (hother : SmallestStandard len other) :
    size = other :=
  Nat.le_antisymm (hsize.2.2 other hother.1 hother.2.1)
    (hother.2.2 size hsize.1 hsize.2.1)

/-- A packet that tells its length survives padding; stripping reads within
the data and is an idempotent cut of it; and data with the same smallest
standard size is padded to the same length. -/
theorem padding_codec :
    (∀ (packet : Bytes) (_ : 4 ≤ packet.length), versionNibble packet = 4 →
      u16FromBeBytes packet[2] packet[3] = packet.length →
      stripPadding (padToStandard packet) = packet) ∧
    (∀ (packet : Bytes) (_ : 6 ≤ packet.length), versionNibble packet = 6 →
      u16FromBeBytes packet[4] packet[5] + 40 = packet.length →
      stripPadding (padToStandard packet) = packet) ∧
    (∀ data : Bytes, stripPadding data <+: data ∧
      stripPaddingChecked data = some (stripPadding data) ∧
      stripPadding (stripPadding data) = stripPadding data) ∧
    ∀ first second : Bytes, first.length ≤ 1400 → second.length ≤ 1400 →
      (∀ size, SmallestStandard first.length size ↔
        SmallestStandard second.length size) →
      (padToStandard first).length = (padToStandard second).length ∧
      (padToStandard first).length ∈ standardSizes := by
  refine ⟨?_, ?_, ?_, ?_⟩
  · intro packet hlen h4 htotal
    exact stripPadding_of_total_length hlen h4 htotal
      (padToStandard_extends packet)
  · intro packet hlen h6 htotal
    exact stripPadding_of_payload_length hlen h6 htotal
      (padToStandard_extends packet)
  · intro data
    exact ⟨stripPadding_shortens data, stripPaddingChecked_eq data,
      stripPadding_idempotent data⟩
  · intro first second hfirst hsecond hsame
    have hsize := smallestStandard_paddingTarget hfirst
    have hother := smallestStandard_paddingTarget hsecond
    rw [padToStandard_length, padToStandard_length]
    exact ⟨((hsame _).mp hsize).eq hother, hsize.1⟩

/-- A four-byte IPv4 packet and lengths 5 and 100. -/
theorem padding_codec_short :
    stripPadding (padToStandard [0x45, 0, 0, 4]) = [0x45, 0, 0, 4] ∧
      (padToStandard (List.replicate 5 1)).length =
        (padToStandard (List.replicate 100 1)).length := by
  refine ⟨padding_codec.1 _ (by decide) (by decide) (by decide), ?_⟩
  refine (padding_codec.2.2.2 _ _ (by decide) (by decide) ?_).1
  intro size
  have hpair : ∀ len ≤ 128, SmallestStandard len size ↔ size = 128 := by
    intro len hlen
    have hleast : ∀ other ∈ standardSizes, 128 ≤ other := by decide
    have htarget : SmallestStandard len 128 :=
      ⟨by decide, hlen, fun other hother _ => hleast other hother⟩
    exact ⟨fun h => h.eq htarget, fun h => h ▸ htarget⟩
  rw [List.length_replicate, List.length_replicate, hpair 5 (by decide),
    hpair 100 (by decide)]

end Redpill
