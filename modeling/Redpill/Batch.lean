/-
Datagram batching (`batch.rs`): several small packets in one datagram, each
behind its two-byte length.
-/
import Redpill.Packet

namespace Redpill

open ByteStream

/-- Packets of at least this size are sent on their own. -/
def batchSizeThreshold : Nat := 300

def maxBatchSize : Nat := 1100

/-- Capability flag bit 0: batching supported. -/
def flagBatching : UInt8 := 0x01

def batchEncode : List Bytes → Bytes
  | [] => []
  | packet :: rest => u16ToBeBytes packet.length ++ packet ++ batchEncode rest

/-- The decoding loop at byte position `pos`; every round advances by at least
the two length bytes. -/
def batchDecodeLoop (data : Bytes) : Nat → Nat → List Bytes
  | 0, _ => []
  | fuel + 1, pos =>
      if h : pos + 2 ≤ data.length then
        let len := u16FromBeBytes data[pos] data[pos + 1]
        if pos + 2 + len > data.length then []
        else
          (data.drop (pos + 2)).take len ::
            batchDecodeLoop data fuel (pos + 2 + len)
      else []

def batchDecode (data : Bytes) : List Bytes :=
  batchDecodeLoop data data.length 0

structure DatagramBatcher where
  pending : List Bytes
  pendingSize : Nat
deriving Repr, DecidableEq

namespace DatagramBatcher

def new : DatagramBatcher := ⟨[], 0⟩

/-- The encoded batch (empty if nothing is pending) and the emptied batcher. -/
def flush (batcher : DatagramBatcher) : Bytes × DatagramBatcher :=
  if batcher.pending = [] then ([], batcher)
  else (batchEncode batcher.pending, ⟨[], 0⟩)

/-- Add a packet; a batch that it would overfill is returned first. -/
def add (batcher : DatagramBatcher) (packet : Bytes) :
    Option Bytes × DatagramBatcher :=
  let entrySize := 2 + packet.length
  if batcher.pendingSize + entrySize > maxBatchSize ∧ batcher.pending ≠ [] then
    let flushed := batcher.flush
    (some flushed.1, ⟨flushed.2.pending ++ [packet], entrySize⟩)
  else
    (none, ⟨batcher.pending ++ [packet], batcher.pendingSize + entrySize⟩)

def hasPending (batcher : DatagramBatcher) : Bool :=
  !batcher.pending.isEmpty

theorem flush_pending (batcher : DatagramBatcher) :
    batcher.flush.2.pending = [] := by
  unfold flush
  split
  · assumption
  · rfl

theorem flush_batch (batcher : DatagramBatcher) :
    batcher.flush.1 = batchEncode batcher.pending := by
  unfold flush
  split
  · rename_i hnil
    rw [hnil, batchEncode]
  · rfl

/-- What `add` does: either the packet joins the pending ones, or the pending
ones leave as one batch and the packet starts the next. -/
theorem add_cases (batcher : DatagramBatcher) (packet : Bytes) :
    ((batcher.add packet).1 = none ∧
      (batcher.add packet).2.pending = batcher.pending ++ [packet]) ∨
    (batcher.pending ≠ [] ∧
      (batcher.add packet).1 = some (batchEncode batcher.pending) ∧
      (batcher.add packet).2.pending = [packet]) := by
  unfold add
  by_cases hfull : batcher.pendingSize + (2 + packet.length) > maxBatchSize ∧
      batcher.pending ≠ []
  · right
    simp [hfull, flush_pending, flush_batch]
  · left
    simp [hfull]

end DatagramBatcher

theorem batchEncode_eq_nil {packets : List Bytes} :
    batchEncode packets = [] ↔ packets = [] := by
  cases packets <;> simp [batchEncode, u16ToBeBytes]

theorem length_le_batchEncode_length (packets : List Bytes) :
    packets.length ≤ (batchEncode packets).length := by
  induction packets with
  | nil => simp
  | cons packet rest ih =>
      simp only [batchEncode, List.length_append, u16ToBeBytes_length,
        List.length_cons]
      omega

theorem batchDecodeLoop_of_short {data : Bytes} {fuel pos : Nat}
    (hpos : data.length < pos + 2) : batchDecodeLoop data fuel pos = [] := by
  cases fuel with
  | zero => rfl
  | succ fuel => rw [batchDecodeLoop, dif_neg (by omega)]

/-- One round of the loop: the length bytes at the position, then the packet
they announce or nothing. -/
theorem batchDecodeLoop_round (done : Bytes) (high low : UInt8) (rest : Bytes)
    (fuel : Nat) :
    batchDecodeLoop (done ++ high :: low :: rest) (fuel + 1) done.length =
      if rest.length < u16FromBeBytes high low then []
      else rest.take (u16FromBeBytes high low) ::
        batchDecodeLoop (done ++ high :: low :: rest) fuel
          (done.length + 2 + u16FromBeBytes high low) := by
  have hword : ∀ (h0 : done.length < (done ++ high :: low :: rest).length)
      (h1 : done.length + 1 < (done ++ high :: low :: rest).length),
      u16FromBeBytes (done ++ high :: low :: rest)[done.length]
        (done ++ high :: low :: rest)[done.length + 1] =
      u16FromBeBytes high low := by
    intro h0 h1
    simp [List.getElem_append_right]
  have hdrop : (done ++ high :: low :: rest).drop (done.length + 2) = rest := by
    rw [List.drop_append]
    simp
  have hlen : (done ++ high :: low :: rest).length =
      done.length + 2 + rest.length := by
    simp only [List.length_append, List.length_cons]
    omega
  rw [batchDecodeLoop, dif_pos (by omega)]
  simp only [hword, hdrop, hlen]
  by_cases hshort : rest.length < u16FromBeBytes high low
  · rw [if_pos (by omega), if_pos hshort]
  · rw [if_neg (by omega), if_neg hshort]

/-- What the decoder stops at: fewer bytes than a length field, or a length
that exceeds the bytes after it. -/
def Unreadable (rest : Bytes) : Prop :=
  rest.length < 2 ∨ ∃ high low tail, rest = high :: low :: tail ∧
    tail.length < u16FromBeBytes high low

theorem batchDecodeLoop_of_unreadable {rest : Bytes} (hrest : Unreadable rest)
    (done : Bytes) (fuel : Nat) :
    batchDecodeLoop (done ++ rest) fuel done.length = [] := by
  rcases hrest with hshort | ⟨high, low, tail, rfl, hshort⟩
  · apply batchDecodeLoop_of_short
    rw [List.length_append]
    omega
  · cases fuel with
    | zero => rfl
    | succ fuel => rw [batchDecodeLoop_round, if_pos hshort]

/-- Decoding from the end of `done` reads back the packets encoded there. -/
theorem batchDecodeLoop_batchEncode {packets : List Bytes}
    (hlen : ∀ packet ∈ packets, packet.length < 65536) {rest : Bytes}
    (hrest : Unreadable rest) (done : Bytes) {fuel : Nat}
    (hfuel : packets.length ≤ fuel) :
    batchDecodeLoop (done ++ (batchEncode packets ++ rest)) fuel done.length =
      packets := by
  induction packets generalizing done fuel with
  | nil => exact batchDecodeLoop_of_unreadable hrest done fuel
  | cons packet others ih =>
      obtain ⟨fuel, rfl⟩ : ∃ n, fuel = n + 1 := by
        refine ⟨fuel - 1, ?_⟩
        simp only [List.length_cons] at hfuel
        omega
      have hword : u16FromBeBytes (UInt8.ofNat (packet.length / 256))
          (UInt8.ofNat packet.length) = packet.length :=
        u16FromBeBytes_ofNat (hlen packet List.mem_cons_self)
      have hfuel' : others.length ≤ fuel := by simpa using hfuel
      have htail := ih
        (fun p hp => hlen p (List.mem_cons_of_mem packet hp))
        (done ++ u16ToBeBytes packet.length ++ packet) hfuel'
      simp only [List.length_append, u16ToBeBytes_length,
        List.append_assoc] at htail
      have hround := batchDecodeLoop_round done
        (UInt8.ofNat (packet.length / 256)) (UInt8.ofNat packet.length)
        (packet ++ (batchEncode others ++ rest)) fuel
      rw [hword, if_neg (by simp), List.take_left] at hround
      simp only [batchEncode, u16ToBeBytes, List.cons_append,
        List.nil_append, List.append_assoc] at htail hround ⊢
      rw [hround, Nat.add_assoc, htail]

/-- Packets that fit their length field are read back from their encoding
followed by bytes that the decoder stops at. -/
theorem batchDecode_append {packets : List Bytes}
    (hlen : ∀ packet ∈ packets, packet.length < 65536) {rest : Bytes}
    (hrest : Unreadable rest) :
    batchDecode (batchEncode packets ++ rest) = packets := by
  have hfuel : packets.length ≤ (batchEncode packets ++ rest).length := by
    have hle := length_le_batchEncode_length packets
    rw [List.length_append]
    omega
  simpa [batchDecode] using batchDecodeLoop_batchEncode hlen hrest [] hfuel

/-- A batch of packets that fit their length field is read back exactly. -/
theorem batchDecode_batchEncode {packets : List Bytes}
    (hlen : ∀ packet ∈ packets, packet.length < 65536) :
    batchDecode (batchEncode packets) = packets := by
  simpa using batchDecode_append hlen (Or.inl (Nat.zero_lt_two) : Unreadable [])

end Redpill
