/-
The batch codec in both directions, and the batcher over any sequence of its
calls: what goes in comes out once and in order, in datagrams of bounded size.
-/
import Redpill.Batch

namespace Redpill

open ByteStream

/-- The decoding loop with every access checked.  It is `none` where the
program would read out of range, and where it would still be looping after
`fuel` rounds. -/
def batchDecodeChecked (data : Bytes) : Nat → Nat → Option (List Bytes)
  | 0, pos => if pos + 2 ≤ data.length then none else some []
  | fuel + 1, pos =>
      if pos + 2 ≤ data.length then do
        let high ← index data pos
        let low ← index data (pos + 1)
        let len := u16FromBeBytes high low
        if pos + 2 + len > data.length then some []
        else
          let packet ← slice data (pos + 2) (pos + 2 + len)
          let rest ← batchDecodeChecked data fuel (pos + 2 + len)
          some (packet :: rest)
      else some []

/-- The checked loop never fails: no access is out of range, and every round
leaves fewer bytes than rounds. -/
theorem batchDecodeChecked_eq {data : Bytes} {fuel pos : Nat}
    (hfuel : data.length ≤ pos + fuel) :
    batchDecodeChecked data fuel pos =
      some (batchDecodeLoop data fuel pos) := by
  induction fuel generalizing pos with
  | zero =>
      rw [batchDecodeChecked, if_neg (by omega), batchDecodeLoop]
  | succ fuel ih =>
      rw [batchDecodeChecked, batchDecodeLoop]
      by_cases hpos : pos + 2 ≤ data.length
      · rw [if_pos hpos, dif_pos hpos, index_eq_some (by omega),
          index_eq_some (by omega)]
        simp only [Option.bind_eq_bind, Option.bind_some]
        generalize u16FromBeBytes data[pos] data[pos + 1] = len
        by_cases hlong : pos + 2 + len > data.length
        · rw [if_pos hlong, if_pos hlong]
        · rw [if_neg hlong, if_neg hlong, slice_eq_some (by omega) (by omega),
            ih (by omega)]
          simp
      · rw [if_neg hpos, dif_neg hpos]

/-- From any position the loop reads whole entries and stops at bytes it
cannot read. -/
theorem drop_eq_batchEncode_append {data : Bytes} {fuel pos : Nat}
    (hfuel : data.length ≤ pos + fuel) :
    ∃ rest, data.drop pos =
        batchEncode (batchDecodeLoop data fuel pos) ++ rest ∧
      Unreadable rest := by
  induction fuel generalizing pos with
  | zero =>
      refine ⟨data.drop pos, rfl, Or.inl ?_⟩
      rw [List.length_drop]
      omega
  | succ fuel ih =>
      rw [batchDecodeLoop]
      by_cases hpos : pos + 2 ≤ data.length
      · have hdrop : data.drop pos =
            data[pos] :: data[pos + 1] :: data.drop (pos + 2) := by
          rw [List.drop_eq_getElem_cons (by omega),
            List.drop_eq_getElem_cons (by omega)]
        rw [dif_pos hpos]
        have hword := u16ToBeBytes_u16FromBeBytes data[pos] data[pos + 1]
        generalize hlen : u16FromBeBytes data[pos] data[pos + 1] = len at hword
        have hcount : (data.drop (pos + 2)).length =
            data.length - (pos + 2) := List.length_drop
        by_cases hlong : pos + 2 + len > data.length
        · refine ⟨data.drop pos, ?_, Or.inr ⟨_, _, _, hdrop, ?_⟩⟩
          · rw [if_pos hlong, batchEncode, List.nil_append]
          · omega
        · have hnext : data.length ≤ pos + 2 + len + fuel := by omega
          obtain ⟨rest, hrest, hstop⟩ := ih hnext
          refine ⟨rest, ?_, hstop⟩
          have htake : ((data.drop (pos + 2)).take len).length = len :=
            List.length_take_of_le (by omega)
          rw [if_neg hlong, batchEncode, htake, hword, hdrop]
          have hsplit := List.take_append_drop len (data.drop (pos + 2))
          rw [List.drop_drop, hrest] at hsplit
          simp only [List.cons_append, List.nil_append, List.append_assoc,
            hsplit]
      · refine ⟨data.drop pos, ?_, Or.inl ?_⟩
        · rw [dif_neg hpos, batchEncode, List.nil_append]
        · rw [List.length_drop]
          omega

theorem unreadable_take {packet : Bytes} {cut : Nat}
    (hpacket : packet.length < 65536) (tail : Bytes)
    (hcut : cut < 2 + packet.length) :
    Unreadable
      ((u16ToBeBytes packet.length ++ packet ++ tail).take cut) := by
  match cut with
  | 0 => exact Or.inl (by simp)
  | 1 => exact Or.inl (by simp [u16ToBeBytes])
  | cut + 2 =>
      refine Or.inr ⟨_, _, (packet ++ tail).take cut, rfl, ?_⟩
      have hle := List.length_take_le cut (packet ++ tail)
      rw [u16FromBeBytes_ofNat hpacket]
      omega

/-- A batch cut at any byte is the encoding of its first packets followed by
bytes that the decoder stops at; those packets are the ones that end before
the cut. -/
theorem take_batchEncode {packets : List Bytes}
    (hlen : ∀ packet ∈ packets, packet.length < 65536) (cut : Nat) :
    ∃ count ≤ packets.length, ∃ rest,
      (batchEncode packets).take cut =
        batchEncode (packets.take count) ++ rest ∧
      Unreadable rest ∧
      ∀ i < packets.length,
        i < count ↔ (batchEncode (packets.take (i + 1))).length ≤ cut := by
  induction packets generalizing cut with
  | nil => exact ⟨0, Nat.le_refl 0, [], by simp [batchEncode], Or.inl (by simp),
      by simp⟩
  | cons packet others ih =>
      have hpacket := hlen packet List.mem_cons_self
      have hentry :
          (u16ToBeBytes packet.length ++ packet).length = 2 + packet.length := by
        rw [List.length_append, u16ToBeBytes_length]
      have hfirst : ∀ i, (batchEncode ((packet :: others).take (i + 1))).length =
          2 + packet.length + (batchEncode (others.take i)).length := by
        intro i
        rw [List.take_succ_cons, batchEncode, List.length_append, hentry]
      by_cases hcut : cut < 2 + packet.length
      · refine ⟨0, Nat.zero_le _, _, rfl,
          unreadable_take hpacket (batchEncode others) hcut, ?_⟩
        intro i hi
        rw [hfirst i]
        omega
      · obtain ⟨count, hcount, rest, htake, hrest, hinside⟩ :=
          ih (fun p hp => hlen p (List.mem_cons_of_mem packet hp))
            (cut - (2 + packet.length))
        refine ⟨count + 1, Nat.succ_le_succ hcount, rest, ?_, hrest, ?_⟩
        · rw [batchEncode, List.take_append, hentry, htake,
            List.take_of_length_le (by omega), List.take_succ_cons,
            batchEncode, ← List.append_assoc]
        · intro i hi
          rw [hfirst i]
          cases i with
          | zero => simp [batchEncode]; omega
          | succ i =>
              have hi' : i < others.length := by simpa using hi
              have := hinside i hi'
              omega

/-- Packets that fit their length field are read back; any data is read
without an access out of range as whole entries and a rest that the decoder
stops at; and a batch cut short gives the packets that end before the cut. -/
theorem batch_codec :
    (∀ packets : List Bytes, (∀ packet ∈ packets, packet.length ≤ 65535) →
      batchDecode (batchEncode packets) = packets) ∧
    (∀ data : Bytes,
      batchDecodeChecked data data.length 0 = some (batchDecode data) ∧
      ∃ rest, data = batchEncode (batchDecode data) ++ rest ∧
        (rest.length < 2 ∨ ∃ high low tail, rest = high :: low :: tail ∧
          tail.length < u16FromBeBytes high low)) ∧
    ∀ (packets : List Bytes) (cut : Nat),
      (∀ packet ∈ packets, packet.length ≤ 65535) →
      ∃ count ≤ packets.length,
        batchDecode ((batchEncode packets).take cut) = packets.take count ∧
        ∀ i < packets.length,
          i < count ↔ (batchEncode (packets.take (i + 1))).length ≤ cut := by
  refine ⟨?_, ?_, ?_⟩
  · intro packets hlen
    apply batchDecode_batchEncode
    intro packet hmem
    exact Nat.lt_succ_of_le (hlen packet hmem)
  · intro data
    have hfuel : data.length ≤ 0 + data.length := by omega
    refine ⟨batchDecodeChecked_eq hfuel, ?_⟩
    exact drop_eq_batchEncode_append hfuel
  · intro packets cut hlen
    have hlt : ∀ packet ∈ packets, packet.length < 65536 := by
      intro packet hmem
      exact Nat.lt_succ_of_le (hlen packet hmem)
    obtain ⟨count, hcount, rest, htake, hrest, hinside⟩ :=
      take_batchEncode hlt cut
    refine ⟨count, hcount, ?_, hinside⟩
    rw [htake]
    apply batchDecode_append _ hrest
    intro packet hmem
    exact hlt packet (List.mem_of_mem_take hmem)

/-- Three packets, one of them empty, cut inside the last. -/
theorem batch_codec_cut :
    ∃ count ≤ 3,
      batchDecode ((batchEncode [[1, 2], [], [7, 8, 9]]).take 9) =
        [[1, 2], [], [7, 8, 9]].take count ∧
      ∀ i < 3, i < count ↔
        (batchEncode ([[1, 2], [], [7, 8, 9]].take (i + 1))).length ≤ 9 :=
  batch_codec.2.2 [[1, 2], [], [7, 8, 9]] 9 (by decide)

/-- A call on the batcher. -/
inductive BatcherCall where
  | add (packet : Bytes)
  | flush
deriving Repr, DecidableEq

/-- The packets that a call adds. -/
def BatcherCall.added : BatcherCall → List Bytes
  | .add packet => [packet]
  | .flush => []

namespace DatagramBatcher

/-- What a call emits, if anything, and the batcher after it. -/
def call (batcher : DatagramBatcher) : BatcherCall →
    Option Bytes × DatagramBatcher
  | .add packet => batcher.add packet
  | .flush => (some batcher.flush.1, batcher.flush.2)

/-- A sequence of calls: each with what it emitted, and the batcher after
them. -/
def calls (batcher : DatagramBatcher) : List BatcherCall →
    List (BatcherCall × Option Bytes) × DatagramBatcher
  | [] => ([], batcher)
  | label :: rest =>
      let later := (batcher.call label).2.calls rest
      ((label, (batcher.call label).1) :: later.1, later.2)

/-- Bytes that the pending packets take in a batch. -/
def entrySizes (packets : List Bytes) : Nat :=
  (packets.map fun packet => 2 + packet.length).sum

/-- The batches that a sequence of calls emitted. -/
def emitted (trace : List (BatcherCall × Option Bytes)) : List Bytes :=
  trace.filterMap Prod.snd

theorem length_batchEncode (packets : List Bytes) :
    (batchEncode packets).length = entrySizes packets := by
  induction packets with
  | nil => rfl
  | cons packet rest ih =>
      simp only [batchEncode, List.length_append, u16ToBeBytes_length, ih,
        entrySizes, List.map_cons, List.sum_cons]

/-- What a call does to the packets: they join the pending ones, or the
pending ones leave as one batch before them. -/
theorem call_cases (batcher : DatagramBatcher) (label : BatcherCall) :
    ((batcher.call label).1 = none ∧
      (batcher.call label).2.pending = batcher.pending ++ label.added) ∨
    ((batcher.call label).1 = some (batchEncode batcher.pending) ∧
      (batcher.call label).2.pending = label.added) := by
  cases label with
  | add packet =>
      rcases batcher.add_cases packet with hjoin | ⟨_, hbatch, hpending⟩
      · exact Or.inl hjoin
      · exact Or.inr ⟨hbatch, hpending⟩
  | flush =>
      exact Or.inr ⟨congrArg some batcher.flush_batch, batcher.flush_pending⟩

/-- The size counter is the size of the pending packets. -/
def Counted (batcher : DatagramBatcher) : Prop :=
  batcher.pendingSize = entrySizes batcher.pending

theorem call_counted {batcher : DatagramBatcher} (hsize : batcher.Counted)
    (label : BatcherCall) : (batcher.call label).2.Counted := by
  unfold Counted at hsize ⊢
  cases label with
  | add packet =>
      simp only [call, add]
      split
      · simp [flush_pending, entrySizes]
      · simp [hsize, entrySizes]
  | flush =>
      simp only [call, flush]
      split
      · exact hsize
      · rfl

theorem call_fits {batcher : DatagramBatcher}
    (hfits : batcher.pendingSize ≤ maxBatchSize) {label : BatcherCall}
    (hsmall : ∀ packet ∈ label.added, packet.length ≤ maxBatchSize - 2)
    (hsize : batcher.Counted) :
    (batcher.call label).2.pendingSize ≤ maxBatchSize := by
  cases label with
  | add packet =>
      have hpacket : packet.length ≤ maxBatchSize - 2 :=
        hsmall packet List.mem_cons_self
      have htwo : 2 ≤ maxBatchSize := by decide
      simp only [call, add]
      split
      · exact (by omega : 2 + packet.length ≤ maxBatchSize)
      · rename_i hroom
        by_cases hempty : batcher.pending = []
        · rw [Counted, hempty] at hsize
          have hzero : batcher.pendingSize = 0 := hsize
          simp only [hzero]
          omega
        · have hle := fun hfull => hroom ⟨hfull, hempty⟩
          exact Nat.le_of_not_lt hle
  | flush =>
      simp only [call, flush]
      split
      · exact hfits
      · exact Nat.zero_le _

/-- The packets that a sequence of calls adds, in order. -/
def addedBy (schedule : List BatcherCall) : List Bytes :=
  schedule.flatMap BatcherCall.added

theorem calls_counted {batcher : DatagramBatcher} (hsize : batcher.Counted)
    (schedule : List BatcherCall) : (batcher.calls schedule).2.Counted := by
  induction schedule generalizing batcher with
  | nil => exact hsize
  | cons label rest ih => exact ih (call_counted hsize label)

/-- Nothing is lost, repeated or reordered: the emitted batches and the
pending packets are what was pending before and what was added since. -/
theorem calls_conserve {batcher : DatagramBatcher}
    (hpending : ∀ packet ∈ batcher.pending, packet.length < 65536)
    {schedule : List BatcherCall}
    (hadded : ∀ packet ∈ addedBy schedule, packet.length < 65536) :
    (emitted (batcher.calls schedule).1).flatMap batchDecode ++
        (batcher.calls schedule).2.pending =
      batcher.pending ++ addedBy schedule := by
  induction schedule generalizing batcher with
  | nil => simp [calls, emitted, addedBy]
  | cons label rest ih =>
      have hlabel : ∀ packet ∈ label.added, packet.length < 65536 := by
        intro packet hmem
        exact hadded packet (List.mem_append_left _ hmem)
      have hrest : ∀ packet ∈ addedBy rest, packet.length < 65536 := by
        intro packet hmem
        exact hadded packet (List.mem_append_right _ hmem)
      have hsplit : addedBy (label :: rest) = label.added ++ addedBy rest := rfl
      rcases batcher.call_cases label with ⟨hnone, hnext⟩ | ⟨hsome, hnext⟩
      · have hnextPending : ∀ packet ∈ (batcher.call label).2.pending,
            packet.length < 65536 := by
          rw [hnext]
          exact List.forall_mem_append.mpr ⟨hpending, hlabel⟩
        have htail := ih hnextPending hrest
        rw [hnext, List.append_assoc] at htail
        simpa [calls, emitted, hnone, hsplit] using htail
      · have hnextPending : ∀ packet ∈ (batcher.call label).2.pending,
            packet.length < 65536 := by
          rw [hnext]
          exact hlabel
        have htail := ih hnextPending hrest
        rw [hnext] at htail
        simp only [emitted] at htail
        simp [calls, emitted, hsome, hsplit, batchDecode_batchEncode hpending,
          htail]

/-- Batches of packets that fit on their own are within the limit. -/
theorem calls_bounded {batcher : DatagramBatcher} (hsize : batcher.Counted)
    (hfits : batcher.pendingSize ≤ maxBatchSize) {schedule : List BatcherCall}
    (hadded : ∀ packet ∈ addedBy schedule,
      packet.length ≤ maxBatchSize - 2) :
    ∀ batch ∈ emitted (batcher.calls schedule).1,
      batch.length ≤ maxBatchSize := by
  induction schedule generalizing batcher with
  | nil => simp [calls, emitted]
  | cons label rest ih =>
      have hlabel : ∀ packet ∈ label.added,
          packet.length ≤ maxBatchSize - 2 := by
        intro packet hmem
        exact hadded packet (List.mem_append_left _ hmem)
      have htail := ih (call_counted hsize label)
        (call_fits hfits hlabel hsize)
        (fun packet hmem => hadded packet (List.mem_append_right _ hmem))
      rcases batcher.call_cases label with ⟨hnone, _⟩ | ⟨hsome, _⟩
      · simpa [calls, emitted, hnone] using htail
      · have hbatch : (batchEncode batcher.pending).length ≤ maxBatchSize := by
          rw [length_batchEncode, ← hsize]
          exact hfits
        simp only [emitted] at htail
        simpa [calls, emitted, hsome, hbatch] using htail

theorem calls_add_ne_nil (batcher : DatagramBatcher)
    (schedule : List BatcherCall) (packet : Bytes) :
    (.add packet, some []) ∉ (batcher.calls schedule).1 := by
  induction schedule generalizing batcher with
  | nil => simp [calls]
  | cons label rest ih =>
      simp only [calls, List.mem_cons, not_or]
      refine ⟨?_, ih _⟩
      rintro hhead
      simp only [Prod.mk.injEq] at hhead
      obtain ⟨rfl, hhead⟩ := hhead
      rcases batcher.add_cases packet with ⟨hnone, _⟩ | ⟨hne, hsome, _⟩
      · rw [call, hnone] at hhead
        cases hhead
      · rw [call, hsome, Option.some.injEq] at hhead
        exact hne (batchEncode_eq_nil.mp hhead.symm)

/-- Every sequence of calls on a new batcher: the emitted batches and the
pending packets are the added packets in order, the size counter is right, and
batches of packets that fit are within the limit and never empty. -/
theorem batcher_conserves_and_bounds (schedule : List BatcherCall)
    (hadded : ∀ packet ∈ addedBy schedule, packet.length ≤ 65535) :
    (emitted (new.calls schedule).1).flatMap batchDecode ++
        (new.calls schedule).2.pending = addedBy schedule ∧
      (new.calls schedule).2.pendingSize =
        ((new.calls schedule).2.pending.map
          fun packet => 2 + packet.length).sum ∧
      ((∀ packet ∈ addedBy schedule, packet.length ≤ maxBatchSize - 2) →
        (∀ batch ∈ emitted (new.calls schedule).1,
          batch.length ≤ maxBatchSize) ∧
        ∀ packet, (.add packet, some []) ∉ (new.calls schedule).1) := by
  have hcounted : Counted new := rfl
  refine ⟨?_, calls_counted hcounted schedule, ?_⟩
  · apply calls_conserve
    · intro packet hmem
      cases hmem
    · intro packet hmem
      exact Nat.lt_succ_of_le (hadded packet hmem)
  · intro hsmall
    exact ⟨calls_bounded hcounted (Nat.zero_le _) hsmall,
      calls_add_ne_nil new schedule⟩

/-- Four packets of 299 bytes: the fourth does not fit with the others. -/
theorem batcher_conserves_and_bounds_four :
    (emitted (new.calls (List.replicate 4
        (.add (List.replicate 299 7)))).1).flatMap batchDecode ++
      (new.calls (List.replicate 4 (.add (List.replicate 299 7)))).2.pending =
    addedBy (List.replicate 4 (.add (List.replicate 299 7))) := by
  refine (batcher_conserves_and_bounds _ ?_).1
  intro packet hmem
  simp only [addedBy, List.mem_flatMap, List.mem_replicate] at hmem
  obtain ⟨label, ⟨_, rfl⟩, hmem⟩ := hmem
  rw [List.mem_singleton.mp hmem, List.length_replicate]
  decide

end DatagramBatcher

end Redpill
