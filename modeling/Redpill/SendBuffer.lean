/-
The send buffer for datagrams under the queue-to-datagram loop.  `send_datagram`
makes room by discarding the oldest datagrams that have not been sent;
`send_datagram_wait` waits for room instead.  The loop asks for the space before
some of its sends only.
-/
import Redpill.DownlinkAccounting

namespace Redpill

open ByteStream

universe u

/-- What is assumed of QUIC, where `discards` counts the datagrams that were
accepted and then discarded unsent. -/
structure Quinn.Evicting {Conn : Type u} (quinn : Quinn Conn)
    (discards : Conn → Nat) : Prop where
  fits : ∀ conn data, data.length ≤ quinn.datagramSendBufferSpace conn →
    discards (quinn.sendDatagram conn data).2 = discards conn
  evicts : ∀ conn data, quinn.datagramSendBufferSpace conn < data.length →
    (quinn.sendDatagram conn data).1 = .ok () →
      discards (quinn.sendDatagram conn data).2 ≠ discards conn
  refuses : ∀ conn data error, (quinn.sendDatagram conn data).1 = .error error →
    discards (quinn.sendDatagram conn data).2 = discards conn
  waits : ∀ conn data,
    discards (quinn.sendDatagramWait conn data).2 = discards conn

/-- The loop goes on, or the network takes datagrams out of the buffer, which
discards none. -/
inductive BufferEvent (Conn : Type u) where
  | loop (event : SendEvent)
  | drain (conn : Conn)

namespace SendLoop

variable {Conn : Type u} (quinn : Quinn Conn) (discards : Conn → Nat)
  (padded : Bool)

def bufferStep (loop : SendLoop Conn) :
    BufferEvent Conn → Option (SendLoop Conn)
  | .loop event => some (loop.step quinn padded event)
  | .drain conn =>
      if discards conn = discards loop.link.conn then
        some { loop with link := { loop.link with conn := conn } }
      else none

/-- The event makes the loop send what is pending: the timer fires, or a packet
is large or overfills the batch. -/
def sendsBatch (loop : SendLoop Conn) : SendEvent → Bool
  | .flushTimeout => !loop.link.lost && loop.batcher.hasPending
  | .pop packet =>
      !loop.link.lost && loop.batcher.hasPending &&
        (decide (batchSizeThreshold ≤ (camouflagedSend padded packet).length) ||
          (loop.batcher.add (camouflagedSend padded packet)).1.isSome)

/-- The pending batch has room in the send buffer, or is refused. -/
def batchFits (loop : SendLoop Conn) : Bool :=
  decide ((batchEncode loop.batcher.pending).length ≤
      quinn.datagramSendBufferSpace loop.link.conn) ||
    !(loop.batchAnswer quinn).toBool

/-- Whenever a batch is sent, it has room. -/
def batchesFit (loop : SendLoop Conn) : BufferEvent Conn → Bool
  | .loop event => !loop.sendsBatch padded event || loop.batchFits quinn
  | .drain _ => true

end SendLoop

section Discards

variable {Conn : Type u} {quinn : Quinn Conn} {discards : Conn → Nat}
  {padded : Bool}

theorem recordOutcome_conn (link : SendLink Conn) (size : Nat)
    (answer : Except SendDatagramError Unit) :
    (recordOutcome link size answer).conn = link.conn := by
  rcases answer with error | ok
  · cases error <;> rfl
  · rfl

theorem sendRt_conn (link : SendLink Conn) (data : Bytes) :
    (sendRt quinn link data).conn = (quinn.sendDatagram link.conn data).2 :=
  recordOutcome_conn _ _ _

/-- A datagram is sent directly only into free space or after a wait. -/
theorem sendDirect_discards (hquinn : quinn.Evicting discards)
    (link : SendLink Conn) (packet : Bytes) :
    discards (sendDirect quinn link packet).conn = discards link.conn := by
  have hsend : packet.length ≤ quinn.datagramSendBufferSpace link.conn →
      discards (sendRt quinn link packet).conn = discards link.conn := by
    intro hspace
    rw [sendRt_conn]
    exact hquinn.fits link.conn packet hspace
  unfold sendDirect
  cases classify packet with
  | realtime =>
      by_cases hspace : packet.length ≤ quinn.datagramSendBufferSpace link.conn
      · simpa [hspace] using hsend hspace
      · simp [hspace]
  | bulk =>
      simp only [sendBulk]
      split
      · rename_i hspace
        exact hsend hspace
      · split
        · rfl
        · split
          · rw [recordOutcome_conn]
            exact hquinn.waits link.conn packet
          · exact hquinn.waits link.conn packet

namespace SendLoop

variable {loop next : SendLoop Conn}

/-- Sending the pending batch discards nothing exactly if it fits. -/
theorem sendRt_batch_discards (hquinn : quinn.Evicting discards) :
    discards (sendRt quinn loop.link
        (batchEncode loop.batcher.pending)).conn =
      discards loop.link.conn ↔ loop.batchFits quinn = true := by
  rw [sendRt_conn, batchFits, Bool.or_eq_true, decide_eq_true_eq]
  by_cases hspace : (batchEncode loop.batcher.pending).length ≤
      quinn.datagramSendBufferSpace loop.link.conn
  · exact ⟨fun _ => Or.inl hspace, fun _ => hquinn.fits _ _ hspace⟩
  · cases hanswer : loop.batchAnswer quinn with
    | ok value =>
        have hevicts := hquinn.evicts loop.link.conn
          (batchEncode loop.batcher.pending) (by omega) hanswer
        simp [hspace, hevicts, Except.toBool]
    | error error =>
        have hrefuses := hquinn.refuses loop.link.conn
          (batchEncode loop.batcher.pending) error hanswer
        simp [hrefuses, Except.toBool]

theorem hasPending_iff (loop : SendLoop Conn) :
    loop.batcher.hasPending = true ↔ loop.batcher.pending ≠ [] := by
  simp [DatagramBatcher.hasPending]

/-- A flush discards nothing exactly if there is no batch or it fits. -/
theorem flush_discards (hquinn : quinn.Evicting discards)
    (loop : SendLoop Conn) :
    discards (loop.flush quinn).link.conn = discards loop.link.conn ↔
      (!loop.batcher.hasPending || loop.batchFits quinn) = true := by
  rw [(loop.flush_eq quinn).2]
  by_cases hpending : loop.batcher.pending = []
  · simp [hpending, DatagramBatcher.hasPending]
  · have hhas := loop.hasPending_iff.mpr hpending
    rw [if_neg hpending, hhas, Bool.not_true, Bool.false_or]
    exact sendRt_batch_discards hquinn

/-- A large packet goes out after the flush without discarding anything. -/
theorem dispatch_large_discards (hquinn : quinn.Evicting discards)
    (loop : SendLoop Conn) {packet : Bytes}
    (hlarge : batchSizeThreshold ≤ packet.length) :
    discards (loop.dispatch quinn packet).link.conn =
      discards (loop.flush quinn).link.conn := by
  simp only [dispatch, hlarge, if_true]
  split
  · rfl
  · exact sendDirect_discards hquinn _ packet

/-- A dispatch discards nothing exactly if the batch that it sends fits. -/
theorem dispatch_discards (hquinn : quinn.Evicting discards)
    (loop : SendLoop Conn) (packet : Bytes) :
    discards (loop.dispatch quinn packet).link.conn =
        discards loop.link.conn ↔
      (!(loop.batcher.hasPending &&
          (decide (batchSizeThreshold ≤ packet.length) ||
            (loop.batcher.add packet).1.isSome)) ||
        loop.batchFits quinn) = true := by
  by_cases hlarge : batchSizeThreshold ≤ packet.length
  · rw [dispatch_large_discards hquinn loop hlarge, flush_discards hquinn]
    simp [hlarge]
  · rcases loop.dispatch_small quinn hlarge with
      ⟨hnone, hlink, _⟩ | ⟨hsome, hnonempty, hlink, _⟩
    · simp [hlink, hlarge, hnone]
    · have hhas := loop.hasPending_iff.mpr hnonempty
      rw [hlink, sendRt_batch_discards hquinn]
      simp [hlarge, hsome, hhas]

/-- One round of the loop discards nothing exactly if it sends no batch or one
that fits. -/
theorem step_discards (hquinn : quinn.Evicting discards)
    (loop : SendLoop Conn) (event : SendEvent) :
    discards (loop.step quinn padded event).link.conn =
        discards loop.link.conn ↔
      (!loop.sendsBatch padded event || loop.batchFits quinn) = true := by
  cases hlost : loop.link.lost with
  | true => cases event <;> simp [step, sendsBatch, hlost]
  | false =>
      cases event with
      | pop packet =>
          simpa [step, sendsBatch, hlost] using
            dispatch_discards hquinn loop (camouflagedSend padded packet)
      | flushTimeout =>
          cases hpending : loop.batcher.hasPending with
          | false => simp [step, sendsBatch, hlost, hpending]
          | true =>
              simpa [step, sendsBatch, hlost, hpending] using
                flush_discards hquinn loop

theorem bufferStep_discards (hquinn : quinn.Evicting discards)
    {event : BufferEvent Conn}
    (hstep : loop.bufferStep quinn discards padded event = some next) :
    discards next.link.conn = discards loop.link.conn ↔
      loop.batchesFit quinn padded event = true := by
  cases event with
  | loop event =>
      obtain rfl := Option.some.inj hstep
      exact step_discards hquinn loop event
  | drain conn =>
      simp only [bufferStep] at hstep
      split at hstep
      · rename_i hsame
        obtain rfl := Option.some.inj hstep
        simp [batchesFit, hsame]
      · cases hstep

/-- No datagram is discarded in a run of the loop exactly if every batch finds
room when it is sent.  The other sends never discard one. -/
theorem never_evicted_iff_batches_fit (hquinn : quinn.Evicting discards)
    {start final : SendLoop Conn} {schedule : List (BufferEvent Conn)}
    (hrun : Machine.run (bufferStep quinn discards padded) start schedule =
      some final) :
    Machine.Always (bufferStep quinn discards padded)
        (fun loop => discards loop.link.conn = discards start.link.conn)
        start schedule ↔
      Machine.Meets (bufferStep quinn discards padded)
        (fun loop event => loop.batchesFit quinn padded event = true)
        start schedule := by
  apply Machine.always_iff_meets (fun _ => True)
  · intro state label next _ _
    trivial
  · intro state label next _ hsame hstep
    rw [← hsame]
    exact bufferStep_discards hquinn hstep
  · trivial
  · rfl
  · exact hrun

end SendLoop

end Discards

/-- The sizes of the datagrams that wait in the buffer, the oldest first, and
how many were discarded. -/
structure SendBuffer where
  waiting : List Nat
  discarded : Nat
deriving Repr, DecidableEq

namespace SendBuffer

variable (capacity maxSize : Nat)

def space (buffer : SendBuffer) : Nat :=
  capacity - buffer.waiting.sum

/-- Discard from the oldest on until there is room. -/
def makeRoom (size : Nat) : List Nat → List Nat
  | [] => []
  | oldest :: rest =>
      if size ≤ capacity - (oldest :: rest).sum then oldest :: rest
      else makeRoom size rest

def push (buffer : SendBuffer) (size : Nat) : SendBuffer :=
  let kept := makeRoom capacity size buffer.waiting
  { waiting := kept ++ [size]
    discarded :=
      buffer.discarded + (buffer.waiting.length - kept.length) }

/-- QUIC with a buffer of `capacity` bytes and datagrams of at most `maxSize`.
A wait for room that is not there runs into its limit. -/
def quinn : Quinn SendBuffer where
  datagramSendBufferSpace buffer := buffer.space capacity
  maxDatagramSize _ := some maxSize
  sendDatagram buffer data :=
    if maxSize < data.length then (.error .tooLarge, buffer)
    else (.ok (), buffer.push capacity data.length)
  sendDatagramWait buffer data :=
    if maxSize < data.length then (some (.error .tooLarge), buffer)
    else if data.length ≤ buffer.space capacity then
      (some (.ok ()), buffer.push capacity data.length)
    else (none, buffer)

variable {capacity maxSize} {size : Nat}

theorem makeRoom_length_le (waiting : List Nat) :
    (makeRoom capacity size waiting).length ≤ waiting.length := by
  induction waiting with
  | nil => exact Nat.le_refl _
  | cons oldest rest ih =>
      rw [makeRoom]
      split
      · exact Nat.le_refl _
      · exact Nat.le_succ_of_le ih

theorem makeRoom_of_fits {waiting : List Nat}
    (hfits : size ≤ capacity - waiting.sum) :
    makeRoom capacity size waiting = waiting := by
  cases waiting with
  | nil => rfl
  | cons oldest rest => rw [makeRoom, if_pos hfits]

theorem makeRoom_length_lt {waiting : List Nat} (hsize : size ≤ capacity)
    (hfull : capacity - waiting.sum < size) :
    (makeRoom capacity size waiting).length < waiting.length := by
  cases waiting with
  | nil =>
      rw [List.sum_nil] at hfull
      omega
  | cons oldest rest =>
      rw [makeRoom, if_neg (by omega)]
      exact Nat.lt_succ_of_le (makeRoom_length_le rest)

theorem push_discarded_of_fits {buffer : SendBuffer}
    (hfits : size ≤ buffer.space capacity) :
    (buffer.push capacity size).discarded = buffer.discarded := by
  simp [push, makeRoom_of_fits hfits]

theorem push_discarded_lt {buffer : SendBuffer} (hsize : size ≤ capacity)
    (hfull : buffer.space capacity < size) :
    buffer.discarded < (buffer.push capacity size).discarded := by
  have hlength := makeRoom_length_lt hsize hfull
  simp only [push]
  omega

theorem quinn_evicting (hsizes : maxSize ≤ capacity) :
    (quinn capacity maxSize).Evicting discarded where
  fits buffer data hfits := by
    simp only [quinn]
    split
    · rfl
    · exact push_discarded_of_fits hfits
  evicts buffer data hfull := by
    simp only [quinn]
    split
    · intro hok
      cases hok
    · rename_i hsmall
      intro _
      have hlost := push_discarded_lt (by omega) hfull
      exact Nat.ne_of_gt hlost
  refuses buffer data error := by
    simp only [quinn]
    split
    · intro _
      rfl
    · intro herror
      cases herror
  waits buffer data := by
    simp only [quinn]
    split
    · rfl
    · split
      · rename_i hfits
        exact push_discarded_of_fits hfits
      · rfl

/-- Every byte of the configured 2 MiB is taken. -/
def full : SendBuffer :=
  ⟨List.replicate 1747 1200 ++ [752], 0⟩

/-- A small packet is popped and its batch flushed by the timer. -/
def smallPacket : List (BufferEvent SendBuffer) :=
  [.loop (.pop DownlinkState.dnsPacket), .loop .flushTimeout]

end SendBuffer

namespace SendLoop

theorem never_evicted_iff_batches_fit_room :
    Machine.Always
        (bufferStep (SendBuffer.quinn 2097152 1200) SendBuffer.discarded false)
        (fun loop => loop.link.conn.discarded = 0)
        (start ⟨[1200, 900], 0⟩) SendBuffer.smallPacket := by
  have hmeets : Machine.Meets
      (bufferStep (SendBuffer.quinn 2097152 1200) SendBuffer.discarded false)
      (fun loop event => loop.batchesFit (SendBuffer.quinn 2097152 1200) false
        event = true)
      (start ⟨[1200, 900], 0⟩) SendBuffer.smallPacket := by
    decide
  exact (never_evicted_iff_batches_fit
    (SendBuffer.quinn_evicting (by omega)) rfl).mpr hmeets

/-- The buffer is full, and the timer flushes two batches into it.  They discard
the datagram that has waited longest. -/
theorem never_evicted_fails_full :
    (SendBuffer.quinn 2097152 1200).Evicting SendBuffer.discarded ∧
      (Machine.run
        (bufferStep (SendBuffer.quinn 2097152 1200) SendBuffer.discarded false)
        (start SendBuffer.full)
        (SendBuffer.smallPacket ++ SendBuffer.smallPacket)).map
          (fun loop => (loop.link.conn.discarded,
            loop.link.counters.datagramsSent)) = some (1, 2) :=
  ⟨SendBuffer.quinn_evicting (by omega), by decide +kernel⟩

end SendLoop

end Redpill
