/-
Packet accounting on the downlink of a QUIC session: the client queue, the
batcher and the datagrams, with every answer that QUIC can give.  A packet is
waiting, pending, sent, or should be in one of the counters of drops.
-/
import Redpill.Downlink
import Redpill.Machine

namespace Redpill

open ByteStream

universe u

namespace PriorityQueue

variable {P : Type u}

/-- The number of realtime packets that a pop discards for their age. -/
def discarded (now : Nat) : List (Nat × P) → Nat
  | [] => 0
  | (stamp, _) :: rest =>
      if now - stamp ≤ realtimeMaxAge then 0 else discarded now rest + 1

theorem popRealtime_length (now : Nat) (lane : List (Nat × P)) :
    (popRealtime now lane).1.toList.length +
      (popRealtime now lane).2.length + discarded now lane = lane.length := by
  induction lane with
  | nil => rfl
  | cons entry rest ih =>
      obtain ⟨stamp, packet⟩ := entry
      by_cases hfresh : now - stamp ≤ realtimeMaxAge
      · simp only [popRealtime, discarded, hfresh, if_true, Option.toList_some,
          List.length_cons, List.length_nil]
        omega
      · simp only [popRealtime, discarded, hfresh, if_false, List.length_cons]
        omega

/-- A pop takes one packet out, if there is one, and discards the stale ones
before it. -/
theorem tryPop_length (queue : PriorityQueue P) (now : Nat) :
    (queue.tryPop now).1.toList.length + (queue.tryPop now).2.packets.length +
      discarded now queue.realtime = queue.packets.length := by
  have hlane := popRealtime_length now queue.realtime
  unfold tryPop packets
  generalize popRealtime now queue.realtime = popped at hlane
  obtain ⟨result, rest⟩ := popped
  cases result with
  | some packet =>
      simp only [List.length_append, List.length_map] at hlane ⊢
      omega
  | none =>
      cases hbulk : queue.bulk <;>
        simp only [List.length_append, List.length_map, List.length_cons,
          List.length_nil, Option.toList_some, Option.toList_none] at hlane ⊢ <;>
        omega

theorem push_length (queue : PriorityQueue P) (packet : P)
    (priority : Priority) (now : Nat) :
    (queue.push packet priority now).2.packets.length =
      queue.packets.length +
        if (queue.push packet priority now).1 then 1 else 0 := by
  cases priority with
  | realtime =>
      by_cases hfull : queue.realtime.length ≥ queue.capacity / 4
      · simp [push, hfull]
      · simp [push, hfull, packets]
        omega
  | bulk =>
      by_cases hfull : queue.bulk.length ≥ queue.capacity
      · simp [push, hfull]
      · simp [push, hfull, packets]
        omega

end PriorityQueue

/-- The counters of dropped packets on the send path. -/
def SendCounters.reported (counters : SendCounters) : Nat :=
  counters.dropsBackpressure + counters.bpRtDropsCongested +
    counters.bpWaitTimeouts + counters.datagramsTooLarge

/-- The packets that are sent with a datagram. -/
def carriedBy (packets : Nat) : Except SendDatagramError Unit → Nat
  | .ok () => packets
  | .error _ => 0

/-- The packets of a datagram that are neither sent nor counted: a datagram
that is refused counts as one packet, and a lost connection as none. -/
def uncounted (packets : Nat) : Except SendDatagramError Unit → Nat
  | .ok () => 0
  | .error .connectionLost => packets
  | .error _ => packets - 1

/-- QUIC takes the datagram, or refuses one that holds a single packet. -/
def reportsAll (packets : Nat) : Except SendDatagramError Unit → Bool
  | .ok () => true
  | .error .connectionLost => false
  | .error _ => decide (packets = 1)

theorem uncounted_eq_zero {packets : Nat} (hpackets : 0 < packets)
    (answer : Except SendDatagramError Unit) :
    uncounted packets answer = 0 ↔ reportsAll packets answer = true := by
  rcases answer with error | ok
  · cases error with
    | connectionLost =>
        simp only [uncounted, reportsAll, Bool.false_eq_true, iff_false]
        omega
    | _ =>
        simp only [uncounted, reportsAll, decide_eq_true_eq]
        omega
  · simp [uncounted, reportsAll]

section Sending

variable {Conn : Type u} (quinn : Quinn Conn)

theorem recordOutcome_reported (link : SendLink Conn) (size : Nat)
    {packets : Nat} (hpackets : 0 < packets)
    (answer : Except SendDatagramError Unit) :
    (recordOutcome link size answer).counters.reported +
        carriedBy packets answer + uncounted packets answer =
      link.counters.reported + packets := by
  rcases answer with error | ok
  · cases error <;>
      simp only [recordOutcome, SendCounters.reported,
        SendCounters.recordTooLarge, SendCounters.recordBackpressure, carriedBy,
        uncounted] <;>
      omega
  · simp only [recordOutcome, SendCounters.reported, SendCounters.recordSent,
      carriedBy, uncounted]
    omega

theorem recordOutcome_lost (link : SendLink Conn) (size : Nat)
    {answer : Except SendDatagramError Unit}
    (h : (recordOutcome link size answer).lost = true)
    (hlink : link.lost = false) : answer = .error .connectionLost := by
  rcases answer with error | ok
  · cases error with
    | connectionLost => rfl
    | _ => exact absurd (hlink.symm.trans h) Bool.false_ne_true
  · exact absurd (hlink.symm.trans h) Bool.false_ne_true

/-- The answer to the batch that is pending. -/
def SendLoop.batchAnswer (loop : SendLoop Conn) :
    Except SendDatagramError Unit :=
  (quinn.sendDatagram loop.link.conn (batchEncode loop.batcher.pending)).1

/-- The answer to a packet that is sent directly, if QUIC is asked at all and
answers in time.  Every other case has its counter. -/
def directAnswer (conn : Conn) (packet : Bytes) :
    Option (Except SendDatagramError Unit) :=
  match classify packet with
  | .realtime =>
      if packet.length ≤ quinn.datagramSendBufferSpace conn then
        some (quinn.sendDatagram conn packet).1
      else none
  | .bulk =>
      if packet.length ≤ quinn.datagramSendBufferSpace conn then
        some (quinn.sendDatagram conn packet).1
      else if (quinn.maxDatagramSize conn).any (· < packet.length) then none
      else (quinn.sendDatagramWait conn packet).1

def directCarried (conn : Conn) (packet : Bytes) : Nat :=
  ((directAnswer quinn conn packet).map (carriedBy 1)).getD 0

def directUncounted (conn : Conn) (packet : Bytes) : Nat :=
  ((directAnswer quinn conn packet).map (uncounted 1)).getD 0

/-- The connection is not found lost. -/
def directReports (conn : Conn) (packet : Bytes) : Bool :=
  (directAnswer quinn conn packet).all (reportsAll 1)

theorem sendRt_reported (link : SendLink Conn) (data : Bytes) {packets : Nat}
    (hpackets : 0 < packets) :
    (sendRt quinn link data).counters.reported +
        carriedBy packets (quinn.sendDatagram link.conn data).1 +
        uncounted packets (quinn.sendDatagram link.conn data).1 =
      link.counters.reported + packets :=
  recordOutcome_reported _ data.length hpackets _

/-- A packet that is sent directly is sent, counted, or lost with its
connection. -/
theorem sendDirect_reported (link : SendLink Conn) (packet : Bytes) :
    (sendDirect quinn link packet).counters.reported +
        directCarried quinn link.conn packet +
        directUncounted quinn link.conn packet =
      link.counters.reported + 1 := by
  have hsend := sendRt_reported quinn link packet Nat.one_pos
  unfold directCarried directUncounted directAnswer sendDirect
  cases classify packet with
  | realtime =>
      by_cases hspace : packet.length ≤ quinn.datagramSendBufferSpace link.conn
      · simpa [hspace] using hsend
      · simp only [hspace, if_false, Option.map_none, Option.getD_none,
          SendCounters.reported, SendCounters.recordCongested]
        omega
  | bulk =>
      unfold sendBulk
      by_cases hspace : packet.length ≤ quinn.datagramSendBufferSpace link.conn
      · simpa [hspace] using hsend
      · by_cases hlarge :
            (quinn.maxDatagramSize link.conn).any (· < packet.length) = true
        · simp only [hspace, hlarge, if_false, if_true, Option.map_none,
            Option.getD_none, SendCounters.reported,
            SendCounters.recordTooLarge]
          omega
        · simp only [hspace, hlarge, if_false, Bool.false_eq_true]
          cases hwait : (quinn.sendDatagramWait link.conn packet).1 with
          | some answer =>
              have hrecord := recordOutcome_reported
                { link with
                  counters := link.counters.recordWait
                  conn := (quinn.sendDatagramWait link.conn packet).2 }
                packet.length Nat.one_pos answer
              simpa [SendCounters.reported, SendCounters.recordWait] using
                hrecord
          | none =>
              simp only [Option.map_none, Option.getD_none,
                SendCounters.reported, SendCounters.recordWait,
                SendCounters.recordWaitTimeout]
              omega

theorem directUncounted_eq_zero (conn : Conn) (packet : Bytes) :
    directUncounted quinn conn packet = 0 ↔
      directReports quinn conn packet = true := by
  unfold directUncounted directReports
  cases directAnswer quinn conn packet with
  | none => simp
  | some answer => simpa using uncounted_eq_zero Nat.one_pos answer

namespace SendLoop

/-- The packets that the loop holds or has reported as dropped. -/
def weight (loop : SendLoop Conn) : Nat :=
  loop.batcher.pending.length + loop.link.counters.reported

def flushCarried (loop : SendLoop Conn) : Nat :=
  if loop.batcher.pending = [] then 0
  else carriedBy loop.batcher.pending.length (loop.batchAnswer quinn)

def flushUncounted (loop : SendLoop Conn) : Nat :=
  if loop.batcher.pending = [] then 0
  else uncounted loop.batcher.pending.length (loop.batchAnswer quinn)

def flushReports (loop : SendLoop Conn) : Bool :=
  decide (loop.batcher.pending = []) ||
    reportsAll loop.batcher.pending.length (loop.batchAnswer quinn)

theorem flush_eq (loop : SendLoop Conn) :
    (loop.flush quinn).batcher.pending = [] ∧
      (loop.flush quinn).link =
        if loop.batcher.pending = [] then loop.link
        else sendRt quinn loop.link (batchEncode loop.batcher.pending) := by
  simp only [flush, DatagramBatcher.flush_batch]
  by_cases hpending : loop.batcher.pending = []
  · simp [hpending, batchEncode, DatagramBatcher.flush]
  · simp [batchEncode_eq_nil, hpending, DatagramBatcher.flush_pending]

/-- A flush takes the pending packets away: they are sent, counted or
uncounted. -/
theorem flush_weight (loop : SendLoop Conn) :
    (loop.flush quinn).weight + loop.flushCarried quinn +
      loop.flushUncounted quinn = loop.weight := by
  obtain ⟨hempty, hlink⟩ := loop.flush_eq quinn
  simp only [weight, flushCarried, flushUncounted, hempty, hlink,
    List.length_nil]
  by_cases hpending : loop.batcher.pending = []
  · simp [hpending]
  · have hsend := sendRt_reported quinn loop.link
      (batchEncode loop.batcher.pending) (List.length_pos_iff.mpr hpending)
    simp only [hpending, if_false, batchAnswer]
    omega

theorem flushUncounted_eq_zero (loop : SendLoop Conn) :
    loop.flushUncounted quinn = 0 ↔ loop.flushReports quinn = true := by
  unfold flushUncounted flushReports
  by_cases hpending : loop.batcher.pending = []
  · simp [hpending]
  · simpa [hpending] using
      uncounted_eq_zero (List.length_pos_iff.mpr hpending) (loop.batchAnswer quinn)

/-- A flush that reports all its packets has not lost the connection. -/
theorem flush_lost (loop : SendLoop Conn) (hlink : loop.link.lost = false)
    (hreports : loop.flushReports quinn = true) :
    (loop.flush quinn).link.lost = false := by
  rw [(loop.flush_eq quinn).2]
  by_cases hpending : loop.batcher.pending = []
  · rw [if_pos hpending, hlink]
  · rw [if_neg hpending]
    by_contra hlost
    rw [Bool.not_eq_false] at hlost
    have hanswer : loop.batchAnswer quinn = .error .connectionLost :=
      recordOutcome_lost _ _ hlost hlink
    simp [flushReports, hpending, hanswer, reportsAll] at hreports

/-- The packets that a dispatch sends: those of the batch it has to send first,
and the packet itself if it is large. -/
def dispatchCarried (loop : SendLoop Conn) (packet : Bytes) : Nat :=
  if batchSizeThreshold ≤ packet.length then
    loop.flushCarried quinn +
      if (loop.flush quinn).link.lost then 0
      else directCarried quinn (loop.flush quinn).link.conn packet
  else if (loop.batcher.add packet).1.isSome then loop.flushCarried quinn
  else 0

def dispatchUncounted (loop : SendLoop Conn) (packet : Bytes) : Nat :=
  if batchSizeThreshold ≤ packet.length then
    loop.flushUncounted quinn +
      if (loop.flush quinn).link.lost then 1
      else directUncounted quinn (loop.flush quinn).link.conn packet
  else if (loop.batcher.add packet).1.isSome then loop.flushUncounted quinn
  else 0

/-- No batch of several packets is refused, and no connection lost. -/
def dispatchReports (loop : SendLoop Conn) (packet : Bytes) : Bool :=
  if batchSizeThreshold ≤ packet.length then
    loop.flushReports quinn &&
      directReports quinn (loop.flush quinn).link.conn packet
  else
    (loop.batcher.add packet).1.isNone || loop.flushReports quinn

/-- What `add` does with a small packet: it joins the pending ones, or they are
sent and it stays. -/
theorem dispatch_small (loop : SendLoop Conn) {packet : Bytes}
    (hsmall : ¬ batchSizeThreshold ≤ packet.length) :
    ((loop.batcher.add packet).1 = none ∧
        (loop.dispatch quinn packet).link = loop.link ∧
        (loop.dispatch quinn packet).batcher.pending =
          loop.batcher.pending ++ [packet]) ∨
      ((loop.batcher.add packet).1.isSome = true ∧
        loop.batcher.pending ≠ [] ∧
        (loop.dispatch quinn packet).link =
          sendRt quinn loop.link (batchEncode loop.batcher.pending) ∧
        (loop.dispatch quinn packet).batcher.pending = [packet]) := by
  rcases loop.batcher.add_cases packet with
    ⟨hnone, hpending⟩ | ⟨hnonempty, hbatch, hpending⟩
  · left
    simp [dispatch, hsmall, hnone, hpending]
  · right
    simp [dispatch, hsmall, hbatch, hpending, hnonempty]

/-- A dispatch adds one packet to what the loop has to account for. -/
theorem dispatch_weight (loop : SendLoop Conn) (packet : Bytes) :
    (loop.dispatch quinn packet).weight + loop.dispatchCarried quinn packet +
      loop.dispatchUncounted quinn packet = loop.weight + 1 := by
  by_cases hlarge : batchSizeThreshold ≤ packet.length
  · have hflush := loop.flush_weight quinn
    simp only [dispatch, dispatchCarried, dispatchUncounted, hlarge, if_true]
    by_cases hlost : (loop.flush quinn).link.lost = true
    · simp only [hlost, if_true]
      omega
    · have hdirect :=
        sendDirect_reported quinn (loop.flush quinn).link packet
      simp only [hlost, if_false, weight, Bool.false_eq_true] at hflush ⊢
      omega
  · simp only [dispatchCarried, dispatchUncounted, hlarge, if_false]
    rcases loop.dispatch_small quinn hlarge with
      ⟨hnone, hlink, hpending⟩ | ⟨hsome, hnonempty, hlink, hpending⟩
    · simp only [weight, hlink, hpending, hnone, Option.isSome_none,
        Bool.false_eq_true, if_false, List.length_append,
        List.length_singleton]
      omega
    · have hsend := sendRt_reported quinn loop.link
        (batchEncode loop.batcher.pending)
        (List.length_pos_iff.mpr hnonempty)
      simp only [weight, hlink, hpending, hsome, if_true, flushCarried,
        flushUncounted, hnonempty, if_false, batchAnswer,
        List.length_singleton]
      omega

theorem dispatchUncounted_eq_zero (loop : SendLoop Conn) (packet : Bytes)
    (hlink : loop.link.lost = false) :
    loop.dispatchUncounted quinn packet = 0 ↔
      loop.dispatchReports quinn packet = true := by
  have hflush := loop.flushUncounted_eq_zero quinn
  unfold dispatchUncounted dispatchReports
  by_cases hlarge : batchSizeThreshold ≤ packet.length
  · rw [if_pos hlarge, if_pos hlarge, Nat.add_eq_zero_iff, hflush,
      Bool.and_eq_true]
    apply and_congr_right
    intro hreports
    rw [loop.flush_lost quinn hlink hreports, if_neg Bool.false_ne_true]
    exact directUncounted_eq_zero quinn _ packet
  · rw [if_neg hlarge, if_neg hlarge]
    cases hadd : (loop.batcher.add packet).1 with
    | none => simp
    | some batch => simpa using hflush

end SendLoop

end Sending

/-- The downlink of one session.  Beside the queue, the loop and the counter of
stale packets it keeps what the law is about: packets that the router pushed
with and without success, packets in datagrams that were sent, and packets that
were discarded for their age. -/
structure DownlinkState (Conn : Type u) where
  queue : PriorityQueue Bytes
  loop : SendLoop Conn
  dropsStale : Nat
  accepted : Nat
  refused : Nat
  carried : Nat
  stale : Nat

/-- The router pushes a packet, the loop pops one or its timer fires, or the
network changes the connection. -/
inductive DownlinkEvent (Conn : Type u) where
  | push (packet : Bytes) (now : Nat)
  | pop (now : Nat)
  | flushTimeout
  | network (conn : Conn)

namespace DownlinkState

variable {Conn : Type u} (quinn : Quinn Conn) (padded : Bool)

def start (capacity : Nat) (conn : Conn) : DownlinkState Conn where
  queue := PriorityQueue.new capacity
  loop := SendLoop.start conn
  dropsStale := 0
  accepted := 0
  refused := 0
  carried := 0
  stale := 0

def push (state : DownlinkState Conn) (packet : Bytes) (now : Nat) :
    DownlinkState Conn :=
  let pushed := state.queue.push packet (classify packet) now
  if pushed.1 then
    { state with queue := pushed.2, accepted := state.accepted + 1 }
  else { state with queue := pushed.2, refused := state.refused + 1 }

/-- A pop discards stale packets even if it then finds no other. -/
def pop (state : DownlinkState Conn) (now : Nat) : DownlinkState Conn :=
  let popped := state.queue.tryPop now
  let state :=
    { state with
      queue := popped.2
      stale := state.stale +
        PriorityQueue.discarded now state.queue.realtime }
  match popped.1 with
  | none => state
  | some packet =>
      { state with
        loop := state.loop.dispatch quinn (camouflagedSend padded packet)
        carried := state.carried +
          state.loop.dispatchCarried quinn (camouflagedSend padded packet) }

/-- One event.  A lost connection has ended the loop. -/
def step (state : DownlinkState Conn) :
    DownlinkEvent Conn → Option (DownlinkState Conn)
  | .push packet now => some (state.push packet now)
  | .pop now =>
      if state.loop.link.lost then none else some (state.pop quinn padded now)
  | .flushTimeout =>
      if state.loop.link.lost || !state.loop.batcher.hasPending then none
      else
        some { state with
          loop := state.loop.flush quinn
          carried := state.carried + state.loop.flushCarried quinn }
  | .network conn =>
      some { state with
        loop := { state.loop with
          link := { state.loop.link with conn := conn } } }

/-- The drops in the counters.  The reader of the TUN counts a packet that the
queue refuses in the same counter as the loop counts a refused datagram. -/
def reported (state : DownlinkState Conn) : Nat :=
  state.dropsStale + (state.loop.link.counters.reported + state.refused)

/-- Every packet that was pushed is waiting, pending, sent or reported, and
the stale ones are reported as such. -/
structure Conserved (state : DownlinkState Conn) : Prop where
  packets : state.accepted + state.refused =
    state.queue.packets.length + state.loop.batcher.pending.length +
      state.carried + state.reported
  stale : state.dropsStale = state.stale

instance (state : DownlinkState Conn) : Decidable state.Conserved :=
  decidable_of_iff
    (state.accepted + state.refused =
        state.queue.packets.length + state.loop.batcher.pending.length +
          state.carried + state.reported ∧
      state.dropsStale = state.stale)
    ⟨fun h => ⟨h.1, h.2⟩, fun h => ⟨h.packets, h.stale⟩⟩

/-- No stale packet is on the way to the popped one, QUIC refuses no batch of
several packets, and no send finds the connection lost. -/
def reports (state : DownlinkState Conn) : DownlinkEvent Conn → Bool
  | .push _ _ => true
  | .pop now =>
      decide (PriorityQueue.discarded now state.queue.realtime = 0) &&
        (state.queue.tryPop now).1.all fun packet =>
          state.loop.dispatchReports quinn (camouflagedSend padded packet)
  | .flushTimeout => state.loop.flushReports quinn
  | .network _ => true

variable {quinn padded} {state next : DownlinkState Conn}

theorem conserved_push (h : state.Conserved) (packet : Bytes) (now : Nat) :
    (state.push packet now).Conserved := by
  have hlength := state.queue.push_length packet (classify packet) now
  have hpackets := h.packets
  cases hpush : (state.queue.push packet (classify packet) now).1 with
  | true =>
      rw [hpush, if_pos rfl] at hlength
      simp only [push, hpush, if_true]
      refine ⟨?_, h.stale⟩
      simp only [reported, hlength] at hpackets ⊢
      omega
  | false =>
      rw [hpush, if_neg Bool.false_ne_true] at hlength
      simp only [push, hpush, Bool.false_eq_true, if_false]
      refine ⟨?_, h.stale⟩
      simp only [reported, hlength] at hpackets ⊢
      omega

/-- A pop keeps the law exactly if it discards nothing and its packet is
reported. -/
theorem conserved_pop (h : state.Conserved) (now : Nat)
    (hlink : state.loop.link.lost = false) :
    (state.pop quinn padded now).Conserved ↔
      state.reports quinn padded (.pop now) = true := by
  have hlength := state.queue.tryPop_length now
  have hpackets := h.packets
  have hstale := h.stale
  cases hpop : (state.queue.tryPop now).1 with
  | none =>
      rw [hpop, Option.toList_none, List.length_nil] at hlength
      simp only [pop, reports, hpop, Option.all_none, Bool.and_true,
        decide_eq_true_eq]
      constructor
      · intro hnext
        have hnew := hnext.stale
        simp only at hnew
        omega
      · intro hzero
        refine ⟨?_, ?_⟩
        · simp only [reported] at hpackets ⊢
          omega
        · simp only
          omega
  | some packet =>
      rw [hpop, Option.toList_some, List.length_singleton] at hlength
      have hweight := state.loop.dispatch_weight quinn
        (camouflagedSend padded packet)
      have hzero := state.loop.dispatchUncounted_eq_zero quinn
        (camouflagedSend padded packet) hlink
      simp only [pop, reports, hpop, Option.all_some, Bool.and_eq_true,
        decide_eq_true_eq, ← hzero]
      simp only [SendLoop.weight] at hweight
      constructor
      · intro hnext
        have hnew := hnext.stale
        have hsum := hnext.packets
        simp only [reported] at hpackets hsum hnew
        omega
      · intro hreports
        refine ⟨?_, ?_⟩
        · simp only [reported] at hpackets ⊢
          omega
        · simp only
          omega

theorem conserved_flush (h : state.Conserved) :
    ({ state with
      loop := state.loop.flush quinn
      carried := state.carried + state.loop.flushCarried quinn } :
        DownlinkState Conn).Conserved ↔
      state.loop.flushReports quinn = true := by
  have hpackets := h.packets
  have hweight := state.loop.flush_weight quinn
  rw [← state.loop.flushUncounted_eq_zero quinn]
  simp only [SendLoop.weight] at hweight
  constructor
  · intro hnext
    have hsum := hnext.packets
    simp only [reported] at hpackets hsum
    omega
  · intro hzero
    refine ⟨?_, h.stale⟩
    simp only [reported] at hpackets ⊢
    omega

theorem conserved_step_iff {event : DownlinkEvent Conn} (h : state.Conserved)
    (hstep : state.step quinn padded event = some next) :
    next.Conserved ↔ state.reports quinn padded event = true := by
  cases event with
  | push packet now =>
      obtain rfl := Option.some.inj hstep
      exact ⟨fun _ => rfl, fun _ => conserved_push h packet now⟩
  | pop now =>
      rw [step] at hstep
      split at hstep
      · exact absurd hstep (Option.some_ne_none next).symm
      · rename_i hlost
        obtain rfl := Option.some.inj hstep
        exact conserved_pop h now (by simpa using hlost)
  | flushTimeout =>
      rw [step] at hstep
      split at hstep
      · exact absurd hstep (Option.some_ne_none next).symm
      · obtain rfl := Option.some.inj hstep
        exact conserved_flush h
  | network conn =>
      obtain rfl := Option.some.inj hstep
      exact ⟨fun _ => rfl, fun _ => ⟨h.packets, h.stale⟩⟩

theorem conserved_start (capacity : Nat) (conn : Conn) :
    (start capacity conn).Conserved :=
  ⟨rfl, rfl⟩

/-- Over every run of the downlink, whatever QUIC answers: all packets are
accounted for exactly if every step reports what it drops. -/
theorem packet_accounting_iff (quinn : Quinn Conn) (padded : Bool)
    (capacity : Nat) (conn : Conn) (schedule : List (DownlinkEvent Conn))
    (final : DownlinkState Conn)
    (hrun : Machine.run (step quinn padded) (start capacity conn) schedule =
      some final) :
    Machine.Always (step quinn padded) Conserved (start capacity conn)
        schedule ↔
      Machine.Meets (step quinn padded)
        (fun state event => state.reports quinn padded event = true)
        (start capacity conn) schedule := by
  apply Machine.always_iff_meets (fun _ => True) (fun _ _ _ _ _ => trivial) _
    trivial (conserved_start capacity conn) hrun
  intro state event next _ hconserved hstep
  exact conserved_step_iff hconserved hstep

/-- A UDP packet to port 53, of class realtime. -/
def dnsPacket : Bytes :=
  [0x45, 0, 0, 24, 0, 0, 0, 0, 64, 17, 0, 0, 1, 1, 1, 1, 10, 0, 1, 2, 0, 0, 0,
    53]

/-- Two packets in time, sent as one batch. -/
def timelyBatch : List (DownlinkEvent (List Bytes)) :=
  [.push dnsPacket 0, .push dnsPacket 0, .pop 1000, .pop 1000, .flushTimeout]

theorem packet_accounting_timelyBatch :
    Machine.Always (step recordingQuinn false) Conserved (start 64 [])
      timelyBatch := by
  have hmeets : Machine.Meets (step recordingQuinn false)
      (fun state event => state.reports recordingQuinn false event = true)
      (start 64 []) timelyBatch := by
    decide
  have hdone : (Machine.run (step recordingQuinn false) (start 64 [])
      timelyBatch).isSome = true := by
    decide
  obtain ⟨final, hrun⟩ := Option.isSome_iff_exists.mp hdone
  exact (packet_accounting_iff recordingQuinn false 64 [] timelyBatch final
    hrun).mpr hmeets

/-- A connection that gives one answer to every datagram. -/
def answeringQuinn (answer : Except SendDatagramError Unit) : Quinn Unit where
  datagramSendBufferSpace _ := 2097152
  maxDatagramSize _ := some 1200
  sendDatagram _ _ := (answer, ())
  sendDatagramWait _ _ := (some answer, ())

/-- A realtime packet is discarded for its age, a batch of two is refused, and
a batch of two finds the connection lost: the counters say that none, one and
none were dropped. -/
theorem drops_uncounted :
    (Machine.run (step (answeringQuinn (.ok ())) false) (start 64 ())
        [.push dnsPacket 0, .pop 20000000]).map
          (fun state => (state.accepted, state.stale, state.dropsStale,
            state.reported, decide state.Conserved)) =
        some (1, 1, 0, 0, false) ∧
      (Machine.run (step (answeringQuinn (.error .disabled)) false)
        (start 64 ()) [.push dnsPacket 0, .push dnsPacket 0, .pop 0, .pop 0,
          .flushTimeout]).map
          (fun state => (state.accepted, state.carried, state.reported,
            decide state.Conserved)) =
        some (2, 0, 1, false) ∧
      (Machine.run (step (answeringQuinn (.error .connectionLost)) false)
        (start 64 ()) [.push dnsPacket 0, .push dnsPacket 0, .pop 0, .pop 0,
          .flushTimeout]).map
          (fun state => (state.accepted, state.carried, state.reported,
            decide state.Conserved)) =
        some (2, 0, 0, false) :=
  ⟨by decide, by decide, by decide⟩

end DownlinkState

end Redpill
