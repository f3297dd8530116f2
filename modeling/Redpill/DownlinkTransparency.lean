/-
What a QUIC client writes to its TUN for the packets popped from its queue.
Every packet the sender loop takes is pending in the batcher, has reached the
client, in order, or found no room in the send buffer and was dropped by the
loop; on a plain session it arrives unchanged, on a padded session the packets
small enough to be batched keep their padding.
-/
import Redpill.DownlinkRuns

namespace Redpill

open ByteStream

universe u

/-- A packet that the client's transport recovers from the form in which the
sender loop handles it. -/
def Recovered (padded : Bool) (packet : Bytes) : Prop :=
  Routable packet ∧ camouflagedRecv padded (camouflagedSend padded packet) = packet

/-- What the client writes for a popped packet: the padding is applied before
batching and stripped per datagram, so a batched packet keeps it. -/
def downlinkImage (padded : Bool) (packet : Bytes) : Bytes :=
  if (camouflagedSend padded packet).length < batchSizeThreshold then
    camouflagedSend padded packet
  else packet

theorem recovered_plain {packet : Bytes} (hpacket : Routable packet) :
    Recovered false packet :=
  ⟨hpacket, rfl⟩

theorem recovered_padded {packet : Bytes} (hpacket : WellFormedIpv4 packet) :
    Recovered true packet := by
  refine ⟨⟨hpacket.1, hpacket.2.1, hpacket.2.2.2⟩, ?_⟩
  exact stripPadding_of_ipv4 hpacket (padToStandard_extends packet)

theorem camouflagedSend_nibble (padded : Bool) {packet : Bytes}
    (hpacket : Routable packet) :
    versionNibble (camouflagedSend padded packet) = 4 := by
  rw [versionNibble_of_extension hpacket.ne_nil
    (camouflagedSend_extends padded packet)]
  exact hpacket.1

theorem clientWrites_append (flags : UInt8) (paddingEnabled : Bool)
    (first second : List Bytes) :
    clientWrites flags paddingEnabled (first ++ second) =
      clientWrites flags paddingEnabled first ++
        clientWrites flags paddingEnabled second :=
  List.flatMap_append

theorem versionNibble_batchEncode {packets : List Bytes}
    (hsmall : ∀ packet ∈ packets, packet.length < batchSizeThreshold) :
    versionNibble (batchEncode packets) = 0 := by
  cases packets with
  | nil => rfl
  | cons packet rest =>
      have hlen : packet.length < 300 := hsmall packet List.mem_cons_self
      have hhigh : packet.length / 256 = 0 ∨ packet.length / 256 = 1 := by omega
      change UInt8.ofNat (packet.length / 256) >>> 4 = 0
      rcases hhigh with hhigh | hhigh <;> rw [hhigh] <;> rfl

theorem filterMap_writeToTun {packets : List Bytes}
    (hne : ∀ packet ∈ packets, packet ≠ []) :
    packets.filterMap writeToTun = packets := by
  induction packets with
  | nil => rfl
  | cons packet rest ih =>
      have hpacket : packet ≠ [] := hne packet List.mem_cons_self
      have hrest := ih fun p hp => hne p (List.mem_cons_of_mem packet hp)
      simp [writeToTun, hpacket, hrest]

theorem camouflagedRecv_batch {padded : Bool} {packets : List Bytes}
    (hsmall : ∀ packet ∈ packets, packet.length < batchSizeThreshold) :
    camouflagedRecv padded (batchEncode packets) = batchEncode packets := by
  have hnibble := versionNibble_batchEncode hsmall
  cases padded with
  | false => rfl
  | true =>
      apply stripPadding_of_not_ip
      · rw [hnibble]
        decide
      · rw [hnibble]
        decide

/-- A batch arrives as the packets it was made of. -/
theorem clientWrites_batch {padded : Bool} {packets : List Bytes}
    (hne : packets ≠ [])
    (hsmall : ∀ packet ∈ packets,
      packet ≠ [] ∧ packet.length < batchSizeThreshold) :
    clientWrites flagBatching padded [batchEncode packets] = packets := by
  have hshort : ∀ packet ∈ packets, packet.length < batchSizeThreshold :=
    fun packet hpacket => (hsmall packet hpacket).2
  have hnibble := versionNibble_batchEncode hshort
  have hrecv : camouflagedRecv padded (batchEncode packets) =
      batchEncode packets := camouflagedRecv_batch hshort
  have hbatch : batchEncode packets ≠ [] := fun hnil =>
    hne (batchEncode_eq_nil.mp hnil)
  have hdecode : batchDecode (batchEncode packets) = packets := by
    apply batchDecode_batchEncode
    intro packet hpacket
    have hlt : packet.length < 300 := (hsmall packet hpacket).2
    omega
  have hflag : (flagBatching &&& flagBatching != 0) = true := by decide
  simp only [clientWrites, List.flatMap_cons, List.flatMap_nil,
    List.append_nil, hrecv, clientReceive, hbatch, if_false, hflag,
    Bool.true_and, isBatchedDatagram, hnibble, hdecode]
  exact filterMap_writeToTun fun packet hpacket => (hsmall packet hpacket).1

/-- A packet sent on its own arrives as the packet that was popped. -/
theorem clientWrites_direct {padded : Bool} {packet : Bytes}
    (hpacket : Recovered padded packet) :
    clientWrites flagBatching padded [camouflagedSend padded packet] =
      [packet] := by
  obtain ⟨hroutable, hrecv⟩ := hpacket
  have hne := hroutable.ne_nil
  simp [clientWrites, hrecv, clientReceive, hne, isBatchedDatagram,
    hroutable.1, writeToTun]

theorem recovered_of_queued {padded : Bool} {packet : Bytes}
    (hpacket : Queued (padded || padded) packet) : Recovered padded packet := by
  cases padded with
  | false => exact recovered_plain hpacket.1
  | true => exact recovered_padded (hpacket.2 rfl)

theorem camouflagedSend_ne_nil {padded : Bool} {packet : Bytes}
    (hpacket : Routable packet) : camouflagedSend padded packet ≠ [] := by
  intro hnil
  have hnibble := camouflagedSend_nibble padded hpacket
  rw [hnil] at hnibble
  exact absurd hnibble (by decide)

variable {Conn : Type u} {quinn : Quinn Conn} {delivered : Conn → List Bytes}
  {padded : Bool} {downlink next : Downlink Conn} {kept : List Bytes}

namespace Downlink

theorem downlinkImage_eq (padded : Bool) (packet : Bytes) :
    downlinkImage padded packet =
      if isDirect padded packet then packet
      else camouflagedSend padded packet := by
  unfold downlinkImage isDirect
  by_cases hlarge :
      batchSizeThreshold ≤ (camouflagedSend padded packet).length
  · rw [if_neg (by omega), if_pos (by simpa using hlarge)]
  · rw [if_pos (by omega), if_neg (by simpa using hlarge)]

/-- The state of a session that has kept the given packets: those still pending
are small, and the client has written all the others. -/
structure Transparent (delivered : Conn → List Bytes) (padded : Bool)
    (downlink : Downlink Conn) (kept : List Bytes) : Prop where
  running : downlink.loop.link.lost = false
  small : ∀ packet ∈ downlink.loop.batcher.pending,
    packet ≠ [] ∧ packet.length < batchSizeThreshold
  complete :
    clientWrites flagBatching padded (delivered downlink.loop.link.conn) ++
        downlink.loop.batcher.pending =
      kept.map (downlinkImage padded)

/-- A batch takes the pending packets to the client. -/
theorem Transparent.batch (h : downlink.Transparent delivered padded kept)
    {event : SendEvent}
    (haccepted : downlink.batchAccepted quinn padded event = true) :
    clientWrites flagBatching padded
        (downlink.batchSent quinn padded event) ++
      (if downlink.loop.sendsBatch padded event then []
        else downlink.loop.batcher.pending) =
      downlink.loop.batcher.pending := by
  rw [batchSent_of_accepted haccepted]
  cases hsends : downlink.loop.sendsBatch padded event with
  | false => simp [clientWrites]
  | true =>
      have hne : downlink.loop.batcher.pending ≠ [] :=
        downlink.loop.pending_of_sendsBatch hsends
      simpa using clientWrites_batch hne h.small

theorem Transparent.timeout (hquinn : quinn.Records delivered)
    (h : downlink.Transparent delivered padded kept)
    (haccepted : downlink.batchAccepted quinn padded .flushTimeout = true)
    (hrunning : (downlink.loop.step quinn padded
      .flushTimeout).link.lost = false) :
    Transparent delivered padded
      { downlink with loop := downlink.loop.step quinn padded .flushTimeout }
      kept := by
  refine ⟨hrunning, ?_, ?_⟩
  · intro packet hpacket
    rw [timeout_pending] at hpacket
    split at hpacket
    · cases hpacket
    · exact h.small packet hpacket
  · rw [timeout_pending, timeout_sent hquinn, clientWrites_append,
      List.append_assoc, h.batch haccepted]
    exact h.complete

/-- What a packet adds to what the client writes and to what is pending: its
image, unless it finds no room. -/
theorem pop_adds {packet : Bytes}
    (hpacket : Recovered padded packet)
    (hlost : downlink.loop.link.lost = false)
    (haccepted : downlink.accepted quinn padded (.loop (.pop packet)) = true) :
    clientWrites flagBatching padded
        (downlink.directSent quinn padded packet) ++
      (if isDirect padded packet then []
        else [camouflagedSend padded packet]) =
      (downlink.kept quinn padded (.loop (.pop packet))).map
        (downlinkImage padded) := by
  rw [directSent_of_accepted hlost haccepted, Downlink.kept, roomy, taken]
  cases hdirect : isDirect padded packet with
  | false =>
      have hroom : downlink.hasRoom quinn padded packet = true := by
        simp [hasRoom, hdirect]
      simp [hroom, downlinkImage_eq, hdirect, clientWrites]
  | true =>
      cases hroom : downlink.hasRoom quinn padded packet with
      | false => simp [clientWrites]
      | true =>
          simpa [downlinkImage_eq, hdirect] using clientWrites_direct hpacket

theorem Transparent.pop (hquinn : quinn.Records delivered)
    (h : downlink.Transparent delivered padded kept) {packet : Bytes}
    (hpacket : Queued (padded || padded) packet)
    (haccepted : downlink.accepted quinn padded (.loop (.pop packet)) = true)
    (hrunning : (downlink.loop.step quinn padded
      (.pop packet)).link.lost = false) :
    Transparent delivered padded
      { loop := downlink.loop.step quinn padded (.pop packet)
        popped := downlink.popped ++ [packet] }
      (kept ++ downlink.kept quinn padded (.loop (.pop packet))) := by
  have hrecovered := recovered_of_queued hpacket
  have hbatch : downlink.batchAccepted quinn padded (.pop packet) = true :=
    (Bool.and_eq_true _ _ ▸ haccepted).1
  refine ⟨hrunning, ?_, ?_⟩
  · intro data hdata
    rcases step_pending downlink.loop (.pop packet) data hdata with hdata |
      ⟨_, hevent, rfl, hsmall⟩
    · exact h.small data hdata
    · cases hevent
      exact ⟨camouflagedSend_ne_nil hpacket.1, hsmall⟩
  · have hadds := pop_adds hrecovered h.running haccepted
    have hmoved := h.batch hbatch
    rw [pop_pending _ h.running, pop_sent hquinn h.running,
      clientWrites_append, clientWrites_append, List.map_append, ← h.complete,
      ← hadds]
    cases hdirect : isDirect padded packet with
    | false =>
        have hnothing : downlink.directSent quinn padded packet = [] := by
          simp [directSent_of_accepted h.running haccepted, hdirect]
        have hwrites : clientWrites flagBatching padded [] = [] := rfl
        simp only [hnothing, hwrites, List.append_nil, List.append_assoc,
          List.nil_append]
        rw [← List.append_assoc (clientWrites flagBatching padded
          (downlink.batchSent quinn padded (.pop packet))), hmoved]
    | true =>
        rw [held_of_isDirect h.running hdirect, List.append_nil] at hmoved
        rw [held_of_isDirect h.running hdirect, hmoved]
        simp

/-- A step keeps the packets in order and loses none but those without
room. -/
theorem Transparent.step (hquinn : quinn.Records delivered)
    {event : BufferEvent Conn}
    (h : downlink.Transparent delivered padded kept)
    (haccepted : downlink.accepted quinn padded event = true)
    (hstep : downlink.step quinn delivered padded padded event = some next) :
    next.Transparent delivered padded
      (kept ++ downlink.kept quinn padded event) := by
  have hrunning := step_running h.running haccepted hstep
  rcases step_cases hstep with ⟨rfl, rfl⟩ | ⟨packet, rfl, hpacket, _, rfl⟩ |
    ⟨conn, rfl, hsame, rfl⟩
  · simpa [Downlink.kept, taken] using h.timeout hquinn haccepted hrunning
  · exact h.pop hquinn hpacket haccepted hrunning
  · refine ⟨h.running, h.small, ?_⟩
    simpa [Downlink.kept, taken, hsame] using h.complete

/-- Over a whole run, whatever the mix of sizes, timeouts and changes of the
network, the client has written the image of every packet that found room and
is not still pending. -/
theorem transparent_run (hquinn : quinn.Records delivered) {conn : Conn}
    (hconn : delivered conn = []) {schedule : List (BufferEvent Conn)}
    {final : Downlink Conn}
    (hrun : Machine.run (step quinn delivered padded padded) (start conn)
      schedule = some final)
    (haccepted : Machine.Meets (step quinn delivered padded padded)
      (fun downlink event => downlink.accepted quinn padded event = true)
      (start conn) schedule) :
    final.Transparent delivered padded
      (Machine.collect (step quinn delivered padded padded)
        (Downlink.kept quinn padded) (start conn) schedule) := by
  have hstart : (start conn).Transparent delivered padded [] := by
    refine ⟨rfl, by simp [start, SendLoop.start, DatagramBatcher.new], ?_⟩
    simp [start, SendLoop.start, DatagramBatcher.new, hconn, clientWrites]
  refine Machine.collect_invariant (Transparent delivered padded) ?_ hstart
    haccepted hrun
  intro downlink event next kept h haccepted hstep
  exact h.step hquinn haccepted hstep

end Downlink

open Downlink

/-- Downlink transparency of a plain session on which QUIC delivers what it is
handed: the packets written by the client, followed by those pending in the
batcher, are the popped packets without those that found no room.  They are all
of the popped packets exactly if each of them found room. -/
theorem plain_downlink_transparent (hquinn : quinn.Records delivered)
    {conn : Conn} (hconn : delivered conn = [])
    {schedule : List (BufferEvent Conn)} {final : Downlink Conn}
    (hrun : Machine.run (step quinn delivered false false) (start conn)
      schedule = some final)
    (haccepted : Machine.Meets (step quinn delivered false false)
      (fun downlink event => downlink.accepted quinn false event = true)
      (start conn) schedule) :
    clientWrites flagBatching false (delivered final.loop.link.conn) ++
          final.loop.batcher.pending =
        Machine.collect (step quinn delivered false false)
          (Downlink.kept quinn false) (start conn) schedule ∧
      (clientWrites flagBatching false (delivered final.loop.link.conn) ++
            final.loop.batcher.pending = final.popped ↔
        Machine.Meets (step quinn delivered false false)
          (fun downlink event => downlink.roomy quinn false event = true)
          (start conn) schedule) := by
  have hcomplete := (transparent_run hquinn hconn hrun haccepted).complete
  have himage : downlinkImage false = id := by
    funext packet
    simp [downlinkImage, camouflagedSend]
  rw [himage, List.map_id] at hcomplete
  rw [hcomplete]
  exact ⟨rfl, kept_eq_popped_iff hrun⟩

/-- An IPv4 packet of the given length with a matching total length. -/
def samplePacket (len : Nat) : Bytes :=
  [0x45, 0] ++ u16ToBeBytes len ++ List.replicate (len - 4) 7

theorem samplePacket_length {len : Nat} (hlow : 20 ≤ len) :
    (samplePacket len).length = len := by
  simp [samplePacket]
  omega

theorem samplePacket_wellFormed {len : Nat} (hlow : 20 ≤ len)
    (hhigh : len < 65536) : WellFormedIpv4 (samplePacket len) := by
  have hlen := samplePacket_length hlow
  refine ⟨?_, by omega, ?_, by omega⟩
  · change (0x45 : UInt8) >>> 4 = 4
    decide
  · rw [hlen]
    rfl

/-- A packet of the same kind, marked for expedited forwarding. -/
def realtimePacket (len : Nat) : Bytes :=
  [0x45, 0xB8] ++ u16ToBeBytes len ++ List.replicate (len - 4) 7

/-- A connection with so many bytes of free buffer and the datagrams that it
was given.  A wait for room is in vain. -/
def boundedQuinn : Quinn (Nat × List Bytes) where
  datagramSendBufferSpace conn := conn.1
  maxDatagramSize _ := some 1200
  sendDatagram conn data :=
    if 1200 < data.length then (.error .tooLarge, conn)
    else (.ok (), conn.1 - data.length, conn.2 ++ [data])
  sendDatagramWait conn _ := (none, conn)

theorem boundedQuinn_records : boundedQuinn.Records Prod.snd where
  send conn data := by
    by_cases hlarge : 1200 < data.length <;>
      simp [boundedQuinn, hlarge, acceptedDatagram]
  wait conn data := by simp [boundedQuinn]

/-- A small packet, a realtime packet that fits behind its batch and one that
does not, then the network sends what is in the buffer and a small packet
follows. -/
def congestedRun : List (BufferEvent (Nat × List Bytes)) :=
  [.loop (.pop (samplePacket 40)), .loop (.pop (realtimePacket 320)),
    .loop (.pop (realtimePacket 310)),
    .drain (2000, [batchEncode [samplePacket 40], realtimePacket 320]),
    .loop (.pop (samplePacket 60)), .loop .flushTimeout]

theorem plain_downlink_transparent_congested :
    (Machine.run (step boundedQuinn Prod.snd false false)
      (start (400, [])) congestedRun).map (fun final =>
        clientWrites flagBatching false final.loop.link.conn.2 ++
          final.loop.batcher.pending) =
      some [samplePacket 40, realtimePacket 320, samplePacket 60] := by
  have hsome : (Machine.run (step boundedQuinn Prod.snd false false)
      (start (400, [])) congestedRun).isSome = true := by
    decide +kernel
  have haccepted : Machine.Meets (step boundedQuinn Prod.snd false false)
      (fun downlink event => downlink.accepted boundedQuinn false event = true)
      (start (400, [])) congestedRun := by
    decide +kernel
  have hkept : Machine.collect (step boundedQuinn Prod.snd false false)
      (Downlink.kept boundedQuinn false) (start (400, [])) congestedRun =
      [samplePacket 40, realtimePacket 320, samplePacket 60] := by
    decide +kernel
  obtain ⟨final, hfinal⟩ := Option.isSome_iff_exists.mp hsome
  have hwrites := (plain_downlink_transparent boundedQuinn_records rfl hfinal
    haccepted).1
  rw [hfinal, Option.map_some, hwrites, hkept]

/-- 319 bytes are free when a realtime packet of 320 bytes is popped: the loop
drops it, and it is neither written nor pending. -/
theorem realtime_dropped_without_room :
    Routable (realtimePacket 320) ∧ boundedQuinn.Records Prod.snd ∧
      Machine.Meets (step boundedQuinn Prod.snd false false)
        (fun downlink event => downlink.accepted boundedQuinn false event = true)
        (start (319, [])) [.loop (.pop (realtimePacket 320))] ∧
      (Machine.run (step boundedQuinn Prod.snd false false)
        (start (319, [])) [.loop (.pop (realtimePacket 320))]).map
          (fun final => (final.popped,
            clientWrites flagBatching false final.loop.link.conn.2,
            final.loop.batcher.pending)) =
        some ([realtimePacket 320], [], []) := by
  refine ⟨?_, boundedQuinn_records, ?_, ?_⟩ <;> decide +kernel

/-- The packets that keep their length on the padded downlink: those above
the batched sizes, and those that fill a batched size exactly. -/
def KeepsLength (packet : Bytes) : Prop :=
  packet.length = 128 ∨ packet.length = 256 ∨ 256 < packet.length

theorem paddingTarget_of_le_128 {len : Nat} (h : len ≤ 128) :
    paddingTarget len = 128 := by
  simp [paddingTarget, standardSizes, h]

theorem paddingTarget_of_le_256 {len : Nat} (hlow : 128 < len)
    (h : len ≤ 256) : paddingTarget len = 256 := by
  have hnot : ¬ len ≤ 128 := by omega
  simp [paddingTarget, standardSizes, h, hnot]

theorem lt_paddingTarget_of_lt {len : Nat} (h : 256 < len) :
    300 ≤ paddingTarget len := by
  by_cases h512 : len ≤ 512
  · have h128 : ¬ len ≤ 128 := by omega
    have h256 : ¬ len ≤ 256 := by omega
    simp [paddingTarget, standardSizes, h128, h256, h512]
  · have hle := le_paddingTarget len
    omega

theorem downlinkImage_padded_eq_self_iff (packet : Bytes) :
    downlinkImage true packet = packet ↔ KeepsLength packet := by
  have hpad : padToStandard packet = packet ↔
      paddingTarget packet.length = packet.length := by
    constructor
    · intro heq
      rw [← padToStandard_length, heq]
    · intro heq
      simp [padToStandard, heq]
  have himage : downlinkImage true packet =
      if paddingTarget packet.length < 300 then padToStandard packet
      else packet := by
    simp [downlinkImage, camouflagedSend, padToStandard_length,
      batchSizeThreshold]
  rw [himage, KeepsLength]
  by_cases h128 : packet.length ≤ 128
  · rw [paddingTarget_of_le_128 h128] at hpad ⊢
    rw [if_pos (by omega), hpad]
    omega
  · by_cases h256 : packet.length ≤ 256
    · rw [paddingTarget_of_le_256 (by omega) h256] at hpad ⊢
      rw [if_pos (by omega), hpad]
      omega
    · have hlarge := lt_paddingTarget_of_lt (Nat.lt_of_not_le h256)
      rw [if_neg (by omega)]
      simp only [true_iff]
      omega

/-- The last flush leaves nothing pending. -/
theorem pending_of_flushed {conn : Conn} {schedule : List (BufferEvent Conn)}
    {final : Downlink Conn} {padding : Bool}
    (hrun : Machine.run (step quinn delivered padded padding) (start conn)
      (schedule ++ [.loop .flushTimeout]) = some final)
    (hrunning : final.loop.link.lost = false) :
    final.loop.batcher.pending = [] := by
  rw [Machine.run_append, Option.bind_eq_some_iff] at hrun
  obtain ⟨before, _, hlast⟩ := hrun
  have hfinal : final =
      { before with loop := before.loop.step quinn padded .flushTimeout } := by
    simpa [Machine.run, step, eq_comm] using hlast
  subst hfinal
  cases hlost : before.loop.link.lost with
  | true => simp [SendLoop.step, hlost] at hrunning
  | false =>
      rw [timeout_pending]
      cases hpending : before.loop.batcher.hasPending with
      | true => simp [SendLoop.sendsBatch, hlost, hpending]
      | false =>
          have hnil : before.loop.batcher.pending = [] := by
            simpa [DatagramBatcher.hasPending] using hpending
          rw [hnil, ite_self]

/-- The padded downlink delivers the original packets exactly when each of
them keeps its length and finds room.  The last flush empties the batcher. -/
theorem padded_downlink_transparent_iff (hquinn : quinn.Records delivered)
    {conn : Conn} (hconn : delivered conn = [])
    {schedule : List (BufferEvent Conn)} {final : Downlink Conn}
    (hrun : Machine.run (step quinn delivered true true) (start conn)
      (schedule ++ [.loop .flushTimeout]) = some final)
    (haccepted : Machine.Meets (step quinn delivered true true)
      (fun downlink event => downlink.accepted quinn true event = true)
      (start conn) (schedule ++ [.loop .flushTimeout])) :
    clientWrites flagBatching true (delivered final.loop.link.conn) =
        final.popped ↔
      (∀ packet ∈ final.popped, KeepsLength packet) ∧
        Machine.Meets (step quinn delivered true true)
          (fun downlink event => downlink.roomy quinn true event = true)
          (start conn) (schedule ++ [.loop .flushTimeout]) := by
  have htransparent := transparent_run hquinn hconn hrun haccepted
  have hcomplete := htransparent.complete
  rw [pending_of_flushed hrun htransparent.running, List.append_nil] at hcomplete
  rw [hcomplete, ← kept_eq_popped_iff hrun]
  have hsub := kept_sublist_popped hrun
  generalize Machine.collect (step quinn delivered true true)
    (Downlink.kept quinn true) (start conn)
    (schedule ++ [.loop .flushTimeout]) = kept at hsub
  have himage : ∀ packet ∈ final.popped,
      downlinkImage true packet = packet ↔ KeepsLength packet :=
    fun packet _ => downlinkImage_padded_eq_self_iff packet
  constructor
  · intro hmap
    have hlength := congrArg List.length hmap
    rw [List.length_map] at hlength
    have hkept : kept = final.popped := hsub.eq_of_length hlength
    rw [hkept] at hmap
    have heach := List.map_eq_map_iff.mp (hmap.trans (List.map_id _).symm)
    exact ⟨fun packet hpacket =>
      (himage packet hpacket).mp (heach packet hpacket), hkept⟩
  · intro ⟨hkeeps, hkept⟩
    rw [hkept]
    conv_rhs => rw [← List.map_id final.popped]
    apply List.map_congr_left
    intro packet hpacket
    exact (himage packet hpacket).mpr (hkeeps packet hpacket)

def exactSizes : List (BufferEvent (List Bytes)) :=
  [.loop (.pop (samplePacket 256)), .loop (.pop (samplePacket 300))] ++
    [.loop .flushTimeout]

/-- A 256-byte packet and a 300-byte packet cross the padded downlink. -/
theorem padded_downlink_transparent_exact_sizes :
    (Machine.run (step recordingQuinn id true true) (start [])
        exactSizes).map (fun final =>
          clientWrites flagBatching true final.loop.link.conn) =
      some [samplePacket 256, samplePacket 300] := by
  have hsome : (Machine.run (step recordingQuinn id true true) (start [])
      exactSizes).isSome = true := by
    decide +kernel
  have haccepted : Machine.Meets (step recordingQuinn id true true)
      (fun downlink event => downlink.accepted recordingQuinn true event = true)
      (start []) exactSizes := by
    decide +kernel
  have hroomy : Machine.Meets (step recordingQuinn id true true)
      (fun downlink event => downlink.roomy recordingQuinn true event = true)
      (start []) exactSizes := by
    decide +kernel
  obtain ⟨final, hfinal⟩ := Option.isSome_iff_exists.mp hsome
  have hpopped : final.popped = [samplePacket 256, samplePacket 300] :=
    (popped_eq_collect hfinal).trans (by decide +kernel)
  have hkeeps : ∀ packet ∈ final.popped, KeepsLength packet := by
    rw [hpopped]
    simp only [List.forall_mem_cons, List.not_mem_nil, false_implies,
      implies_true, and_true, KeepsLength,
      samplePacket_length (by decide : 20 ≤ 256),
      samplePacket_length (by decide : 20 ≤ 300)]
    decide
  have hwrites := (padded_downlink_transparent_iff recordingQuinn_records rfl
    hfinal haccepted).mpr ⟨hkeeps, hroomy⟩
  rw [hfinal, Option.map_some, ← hpopped]
  exact congrArg some hwrites

/-- A 60-byte packet reaches the client's TUN with its padding: 128 bytes. -/
theorem padded_downlink_keeps_padding :
    WellFormedIpv4 (samplePacket 60) ∧
      Machine.Meets (step recordingQuinn id true true)
        (fun downlink event => (downlink.accepted recordingQuinn true event &&
          downlink.roomy recordingQuinn true event) = true)
        (start []) [.loop (.pop (samplePacket 60)), .loop .flushTimeout] ∧
      (Machine.run (step recordingQuinn id true true) (start [])
        [.loop (.pop (samplePacket 60)), .loop .flushTimeout]).map
          (fun final => (final.popped,
            clientWrites flagBatching true final.loop.link.conn)) =
        some ([samplePacket 60], [padToStandard (samplePacket 60)]) ∧
      padToStandard (samplePacket 60) ≠ samplePacket 60 := by
  decide +kernel

end Redpill
