/-
Batching and the clients that understand it.  The server announces batching in
the last byte of the session configuration, which a client of the first version
does not read, and it batches for every QUIC session.  QUIC may lose, repeat
and reorder datagrams: what counts is what a client makes of each of them.
-/
import Redpill.Accounting
import Redpill.DownlinkTransparency

namespace Redpill

open ByteStream

universe u

/-- A client of the first version reads the configuration without its last
byte. -/
inductive ConfigReader where
  | v1
  | v2
deriving Repr, DecidableEq

namespace ConfigReader

def len : ConfigReader → Nat
  | .v1 => sessionConfigLenV1
  | .v2 => sessionConfigLen

def read (reader : ConfigReader) (data : Bytes) : Option SessionConfig :=
  SessionConfig.decode (data.take reader.len)

end ConfigReader

/-- The server pads the packets of an h3 session. -/
def Handler.padded (handler : Handler) : Bool := decide (handler = .vpnH3)

/-- There is no padding in a packet that the sender has handled. -/
def unpadded (padded : Bool) (packet : Bytes) : Bool :=
  !padded || decide (stripPadding packet = packet)

namespace Downlink

variable {Conn : Type u} (quinn : Quinn Conn) (sent : Conn → List Bytes)
  (padded padding : Bool)

/-- Whichever of the datagrams arrive, and in whatever order: all that the
client writes to its TUN are packets that were popped. -/
def Understood (flags : UInt8) (downlink : Downlink Conn) : Prop :=
  ∀ received : List Bytes,
    (∀ data ∈ received, data ∈ sent downlink.loop.link.conn) →
      ∀ write ∈ clientWrites flags padding received,
        write ∈ downlink.popped

/-- A batch leaves only for a client that reads the flags, and without padding
in it; padding is sent only to a client that strips it. -/
def understands (reader : ConfigReader) (downlink : Downlink Conn) :
    BufferEvent Conn → Bool
  | .loop .flushTimeout =>
      downlink.batchSent quinn padded .flushTimeout = [] ||
        decide (reader = .v2) &&
          downlink.loop.batcher.pending.all (unpadded padded)
  | .loop (.pop packet) =>
      (downlink.batchSent quinn padded (.pop packet) = [] ||
        decide (reader = .v2) &&
          downlink.loop.batcher.pending.all (unpadded padded)) &&
      (downlink.directSent quinn padded packet = [] || padding ||
        unpadded padded (camouflagedSend padded packet))
  | .drain _ => true

end Downlink

section Reading

/-- A client of the first version sees no flags. -/
theorem ConfigReader.read_encode (reader : ConfigReader)
    (config : SessionConfig) :
    reader.read config.encode = some
      { config with flags := if reader = .v2 then config.flags else 0 } := by
  obtain ⟨clientIp, serverIp, dnsIp, mtu, hmtu, keepaliveSecs, flags⟩ := config
  cases reader with
  | v1 =>
      simp [ConfigReader.read, ConfigReader.len, SessionConfig.decode,
        SessionConfig.encode, Ipv4Addr.octets, u16ToBeBytes, sessionConfigLen,
        sessionConfigLenV1, msgSessionConfig, u16FromBeBytes_ofNat hmtu]
  | v2 => exact SessionConfig.decode_encode _

end Reading

section Writes

variable {batching : Bool} {packets : List Bytes}

/-- A client that does not know of batches takes one for a packet. -/
theorem clientReceive_batch_unread (hne : packets ≠ []) :
    clientReceive false (batchEncode packets) = [batchEncode packets] := by
  have hbatch : batchEncode packets ≠ [] := fun hnil =>
    hne (batchEncode_eq_nil.mp hnil)
  simp [clientReceive, hbatch, writeToTun]

/-- A packet is no batch, whatever the client knows. -/
theorem clientReceive_packet {packet : Bytes}
    (hnibble : versionNibble packet = 4) :
    clientReceive batching packet = [packet] := by
  have hne : packet ≠ [] := by
    rintro rfl
    exact absurd hnibble (by decide)
  simp [clientReceive, hne, isBatchedDatagram, hnibble, writeToTun]

end Writes

section Sent

variable {Conn : Type u} {quinn : Quinn Conn} {sent : Conn → List Bytes}
  {padded padding : Bool}

namespace Downlink

variable {downlink next : Downlink Conn} {packet : Bytes}

/-- What the client writes for one datagram are packets that were popped. -/
def Fine (flags : UInt8) (padding : Bool) (popped : List Bytes)
    (data : Bytes) : Prop :=
  ∀ write ∈ clientReceive (flags &&& flagBatching != 0)
    (camouflagedRecv padding data), write ∈ popped

theorem understood_iff {flags : UInt8} :
    downlink.Understood sent padding flags ↔
      ∀ data ∈ sent downlink.loop.link.conn,
        Fine flags padding downlink.popped data := by
  constructor
  · intro h data hdata write hwrite
    apply h [data]
    · intro other hother
      rw [List.mem_singleton.mp hother]
      exact hdata
    · simpa [clientWrites] using hwrite
  · intro h received hreceived write hwrite
    obtain ⟨data, hdata, hmem⟩ := List.mem_flatMap.mp hwrite
    exact h data (hreceived data hdata) write hmem

theorem Fine.mono {flags : UInt8} {popped more : List Bytes} {data : Bytes}
    (h : Fine flags padding popped data) :
    Fine flags padding (popped ++ more) data := by
  intro write hwrite
  exact List.mem_append_left more (h write hwrite)

theorem Queued.image_nibble {shaped : Bool} (hpacket : Queued shaped packet) :
    versionNibble (camouflagedSend padded packet) = 4 :=
  camouflagedSend_nibble padded hpacket.1

/-- The form that the sender gives a packet is itself a packet that was popped
only if there is no padding in it. -/
theorem image_mem_popped {popped : List Bytes}
    (hqueued : ∀ packet ∈ popped, Queued (padded || padding) packet)
    (hpacket : packet ∈ popped) :
    camouflagedSend padded packet ∈ popped ↔
      unpadded padded (camouflagedSend padded packet) = true := by
  cases padded with
  | false => simpa [camouflagedSend, unpadded] using hpacket
  | true =>
      have hwell : ∀ other ∈ popped, WellFormedIpv4 other :=
        fun other hother => (hqueued other hother).2 rfl
      have hstrip : stripPadding (camouflagedSend true packet) = packet :=
        stripPadding_of_ipv4 (hwell packet hpacket)
          (camouflagedSend_extends true packet)
      simp only [unpadded, Bool.not_true, Bool.false_or, decide_eq_true_eq]
      constructor
      · intro hmem
        exact stripPadding_of_ipv4 (hwell _ hmem) List.prefix_rfl
      · intro hsame
        rw [← hsame, hstrip]
        exact hpacket

/-- A packet on its own is written without the padding, or with it by a client
that does not strip it. -/
theorem fine_direct {flags : UInt8} {popped : List Bytes}
    (hqueued : ∀ packet ∈ popped, Queued (padded || padding) packet)
    (hpacket : packet ∈ popped) :
    Fine flags padding popped (camouflagedSend padded packet) ↔
      (padding || unpadded padded (camouflagedSend padded packet)) = true := by
  have hnibble : versionNibble (camouflagedSend padded packet) = 4 :=
    Queued.image_nibble (hqueued packet hpacket)
  unfold Fine
  cases padding with
  | false =>
      rw [show camouflagedRecv false (camouflagedSend padded packet) =
        camouflagedSend padded packet from rfl, clientReceive_packet hnibble,
        Bool.false_or, ← image_mem_popped hqueued hpacket]
      simp
  | true =>
      have hwell : WellFormedIpv4 packet :=
        (hqueued packet hpacket).2 (Bool.or_true padded)
      have hstrip : camouflagedRecv true (camouflagedSend padded packet) =
          packet :=
        stripPadding_of_ipv4 hwell (camouflagedSend_extends padded packet)
      rw [hstrip, clientReceive_packet hwell.1]
      simpa using hpacket

/-- What is pending was popped, and is small. -/
structure Pending (padded padding : Bool) (downlink : Downlink Conn) :
    Prop where
  queued : ∀ packet ∈ downlink.popped, Queued (padded || padding) packet
  small : ∀ data ∈ downlink.loop.batcher.pending,
    data.length < batchSizeThreshold
  image : ∀ data ∈ downlink.loop.batcher.pending,
    ∃ packet ∈ downlink.popped, data = camouflagedSend padded packet

/-- A batch is written as packets exactly by a client that reads the flags, and
if there is no padding in it. -/
theorem fine_batch {flags : UInt8} {reader : ConfigReader} {more : List Bytes}
    (hflags : flags = if reader = .v2 then flagBatching else 0)
    (hpending : downlink.Pending padded padding)
    (hmore : ∀ packet ∈ more, Queued (padded || padding) packet)
    (hne : downlink.loop.batcher.pending ≠ []) :
    Fine flags padding (downlink.popped ++ more)
        (batchEncode downlink.loop.batcher.pending) ↔
      (decide (reader = .v2) &&
        downlink.loop.batcher.pending.all (unpadded padded)) = true := by
  have hqueued : ∀ packet ∈ downlink.popped ++ more,
      Queued (padded || padding) packet :=
    List.forall_mem_append.mpr ⟨hpending.queued, hmore⟩
  have himage : ∀ data ∈ downlink.loop.batcher.pending,
      data ∈ downlink.popped ++ more ↔ unpadded padded data = true := by
    intro data hdata
    obtain ⟨packet, hpacket, rfl⟩ := hpending.image data hdata
    exact image_mem_popped hqueued (List.mem_append_left more hpacket)
  cases reader with
  | v1 =>
      rw [if_neg (by decide)] at hflags
      subst hflags
      have hnot : batchEncode downlink.loop.batcher.pending ∉
          downlink.popped ++ more := by
        intro hmem
        have hnibble := (hqueued _ hmem).1.1
        rw [versionNibble_batchEncode hpending.small] at hnibble
        exact absurd hnibble (by decide)
      simpa [Fine, camouflagedRecv_batch hpending.small,
        clientReceive_batch_unread hne] using hnot
  | v2 =>
      rw [if_pos rfl] at hflags
      subst hflags
      have hparts : ∀ data ∈ downlink.loop.batcher.pending,
          data ≠ [] ∧ data.length < batchSizeThreshold := by
        intro data hdata
        refine ⟨?_, hpending.small data hdata⟩
        obtain ⟨packet, hpacket, rfl⟩ := hpending.image data hdata
        exact camouflagedSend_ne_nil (hpending.queued packet hpacket).1
      have hbatch : clientWrites flagBatching padding
          [batchEncode downlink.loop.batcher.pending] =
          downlink.loop.batcher.pending := clientWrites_batch hne hparts
      have hwrites : clientReceive (flagBatching &&& flagBatching != 0)
          (camouflagedRecv padding
            (batchEncode downlink.loop.batcher.pending)) =
          downlink.loop.batcher.pending := by
        simpa [clientWrites] using hbatch
      rw [Fine, hwrites]
      simp only [decide_true, Bool.true_and, List.all_eq_true]
      exact forall₂_congr himage

theorem Pending.timeout (hpending : downlink.Pending padded padding) :
    Pending padded padding { downlink with
      loop := downlink.loop.step quinn padded .flushTimeout } := by
  have hold : ∀ data ∈ (downlink.loop.step quinn padded
      .flushTimeout).batcher.pending,
      data ∈ downlink.loop.batcher.pending := by
    intro data hdata
    rcases step_pending downlink.loop .flushTimeout data hdata with hdata |
      ⟨_, hevent, _⟩
    · exact hdata
    · cases hevent
  exact ⟨hpending.queued,
    fun data hdata => hpending.small data (hold data hdata),
    fun data hdata => hpending.image data (hold data hdata)⟩

theorem Pending.pop (hpending : downlink.Pending padded padding)
    (hpacket : Queued (padded || padding) packet) :
    Pending padded padding
      { loop := downlink.loop.step quinn padded (.pop packet)
        popped := downlink.popped ++ [packet] } := by
  refine ⟨?_, ?_, ?_⟩
  · exact List.forall_mem_append.mpr
      ⟨hpending.queued, List.forall_mem_singleton.mpr hpacket⟩
  · intro data hdata
    rcases step_pending downlink.loop (.pop packet) data hdata with hdata |
      ⟨_, _, _, hsmall⟩
    · exact hpending.small data hdata
    · exact hsmall
  · intro data hdata
    rcases step_pending downlink.loop (.pop packet) data hdata with hdata |
      ⟨other, hevent, rfl, _⟩
    · obtain ⟨origin, horigin, himage⟩ := hpending.image data hdata
      exact ⟨origin, List.mem_append_left _ horigin, himage⟩
    · cases hevent
      exact ⟨packet, List.mem_append_right _ List.mem_cons_self, rfl⟩

theorem pending_step {event : BufferEvent Conn}
    (hpending : downlink.Pending padded padding)
    (hstep : downlink.step quinn sent padded padding event = some next) :
    next.Pending padded padding := by
  rcases step_cases hstep with ⟨_, rfl⟩ | ⟨packet, _, hpacket, _, rfl⟩ |
    ⟨conn, _, _, rfl⟩
  · exact hpending.timeout
  · exact hpending.pop hpacket
  · exact ⟨hpending.queued, hpending.small, hpending.image⟩

/-- What is new in a step is fine exactly if the batch and the packet are. -/
theorem fine_append {flags : UInt8} {popped old : List Bytes}
    (more batch direct : List Bytes)
    (hold : ∀ data ∈ old, Fine flags padding popped data) :
    (∀ data ∈ old ++ (batch ++ direct),
        Fine flags padding (popped ++ more) data) ↔
      (∀ data ∈ batch, Fine flags padding (popped ++ more) data) ∧
        ∀ data ∈ direct, Fine flags padding (popped ++ more) data := by
  rw [List.forall_mem_append, List.forall_mem_append]
  constructor
  · intro h
    exact h.2
  · intro h
    exact ⟨fun data hdata => (hold data hdata).mono, h⟩

/-- The batch of a round is fine exactly if the client understands it. -/
theorem fine_batchSent {flags : UInt8} {reader : ConfigReader}
    {more : List Bytes} (quinn : Quinn Conn) (event : SendEvent)
    (hflags : flags = if reader = .v2 then flagBatching else 0)
    (hpending : downlink.Pending padded padding)
    (hmore : ∀ packet ∈ more, Queued (padded || padding) packet) :
    (∀ data ∈ downlink.batchSent quinn padded event,
        Fine flags padding (downlink.popped ++ more) data) ↔
      (decide (downlink.batchSent quinn padded event = []) ||
        decide (reader = .v2) &&
          downlink.loop.batcher.pending.all (unpadded padded)) = true := by
  rcases downlink.batchSent_cases quinn padded event with hnone | ⟨hne, hbatch⟩
  · simp [hnone]
  · rw [hbatch, List.forall_mem_singleton,
      fine_batch hflags hpending hmore hne]
    simp

theorem fine_directSent {flags : UInt8}
    (hpending : downlink.Pending padded padding)
    (hpacket : Queued (padded || padding) packet) :
    (∀ data ∈ downlink.directSent quinn padded packet,
        Fine flags padding (downlink.popped ++ [packet]) data) ↔
      (decide (downlink.directSent quinn padded packet = []) || padding ||
        unpadded padded (camouflagedSend padded packet)) = true := by
  have hqueued : ∀ other ∈ downlink.popped ++ [packet],
      Queued (padded || padding) other :=
    List.forall_mem_append.mpr
      ⟨hpending.queued, List.forall_mem_singleton.mpr hpacket⟩
  have hmem : packet ∈ downlink.popped ++ [packet] :=
    List.mem_append_right _ List.mem_cons_self
  rcases downlink.directSent_cases quinn padded packet with hnone | hdirect
  · simp [hnone]
  · rw [hdirect, List.forall_mem_singleton, fine_direct hqueued hmem]
    simp

/-- A step leaves the client with packets only exactly if the client
understands what is sent in it. -/
theorem understood_step (hquinn : quinn.Records sent) {flags : UInt8}
    {reader : ConfigReader}
    (hflags : flags = if reader = .v2 then flagBatching else 0)
    {event : BufferEvent Conn}
    (hpending : downlink.Pending padded padding)
    (hunderstood : downlink.Understood sent padding flags)
    (hstep : downlink.step quinn sent padded padding event = some next) :
    next.Understood sent padding flags ↔
      downlink.understands quinn padded padding reader event = true := by
  rw [understood_iff] at hunderstood
  rcases step_cases hstep with ⟨rfl, rfl⟩ |
    ⟨packet, rfl, hpacket, hlost, rfl⟩ | ⟨conn, rfl, hsame, rfl⟩
  · have hnone : ∀ packet ∈ ([] : List Bytes),
        Queued (padded || padding) packet := by simp
    have hbatch := fine_batchSent quinn .flushTimeout hflags hpending hnone
    have hsplit := fine_append []
      (downlink.batchSent quinn padded .flushTimeout) [] hunderstood
    rw [understood_iff, timeout_sent hquinn]
    rw [List.append_nil, hbatch] at hsplit
    simpa [understands] using hsplit
  · have hsplit := fine_append [packet]
      (downlink.batchSent quinn padded (.pop packet))
      (downlink.directSent quinn padded packet) hunderstood
    rw [understood_iff, pop_sent hquinn hlost, hsplit,
      fine_batchSent quinn (.pop packet) hflags hpending
        (List.forall_mem_singleton.mpr hpacket),
      fine_directSent hpending hpacket]
    simp [understands]
  · rw [understood_iff, hsame]
    simpa [understands] using hunderstood

theorem pending_start (conn : Conn) :
    (start conn).Pending padded padding := by
  refine ⟨?_, ?_, ?_⟩
  · intro packet hpacket
    cases hpacket
  · intro data hdata
    cases hdata
  · intro data hdata
    cases hdata

/-- A client of a QUIC session writes popped packets only, exactly if every
batch that QUIC takes meets a client that reads all 17 bytes of the
configuration and has no padding in it, and every other packet that is taken
has none or meets a client that strips it. -/
theorem writes_packets_iff_understands (hquinn : quinn.Records sent)
    (server : ServerState) {handler : Handler}
    (hquic : handler = .vpn ∨ handler = .vpnH3) (clientIp : Ipv4Addr)
    (reader : ConfigReader) (padding : Bool) {conn : Conn}
    (hconn : sent conn = []) {schedule : List (BufferEvent Conn)}
    {final : Downlink Conn}
    (hrun : Machine.run (step quinn sent handler.padded padding)
      (start conn) schedule = some final) :
    ∃ config,
      reader.read (server.sessionConfig handler clientIp).encode =
        some config ∧
      (Machine.Always (step quinn sent handler.padded padding)
          (Understood sent padding config.flags) (start conn) schedule ↔
        Machine.Meets (step quinn sent handler.padded padding)
          (fun downlink event => downlink.understands quinn handler.padded
            padding reader event = true)
          (start conn) schedule) := by
  refine ⟨_, reader.read_encode _, ?_⟩
  have hflags : handler.flags = flagBatching := by
    rcases hquic with rfl | rfl <;> rfl
  apply Machine.always_iff_meets (Pending handler.padded padding) _ _
    (pending_start conn) _ hrun
  · intro downlink event next hpending hstep
    exact pending_step hpending hstep
  · intro downlink event next hpending hunderstood hstep
    refine understood_step hquinn ?_ hpending hunderstood hstep
    simp only [ServerState.sessionConfig, hflags]
  · rw [understood_iff]
    intro data hdata
    rw [show (start conn).loop.link.conn = conn from rfl, hconn] at hdata
    cases hdata

end Downlink

end Sent

namespace Downlink

/-- Two small packets with a flush after each of them, and a large one. -/
def mixedSizes : List (BufferEvent (List Bytes)) :=
  [.loop (.pop (samplePacket 40)), .loop .flushTimeout,
    .loop (.pop (samplePacket 60)), .loop .flushTimeout,
    .loop (.pop (samplePacket 320))]

theorem writes_packets_iff_understands_v2 :
    ∃ config,
      ConfigReader.v2.read
          (zeroServer.state.sessionConfig .vpn ⟨10, 0, 1, 2⟩).encode =
        some config ∧
      Machine.Always (step recordingQuinn id false false)
        (Understood id false config.flags) (start []) mixedSizes := by
  have hmeets : Machine.Meets (step recordingQuinn id false false)
      (fun downlink event => downlink.understands recordingQuinn false false
        .v2 event = true) (start []) mixedSizes := by
    decide +kernel
  have hrun : (Machine.run (step recordingQuinn id false false) (start [])
      mixedSizes).isSome = true := by
    decide +kernel
  obtain ⟨final, hfinal⟩ := Option.isSome_iff_exists.mp hrun
  obtain ⟨config, hread, hiff⟩ := writes_packets_iff_understands
    recordingQuinn_records zeroServer.state (Or.inl rfl) ⟨10, 0, 1, 2⟩ .v2
    false rfl hfinal
  exact ⟨config, hread, hiff.mpr hmeets⟩

/-- A client of the first version, on a session without padding: it writes the
batch, length bytes and all, to its TUN. -/
theorem batch_written_v1 :
    (ConfigReader.v1.read
        (zeroServer.state.sessionConfig .vpn ⟨10, 0, 1, 2⟩).encode).map
        SessionConfig.flags = some 0 ∧
      (Machine.run (step recordingQuinn id false false) (start [])
        [.loop (.pop (samplePacket 40)), .loop .flushTimeout]).map
          (fun downlink => (downlink.popped,
            clientWrites 0 false downlink.loop.link.conn)) =
        some ([samplePacket 40], [batchEncode [samplePacket 40]]) ∧
      batchEncode [samplePacket 40] ∉ [samplePacket 40] := by
  decide +kernel

end Downlink

end Redpill
