/-
The downlink of a QUIC session: the server's queue-to-datagram loop in
`run_vpn_tunnel` and the client's receive loop in `run_tunnel`.  The QUIC
implementation is a parameter.
-/
import Redpill.Batch
import Redpill.Padding
import Redpill.Priority

namespace Redpill

open ByteStream

universe u

inductive SendDatagramError where
  | unsupportedByPeer
  | disabled
  | tooLarge
  | connectionLost
deriving Repr, DecidableEq

/-- The datagram interface of a QUIC connection.  `sendDatagramWait` returns
nothing when the wait limit of 25 ms passes first. -/
structure Quinn (Conn : Type u) where
  datagramSendBufferSpace : Conn → Nat
  maxDatagramSize : Conn → Option Nat
  sendDatagram : Conn → Bytes → Except SendDatagramError Unit × Conn
  sendDatagramWait :
    Conn → Bytes → Option (Except SendDatagramError Unit) × Conn

/-- A connection that keeps the datagrams it was given, in order. -/
def recordingQuinn : Quinn (List Bytes) where
  datagramSendBufferSpace _ := 2097152
  maxDatagramSize _ := some 65535
  sendDatagram sent data := (.ok (), sent ++ [data])
  sendDatagramWait sent data := (some (.ok ()), sent ++ [data])

/-- The session statistics and server metrics that the send path updates. -/
structure SendCounters where
  datagramsSent : Nat := 0
  bytesSent : Nat := 0
  datagramsTooLarge : Nat := 0
  datagramsBlocked : Nat := 0
  datagramsOut : Nat := 0
  bytesOut : Nat := 0
  dropsBackpressure : Nat := 0
  bpWaitCount : Nat := 0
  bpWaitTimeouts : Nat := 0
  bpRtDropsCongested : Nat := 0
deriving Repr, DecidableEq

namespace SendCounters

def recordSent (counters : SendCounters) (size : Nat) : SendCounters :=
  { counters with
    datagramsSent := counters.datagramsSent + 1
    bytesSent := counters.bytesSent + size
    datagramsOut := counters.datagramsOut + 1
    bytesOut := counters.bytesOut + size }

def recordTooLarge (counters : SendCounters) : SendCounters :=
  { counters with datagramsTooLarge := counters.datagramsTooLarge + 1 }

def recordBackpressure (counters : SendCounters) : SendCounters :=
  { counters with
    datagramsBlocked := counters.datagramsBlocked + 1
    dropsBackpressure := counters.dropsBackpressure + 1 }

def recordCongested (counters : SendCounters) : SendCounters :=
  { counters with
    datagramsBlocked := counters.datagramsBlocked + 1
    bpRtDropsCongested := counters.bpRtDropsCongested + 1 }

def recordWait (counters : SendCounters) : SendCounters :=
  { counters with bpWaitCount := counters.bpWaitCount + 1 }

def recordWaitTimeout (counters : SendCounters) : SendCounters :=
  { counters with
    datagramsBlocked := counters.datagramsBlocked + 1
    bpWaitTimeouts := counters.bpWaitTimeouts + 1 }

end SendCounters

/-- The sending side of one session.  `lost` is set by the first send that
reports a lost connection; the loop then returns that error. -/
structure SendLink (Conn : Type u) where
  conn : Conn
  counters : SendCounters
  lost : Bool

variable {Conn : Type u} (quinn : Quinn Conn)

/-- Bookkeeping after quinn accepted or refused a datagram. -/
def recordOutcome (link : SendLink Conn) (size : Nat) :
    Except SendDatagramError Unit → SendLink Conn
  | .ok () => { link with counters := link.counters.recordSent size }
  | .error .tooLarge => { link with counters := link.counters.recordTooLarge }
  | .error .connectionLost => { link with lost := true }
  | .error _ => { link with counters := link.counters.recordBackpressure }

/-- Send at once. -/
def sendRt (link : SendLink Conn) (data : Bytes) : SendLink Conn :=
  let sent := quinn.sendDatagram link.conn data
  recordOutcome { link with conn := sent.2 } data.length sent.1

/-- Send at once when the buffer has room, else wait for room within the
limit.  A datagram above the maximum size is dropped before the wait. -/
def sendBulk (link : SendLink Conn) (data : Bytes) : SendLink Conn :=
  if data.length ≤ quinn.datagramSendBufferSpace link.conn then
    sendRt quinn link data
  else if (quinn.maxDatagramSize link.conn).any (· < data.length) then
    { link with counters := link.counters.recordTooLarge }
  else
    let link := { link with counters := link.counters.recordWait }
    let waited := quinn.sendDatagramWait link.conn data
    match waited.1 with
    | some outcome =>
        recordOutcome { link with conn := waited.2 } data.length outcome
    | none => { link with
        conn := waited.2, counters := link.counters.recordWaitTimeout }

/-- A large packet goes straight out: realtime only into free buffer space,
bulk with waiting. -/
def sendDirect (link : SendLink Conn) (packet : Bytes) : SendLink Conn :=
  match classify packet with
  | .realtime =>
      if packet.length ≤ quinn.datagramSendBufferSpace link.conn then
        sendRt quinn link packet
      else { link with counters := link.counters.recordCongested }
  | .bulk => sendBulk quinn link packet

/-- The loop's local state. -/
structure SendLoop (Conn : Type u) where
  batcher : DatagramBatcher
  link : SendLink Conn

/-- What one round of the loop waits for: the next packet of the queue, or the
flush timer, which runs only while packets are pending. -/
inductive SendEvent where
  | pop (packet : Bytes)
  | flushTimeout
deriving Repr, DecidableEq

def SendLoop.start (conn : Conn) : SendLoop Conn :=
  ⟨DatagramBatcher.new, ⟨conn, {}, false⟩⟩

/-- Flush the batcher and send what it held. -/
def SendLoop.flush (loop : SendLoop Conn) : SendLoop Conn :=
  let flushed := loop.batcher.flush
  if flushed.1 = [] then { loop with batcher := flushed.2 }
  else ⟨flushed.2, sendRt quinn loop.link flushed.1⟩

/-- Queue a packet for the wire: large packets flush the batch before them and
are sent directly, small ones are batched. -/
def SendLoop.dispatch (loop : SendLoop Conn) (packet : Bytes) :
    SendLoop Conn :=
  if batchSizeThreshold ≤ packet.length then
    let flushed := loop.flush quinn
    if flushed.link.lost then flushed
    else { flushed with link := sendDirect quinn flushed.link packet }
  else
    let added := loop.batcher.add packet
    match added.1 with
    | some batch => ⟨added.2, sendRt quinn loop.link batch⟩
    | none => { loop with batcher := added.2 }

/-- One round of the loop.  A lost connection has ended it, and without
pending packets there is no timer that could fire. -/
def SendLoop.step (padded : Bool) (loop : SendLoop Conn) :
    SendEvent → SendLoop Conn
  | .flushTimeout =>
      if loop.link.lost || !loop.batcher.hasPending then loop
      else loop.flush quinn
  | .pop packet =>
      if loop.link.lost then loop
      else loop.dispatch quinn (camouflagedSend padded packet)

/-- A datagram is taken for a batch unless it starts like an IP packet. -/
def isBatchedDatagram (data : Bytes) : Bool :=
  if data = [] then false
  else decide (versionNibble data ≠ 4 ∧ versionNibble data ≠ 6)

/-- What the client's receive loop writes to its TUN for one datagram, after
the transport has returned it. -/
def clientReceive (batching : Bool) (data : Bytes) : List Bytes :=
  if data = [] then []
  else if batching && isBatchedDatagram data then
    (batchDecode data).filterMap writeToTun
  else (writeToTun data).toList

/-- What a client writes for a sequence of datagrams, given the session flags
it decoded and the padding setting of its transport. -/
def clientWrites (flags : UInt8) (paddingEnabled : Bool)
    (datagrams : List Bytes) : List Bytes :=
  datagrams.flatMap fun data =>
    clientReceive (flags &&& flagBatching != 0)
      (camouflagedRecv paddingEnabled data)

end Redpill
