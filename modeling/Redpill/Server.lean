/-
The server as a system of concurrent sessions (`server.rs`, `reality.rs` and
the server side of `websocket_cdn.rs`).  A session runs one of four handlers.
Everything a handler does between two awaits on the shared state (an operation
on the pool or the router, the creation or the drop of a guard) is one atomic
step, every await may succeed or fail, and the spawned forwarding task of a
session steps on its own.  The logs of TUN writes and deliveries, the assigned
address and the packet numbers are bookkeeping that no step reads.
-/
import Redpill.IpPool
import Redpill.Auth
import Redpill.Metrics
import Redpill.Demux
import Redpill.Shaper
import Redpill.Uplink

namespace Redpill

open ByteStream

/-- `handle_vpn`, `handle_vpn_h3`, the TCP Reality listener with
`handle_tcp_connection`, and `handle_ws_connection`. -/
inductive Handler where
  | vpn
  | vpnH3
  | tcpReality
  | ws
deriving Repr, DecidableEq

/-- A local whose drop has an effect on the shared state. -/
inductive Guard where
  | connection
  | session (username : String)
  | clientHandle (clientIp : Ipv4Addr)
deriving Repr, DecidableEq

/-- The points of a handler between its atomic steps.  `accepting` waits for
the transport, which for h3 includes the first stream; the two `counting`
phases create the guards in the handlers that do so only after the
configuration was sent. -/
inductive Phase where
  | accepting
  | openingConnection
  | acceptingBi
  | readingAuth
  | verifying (auth : ClientAuth)
  | openingSession (username : String)
  | allocating (username : String)
  | registering (username : String) (clientIp : Ipv4Addr)
  | sendingConfig (username : String) (clientIp : Ipv4Addr)
  | countingConnection (username : String) (clientIp : Ipv4Addr)
  | countingSession (username : String) (clientIp : Ipv4Addr)
  | tunnelling (username : String) (clientIp : Ipv4Addr)
  | releasing (clientIp : Ipv4Addr)
  | proxying
  | returning
  | returned
deriving Repr, DecidableEq

/-- The address between its allocation and its release. -/
def Phase.held : Phase → Option Ipv4Addr
  | .registering _ clientIp => some clientIp
  | .sendingConfig _ clientIp => some clientIp
  | .countingConnection _ clientIp => some clientIp
  | .countingSession _ clientIp => some clientIp
  | .tunnelling _ clientIp => some clientIp
  | .releasing clientIp => some clientIp
  | _ => none

def Phase.isTunnelling : Phase → Bool
  | .tunnelling _ _ => true
  | _ => false

namespace Handler

/-- Capacity of the client queue. -/
def channelSize : Handler → Nat
  | .tcpReality => 4096
  | _ => 1024

/-- Batching is announced on QUIC only. -/
def flags : Handler → UInt8
  | .vpn => flagBatching
  | .vpnH3 => flagBatching
  | .tcpReality => 0
  | .ws => 0

/-- The QUIC endpoint refuses connections above the limit. -/
def limited : Handler → Bool
  | .vpn => true
  | .vpnH3 => true
  | .tcpReality => false
  | .ws => false

def afterAccept : Handler → Phase
  | .vpn => .openingConnection
  | .vpnH3 => .openingConnection
  | .tcpReality => .readingAuth
  | .ws => .readingAuth

def afterOpenConnection : Handler → Phase
  | .vpn => .acceptingBi
  | _ => .readingAuth

/-- What a handler does with a client that does not authenticate. -/
def reject : Handler → Phase
  | .tcpReality => .proxying
  | _ => .returning

def afterVerify (username : String) : Handler → Phase
  | .vpn => .openingSession username
  | .vpnH3 => .openingSession username
  | .tcpReality => .allocating username
  | .ws => .allocating username

def afterAllocate (username : String) (clientIp : Ipv4Addr) : Handler → Phase
  | .vpn => .registering username clientIp
  | .vpnH3 => .registering username clientIp
  | .tcpReality => .sendingConfig username clientIp
  | .ws => .sendingConfig username clientIp

def afterRegister (username : String) (clientIp : Ipv4Addr) : Handler → Phase
  | .tcpReality => .tunnelling username clientIp
  | _ => .sendingConfig username clientIp

def afterSendConfig (username : String) (clientIp : Ipv4Addr) : Handler → Phase
  | .vpn => .tunnelling username clientIp
  | .vpnH3 => .tunnelling username clientIp
  | .tcpReality => .countingConnection username clientIp
  | .ws => .countingConnection username clientIp

def afterCountSession (username : String) (clientIp : Ipv4Addr) :
    Handler → Phase
  | .ws => .tunnelling username clientIp
  | _ => .registering username clientIp

/-- Read and decode the first message.  The stream handlers read exactly 66
bytes; a WebSocket message is taken whole and must be long enough.  The bytes
that were not read are returned as well. -/
def readAuth (handler : Handler) (chunks : List Bytes) :
    Option (ClientAuth × Bytes) :=
  match handler with
  | .ws =>
      if chunks.flatten.length < clientAuthLen then none
      else (ClientAuth.decode chunks.flatten).map fun auth => (auth, [])
  | _ =>
      (readExact clientAuthLen chunks).bind fun read =>
        (ClientAuth.decode read.1).map fun auth => (auth, read.2.flatten)

end Handler

/-- A write to the TUN on behalf of a session, with the bytes of the client it
was made from. -/
structure TunWrite where
  session : Nat
  packet : Bytes
  source : Bytes
deriving Repr, DecidableEq

/-- A packet handed to the transport of a session, with the bytes that go
out. -/
structure Delivery where
  session : Nat
  packet : TunPacket
  payload : Bytes
deriving Repr, DecidableEq

/-- What the sessions share.  The counters are not bounded, so that one
decrement too many would show as a negative value. -/
structure ServerState where
  auth : AuthMode
  ipPool : IpPool
  activeConnections : Int
  maxConnections : Nat
  mtu : Nat
  serverIp : Ipv4Addr
  dnsIp : Ipv4Addr
  router : ClientRouter
  shaper : AdaptiveShaper
  metrics : Metrics
  tun : List TunPacket
  nextId : Nat
  tunWrites : List TunWrite
  deliveries : List Delivery

/-- Size of the buffer of a TUN read: `TUN_MTU + 4`. -/
def tunBufLen : Nat := 1204

namespace ServerState

/-- Create a guard together with the increments that its drop undoes. -/
def openConnection (state : ServerState) : ServerState :=
  { state with activeConnections := state.activeConnections + 1 }

def openSession (state : ServerState) (username : String) : ServerState :=
  { state with
    metrics :=
      { state.metrics with
        activeSessions := state.metrics.activeSessions + 1
        sessionsByUser := state.metrics.sessionsByUser.inc username } }

/-- The effect of a drop. -/
def dropGuard (state : ServerState) : Guard → ServerState
  | .connection =>
      { state with activeConnections := state.activeConnections - 1 }
  | .session username =>
      { state with
        metrics :=
          { state.metrics with
            activeSessions := state.metrics.activeSessions - 1
            sessionsByUser := state.metrics.sessionsByUser.dec username } }
  | .clientHandle clientIp =>
      { state with router := state.router.unregister clientIp }

def countHandshake (state : ServerState) (failed : Bool) : ServerState :=
  { state with
    metrics :=
      { state.metrics with
        handshakesTotal := state.metrics.handshakesTotal + 1
        handshakesFailed :=
          state.metrics.handshakesFailed + if failed then 1 else 0 } }

/-- The configuration sent to a client; the MTU is cut to 16 bits. -/
def sessionConfig (state : ServerState) (handler : Handler)
    (clientIp : Ipv4Addr) : SessionConfig where
  clientIp := clientIp
  serverIp := state.serverIp
  dnsIp := state.dnsIp
  mtu := state.mtu % 65536
  mtu_lt := Nat.mod_lt _ (by decide)
  keepaliveSecs := 10
  flags := handler.flags

/-- Write to the TUN for a session. -/
def writeTun (state : ServerState) (index : Nat) (packet source : Bytes) :
    ServerState :=
  match writeToTun packet with
  | none => state
  | some written =>
      { state with
        tunWrites := state.tunWrites ++ [⟨index, written, source⟩] }

/-- Source check, shaper and write, as on QUIC and TCP.  The clock is in
nanoseconds, the shaper's in microseconds. -/
def shapedWrite (state : ServerState) (index : Nat) (clientIp : Ipv4Addr)
    (packet source : Bytes) (now : Nat) : ServerState :=
  if !validateSourceIp packet clientIp then state
  else
    let checked := state.shaper.check packet.length (now / 1000)
    let state := { state with shaper := checked.2 }
    if !checked.1 then state else state.writeTun index packet source

/-- One datagram of `run_vpn_tunnel`. -/
def receiveDatagram (state : ServerState) (index : Nat) (padded : Bool)
    (clientIp : Ipv4Addr) (data : Bytes) (now : Nat) : ServerState :=
  if data = [] then state
  else if padded then
    if versionNibble data ≠ 4 ∧ versionNibble data ≠ 6 then state
    else state.shapedWrite index clientIp (stripPadding data) data now
  else state.shapedWrite index clientIp data data now

/-- One binary message of `run_ws_vpn_tunnel`, which does not ask the
shaper. -/
def receiveMessage (state : ServerState) (index : Nat) (clientIp : Ipv4Addr)
    (data : Bytes) : ServerState :=
  if !validateSourceIp data clientIp then state
  else state.writeTun index data data

/-- One round of `run_global_tun_reader`. -/
def readTun (state : ServerState) (now : Nat) : Option ServerState :=
  match state.tun with
  | [] => none
  | packet :: rest =>
      let state := { state with tun := rest }
      let ipPkt : TunPacket := ⟨packet.id, packet.bytes.take tunBufLen⟩
      if ipPkt.bytes = [] then some state
      else
        let checked := state.shaper.check ipPkt.bytes.length (now / 1000)
        let state := { state with shaper := checked.2 }
        if !checked.1 then some state
        else
          match extractDstIpv4 ipPkt.bytes with
          | none => some state
          | some dstIp =>
              some { state with
                router := (state.router.route dstIp ipPkt now).2 }

end ServerState

/-- One session: its handler with its locals, and its forwarding task. -/
structure Session where
  handler : Handler
  phase : Phase
  guards : List Guard
  authSnapshot : Option AuthMode
  assigned : Option Ipv4Addr
  config : Option SessionConfig
  queue : Option QueueId
  forwarding : Bool
  received : Bytes
  pktBuf : Bytes

namespace Session

/-- A new task.  The TCP handler takes a snapshot of the keys. -/
def start (handler : Handler) (auth : AuthMode) : Session where
  handler := handler
  phase := .accepting
  guards := []
  authSnapshot := if handler = .tcpReality then some auth else none
  assigned := none
  config := none
  queue := none
  forwarding := false
  received := []
  pktBuf := List.replicate 1500 0

/-- Move on; the forwarding task is spawned when the tunnel starts. -/
def goto (session : Session) (phase : Phase) : Session :=
  { session with
    phase := phase
    forwarding := session.forwarding || phase.isTunnelling }

/-- Move on with a new guard, which will be dropped first. -/
def guarded (session : Session) (guard : Guard) (phase : Phase) : Session :=
  { session.goto phase with guards := guard :: session.guards }

/-- The name of an authenticated client.  The TCP handler checks its snapshot
and counts no handshakes. -/
def verify (hmac : Hmac) (state : ServerState) (session : Session)
    (auth : ClientAuth) : Option String × ServerState :=
  match session.handler with
  | .tcpReality =>
      ((session.authSnapshot.getD state.auth).verifyAuth hmac auth.nonce auth.mac,
        state)
  | _ =>
      let username := state.auth.verify hmac auth.nonce auth.mac
      (username, state.countHandshake username.isNone)

end Session

/-- What the environment decides when a handler goes on: an await succeeds or
fails, or the first message arrives. -/
inductive Outcome where
  | ok
  | fail
  | message (chunks : List Bytes)
deriving Repr, DecidableEq

inductive SessionEvent where
  | resume (outcome : Outcome)
  | receive (data : Bytes) (now : Nat)
  | frame (now : Nat)
  | rttSample (rtt : Nat)
  | forward (now : Nat)
  | readTun
  | stopForwarding
deriving Repr, DecidableEq

namespace Session

/-- The handler goes on to its next phase. -/
def resume (hmac : Hmac) (state : ServerState) (session : Session)
    (outcome : Outcome) : Option (ServerState × Session) :=
  match session.phase, outcome with
  | .accepting, .ok => some (state, session.goto session.handler.afterAccept)
  | .accepting, .fail => some (state, session.goto .returning)
  | .openingConnection, .ok =>
      some (state.openConnection,
        session.guarded .connection session.handler.afterOpenConnection)
  | .acceptingBi, .ok => some (state, session.goto .readingAuth)
  | .acceptingBi, .fail => some (state, session.goto .returning)
  | .readingAuth, .fail => some (state, session.goto session.handler.reject)
  | .readingAuth, .message chunks =>
      match session.handler.readAuth chunks with
      | none => some (state, session.goto session.handler.reject)
      | some (auth, rest) =>
          some (state, { session.goto (.verifying auth) with received := rest })
  | .verifying auth, .ok =>
      match session.verify hmac state auth with
      | (none, state) => some (state, session.goto session.handler.reject)
      | (some username, state) =>
          some (state, session.goto (session.handler.afterVerify username))
  | .openingSession username, .ok =>
      some (state.openSession username,
        session.guarded (.session username) (.allocating username))
  | .allocating username, .ok =>
      match state.ipPool.allocate with
      | none => some (state, session.goto .returning)
      | some (clientIp, pool) =>
          some ({ state with ipPool := pool },
            { session.goto (session.handler.afterAllocate username clientIp) with
              assigned := some clientIp })
  | .registering username clientIp, .ok =>
      let registered := state.router.register clientIp session.handler.channelSize
      some ({ state with router := registered.1 },
        { session.guarded (.clientHandle clientIp)
            (session.handler.afterRegister username clientIp) with
          queue := some registered.2 })
  | .sendingConfig username clientIp, .ok =>
      some (state,
        { session.goto (session.handler.afterSendConfig username clientIp) with
          config := some (state.sessionConfig session.handler clientIp) })
  | .sendingConfig _ clientIp, .fail =>
      some (state, session.goto (.releasing clientIp))
  | .countingConnection username clientIp, .ok =>
      some (state.openConnection,
        session.guarded .connection (.countingSession username clientIp))
  | .countingSession username clientIp, .ok =>
      some (state.openSession username,
        session.guarded (.session username)
          (session.handler.afterCountSession username clientIp))
  | .tunnelling _ clientIp, .fail =>
      some (state, session.goto (.releasing clientIp))
  | .releasing clientIp, .ok =>
      some ({ state with ipPool := state.ipPool.release clientIp },
        session.goto .returning)
  | .proxying, .fail => some (state, session.goto .returning)
  | .returning, .ok =>
      match session.guards with
      | [] => some (state, session.goto .returned)
      | guard :: rest =>
          some (state.dropGuard guard, { session with guards := rest })
  | _, _ => none

/-- A handler that has returned does nothing more. -/
theorem resume_returned (hmac : Hmac) (state : ServerState) (session : Session)
    (outcome : Outcome) (hphase : session.phase = .returned) :
    session.resume hmac state outcome = none := by
  simp [resume, hphase]

/-- Bytes of the client arrive in the tunnel.  On TCP they wait in the stream
until a whole frame is there. -/
def receive (index : Nat) (state : ServerState) (session : Session)
    (data : Bytes) (now : Nat) : Option (ServerState × Session) :=
  match session.phase with
  | .tunnelling _ clientIp =>
      match session.handler with
      | .vpn =>
          some (state.receiveDatagram index false clientIp data now, session)
      | .vpnH3 =>
          some (state.receiveDatagram index true clientIp data now, session)
      | .tcpReality =>
          some (state, { session with received := session.received ++ data })
      | .ws => some (state.receiveMessage index clientIp data, session)
  | _ => none

/-- The next frame of a TCP tunnel.  An invalid length ends the tunnel. -/
def frame (index : Nat) (state : ServerState) (session : Session) (now : Nat) :
    Option (ServerState × Session) :=
  match session.phase, session.handler with
  | .tunnelling _ clientIp, .tcpReality =>
      match readFrame session.pktBuf session.received with
      | .incomplete => none
      | .invalid => some (state, session.goto (.releasing clientIp))
      | .frame packet pktBuf rest =>
          some (state.shapedWrite index clientIp packet packet now,
            { session with pktBuf := pktBuf, received := rest })
  | _, _ => none

/-- The forwarding task of QUIC and TCP takes a packet from the client queue
and sends it; on h3 it is padded. -/
def forward (index : Nat) (state : ServerState) (session : Session)
    (now : Nat) : Option (ServerState × Session) :=
  match session.forwarding, session.queue with
  | true, some id =>
      match state.router.tryPop id now with
      | (none, router) => some ({ state with router := router }, session)
      | (some packet, router) =>
          some ({ state with
              router := router
              deliveries := state.deliveries ++
                [⟨index, packet,
                  camouflagedSend (decide (session.handler = .vpnH3))
                    packet.bytes⟩] }, session)
  | _, _ => none

/-- The forwarding task of a WebSocket tunnel reads the TUN itself and sends
what it reads. -/
def readTun (index : Nat) (state : ServerState) (session : Session) :
    Option (ServerState × Session) :=
  match session.forwarding, session.handler, state.tun with
  | true, .ws, packet :: rest =>
      let ipPkt : TunPacket := ⟨packet.id, packet.bytes.take tunBufLen⟩
      if ipPkt.bytes = [] then some ({ state with tun := rest }, session)
      else
        some ({ state with
            tun := rest
            deliveries := state.deliveries ++ [⟨index, ipPkt, ipPkt.bytes⟩] },
          session)
  | _, _, _ => none

/-- The RTT task of a QUIC tunnel. -/
def rttSample (state : ServerState) (session : Session) (rtt : Nat) :
    Option (ServerState × Session) :=
  if session.forwarding && session.handler.limited then
    some ({ state with shaper := state.shaper.updateRtt rtt }, session)
  else none

def step (hmac : Hmac) (index : Nat) (state : ServerState)
    (session : Session) : SessionEvent → Option (ServerState × Session)
  | .resume outcome => session.resume hmac state outcome
  | .receive data now => session.receive index state data now
  | .frame now => session.frame index state now
  | .rttSample rtt => session.rttSample state rtt
  | .forward now => session.forward index state now
  | .readTun => session.readTun index state
  | .stopForwarding =>
      if session.forwarding then some (state, { session with forwarding := false })
      else none

end Session

/-- The whole server: the shared state and every session so far. -/
structure Server where
  state : ServerState
  sessions : List Session

inductive ServerLabel where
  | accept (handler : Handler)
  | reload (auth : Option AuthMode) (maxConnections : Nat)
  | arrive (bytes : Bytes)
  | readTun (now : Nat)
  | session (index : Nat) (event : SessionEvent)
deriving Repr, DecidableEq

namespace Server

/-- The server after start-up, with its listeners running. -/
def start (auth : AuthMode) (base serverIp dnsIp : Ipv4Addr)
    (mtu maxConnections maxBandwidthMbps : Nat) : Server where
  sessions := []
  state :=
    { auth := auth
      ipPool := IpPool.new base
      activeConnections := 0
      maxConnections := maxConnections
      mtu := mtu
      serverIp := serverIp
      dnsIp := dnsIp
      router := ClientRouter.new
      shaper := AdaptiveShaper.new maxBandwidthMbps
      metrics := Metrics.new
      tun := []
      nextId := 0
      tunWrites := []
      deliveries := [] }

/-- One step of the system. -/
def step (hmac : Hmac) (server : Server) : ServerLabel → Option Server
  | .accept handler =>
      if handler.limited ∧
          (server.state.maxConnections : Int) ≤ server.state.activeConnections
      then some server
      else some { server with
        sessions := server.sessions ++ [Session.start handler server.state.auth] }
  | .reload auth maxConnections =>
      some { server with
        state := { server.state with
          auth := auth.getD server.state.auth
          maxConnections := maxConnections } }
  | .arrive bytes =>
      some { server with
        state := { server.state with
          tun := server.state.tun ++ [⟨server.state.nextId, bytes⟩]
          nextId := server.state.nextId + 1 } }
  | .readTun now =>
      (server.state.readTun now).map fun state => { server with state := state }
  | .session index event =>
      match server.sessions[index]? with
      | none => none
      | some session =>
          (session.step hmac index server.state event).map fun next =>
            { state := next.1, sessions := server.sessions.set index next.2 }

end Server

end Redpill
