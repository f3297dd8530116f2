/-
The status of the client daemon (`ipc.rs`, `stats.rs`).  The loop creates the
counters that the status shows and never hands them to a tunnel; each tunnel
counts in its own.  The flag `connected` is written on the arms of the loop.
-/
import Redpill.ClientTeardown
import Redpill.Packet

namespace Redpill

open ByteStream

inductive TransportMode where
  | quicRaw
  | quicCamouflaged
  | tcpReality
  | webSocketCdn
deriving Repr, DecidableEq

def TransportMode.display : TransportMode → String
  | .quicRaw => "QUIC"
  | .quicCamouflaged => "QUIC+Camo"
  | .tcpReality => "TCP+Reality"
  | .webSocketCdn => "WS+CDN"

/-- The `SendResult` of any transport. -/
inductive UploadResult where
  | sent
  | tooLarge
  | blocked
deriving Repr, DecidableEq

/-- `fetch_add` of an `AtomicU64`. -/
def fetchAdd (counter amount : Nat) : Nat := (counter + amount) % 2 ^ 64

structure Stats where
  datagramsSent : Nat
  datagramsRecv : Nat
  datagramsBlocked : Nat
  datagramsTooLarge : Nat
  bytesSent : Nat
  bytesRecv : Nat
  dgSizeMin : Nat
  dgSizeMax : Nat
  dgSizeSum : Nat
deriving Repr, DecidableEq

namespace Stats

def new : Stats := ⟨0, 0, 0, 0, 0, 0, 2 ^ 64 - 1, 0, 0⟩

def updateDgSize (stats : Stats) (size : Nat) : Stats :=
  { stats with
    dgSizeSum := fetchAdd stats.dgSizeSum size
    dgSizeMin := min stats.dgSizeMin size
    dgSizeMax := max stats.dgSizeMax size }

def recordSend (stats : Stats) (size : Nat) : Stats :=
  updateDgSize
    { stats with
      datagramsSent := fetchAdd stats.datagramsSent 1
      bytesSent := fetchAdd stats.bytesSent size } size

def recordRecv (stats : Stats) (size : Nat) : Stats :=
  { stats with
    datagramsRecv := fetchAdd stats.datagramsRecv 1
    bytesRecv := fetchAdd stats.bytesRecv size }

def recordBlocked (stats : Stats) : Stats :=
  { stats with datagramsBlocked := fetchAdd stats.datagramsBlocked 1 }

def recordTooLarge (stats : Stats) : Stats :=
  { stats with datagramsTooLarge := fetchAdd stats.datagramsTooLarge 1 }

end Stats

/-- What the daemon answers. -/
structure DaemonStatus where
  connected : Bool
  server : String
  transport : String
  clientIp : Option Ipv4Addr
  uptimeSecs : Nat
  bytesSent : Nat
  bytesRecv : Nat
  datagramsSent : Nat
  datagramsRecv : Nat
deriving Repr, DecidableEq

/-- What the IPC server reads.  Times are in milliseconds. -/
structure DaemonState where
  connected : Bool
  server : String
  transport : String
  clientIp : Option Ipv4Addr
  start : Nat
  stats : Stats
deriving Repr, DecidableEq

def DaemonState.toStatus (state : DaemonState) (now : Nat) : DaemonStatus where
  connected := state.connected
  server := state.server
  transport := state.transport
  clientIp := state.clientIp
  uptimeSecs := (now - state.start) / 1000
  bytesSent := state.stats.bytesSent
  bytesRecv := state.stats.bytesRecv
  datagramsSent := state.stats.datagramsSent
  datagramsRecv := state.stats.datagramsRecv

/-- One call of `run_tunnel`: its own counters, and which of its sending tasks
still run.  The idle padder runs on a camouflaged tunnel only. -/
structure ClientTunnel where
  stats : Stats
  uploading : Bool
  idling : Bool
deriving Repr, DecidableEq

def ClientTunnel.run (mode : TransportMode) : ClientTunnel :=
  ⟨Stats.new, true, decide (mode = .quicCamouflaged)⟩

/-- The upload task after a send; an error ends it. -/
def ClientTunnel.uploaded (tunnel : ClientTunnel) (size : Nat) :
    Option UploadResult → ClientTunnel
  | some .sent => { tunnel with stats := tunnel.stats.recordSend size }
  | some .tooLarge => { tunnel with stats := tunnel.stats.recordTooLarge }
  | some .blocked => { tunnel with stats := tunnel.stats.recordBlocked }
  | none => { tunnel with uploading := false }

def ClientTunnel.received (tunnel : ClientTunnel) (size : Nat) : ClientTunnel :=
  { tunnel with stats := tunnel.stats.recordRecv size }

/-- The client process: its loop, the state that the status shows, and every
tunnel so far.  Beside them stand the sizes of the packets whose send returned
`Sent`, and of the packets received that were not empty. -/
structure Daemon where
  client : Client
  state : DaemonState
  tunnels : List ClientTunnel
  sent : List Nat
  received : List Nat
deriving Repr, DecidableEq

/-- The tasks of a tunnel run on their own: they may outlive it until they are
stopped. -/
inductive DaemonEvent where
  | connected (input : SetupInput) (mode : TransportMode)
      (clientIp : Ipv4Addr)
  | loop (event : ClientEvent)
  | upload (tunnel size : Nat) (result : Option UploadResult)
  | idlePacket (tunnel size : Nat) (result : Option UploadResult)
  | stop (tunnel : Nat)
  | recv (data : Bytes)

/-- The sizes with one more packet, if it was sent. -/
def noteSent (sent : List Nat) (size : Nat) (result : Option UploadResult) :
    List Nat :=
  if result = some .sent then sent ++ [size] else sent

/-- The flag on the arms of the loop that do not connect. -/
def DaemonState.onEvent (state : DaemonState) : ClientEvent → DaemonState
  | .connectFailed => { state with connected := false }
  | .tunnelLost => { state with connected := false }
  | .healthReconnect => { state with connected := false }
  | _ => state

namespace Daemon

def start (server : String) (now : Nat) : Daemon where
  client := Client.start
  state := ⟨false, server, "connecting", none, now, Stats.new⟩
  tunnels := []
  sent := []
  received := []

/-- The flag is set before the setup, and a tunnel runs after it. -/
def onConnected (daemon : Daemon) (mode : TransportMode)
    (clientIp : Ipv4Addr) (client : Client) : Daemon :=
  { daemon with
    client := client
    state := { daemon.state with
      connected := true
      transport := mode.display
      clientIp := some clientIp }
    tunnels :=
      if client.phase = .tunnelling then
        daemon.tunnels ++ [ClientTunnel.run mode]
      else daemon.tunnels }

def step (settings : ClientSettings) (daemon : Daemon) :
    DaemonEvent → Option Daemon
  | .connected input mode clientIp =>
      (daemon.client.step settings (.connected input)).map
        (daemon.onConnected mode clientIp)
  | .loop (.connected _) => none
  | .loop event =>
      (daemon.client.step settings event).map fun client =>
        { daemon with
          client := client
          state := daemon.state.onEvent event }
  | .upload index size result =>
      if (daemon.tunnels[index]?).any ClientTunnel.uploading then
        some { daemon with
          tunnels := daemon.tunnels.modify index (·.uploaded size result)
          sent := noteSent daemon.sent size result }
      else none
  | .idlePacket index size result =>
      if (daemon.tunnels[index]?).any ClientTunnel.idling then
        some { daemon with sent := noteSent daemon.sent size result }
      else none
  | .stop index =>
      some { daemon with
        tunnels := daemon.tunnels.modify index fun tunnel =>
          { tunnel with uploading := false, idling := false } }
  | .recv data =>
      if daemon.client.phase = .tunnelling then
        if data = [] then some daemon
        else some { daemon with
          tunnels := daemon.tunnels.modify (daemon.tunnels.length - 1)
            (·.received data.length)
          received := daemon.received ++ [data.length] }
      else none

/-- What the status shows at any time is true of the whole process. -/
structure Truthful (daemon : Daemon) : Prop where
  bytesSent : ∀ now,
    (daemon.state.toStatus now).bytesSent = daemon.sent.sum
  datagramsSent : ∀ now,
    (daemon.state.toStatus now).datagramsSent = daemon.sent.length
  bytesRecv : ∀ now,
    (daemon.state.toStatus now).bytesRecv = daemon.received.sum
  datagramsRecv : ∀ now,
    (daemon.state.toStatus now).datagramsRecv = daemon.received.length
  connected : ∀ now, (daemon.state.toStatus now).connected = true →
    daemon.client.phase = .tunnelling

/-- Every command of the setup after a connection succeeds. -/
def setupSucceeds (settings : ClientSettings) (daemon : Daemon)
    (input : SetupInput) : Bool :=
  match Client.onConnected settings input daemon.client with
  | .ok _ _ => true
  | .error _ _ => false

/-- Nothing happens that the status should show and does not: no packet is sent
or received, no setup fails, and no signal ends a tunnel. -/
def uneventful (settings : ClientSettings) (daemon : Daemon) :
    DaemonEvent → Bool
  | .connected input _ _ => daemon.setupSucceeds settings input
  | .loop .shutdown => decide (daemon.client.phase ≠ .tunnelling)
  | .loop _ => true
  | .upload _ _ result => decide (result ≠ some .sent)
  | .idlePacket _ _ result => decide (result ≠ some .sent)
  | .stop _ => true
  | .recv data => decide (data = [])

variable {settings : ClientSettings} {daemon next : Daemon}

/-- The counters that the status shows are never written, and the flag is set
while a tunnel runs; it can stay so only after the loop. -/
structure Shown (daemon : Daemon) : Prop where
  stats : daemon.state.stats = Stats.new
  running : daemon.client.phase = .tunnelling → daemon.state.connected = true
  flagged : daemon.state.connected = true →
    daemon.client.phase = .tunnelling ∨
      ∃ error, daemon.client.phase = .returned error

/-- With counters that are never written, nothing may have happened. -/
theorem truthful_iff (hstats : daemon.state.stats = Stats.new) :
    daemon.Truthful ↔ daemon.sent = [] ∧ daemon.received = [] ∧
      (daemon.state.connected = true →
        daemon.client.phase = .tunnelling) := by
  constructor
  · intro h
    have hsent : 0 = daemon.sent.length := by
      have hshown := h.datagramsSent 0
      rwa [DaemonState.toStatus, hstats] at hshown
    have hreceived : 0 = daemon.received.length := by
      have hshown := h.datagramsRecv 0
      rwa [DaemonState.toStatus, hstats] at hshown
    exact ⟨List.eq_nil_of_length_eq_zero hsent.symm,
      List.eq_nil_of_length_eq_zero hreceived.symm, h.connected 0⟩
  · intro ⟨hsent, hreceived, hconnected⟩
    constructor
    · intro now
      rw [hsent, DaemonState.toStatus, hstats]
      rfl
    · intro now
      rw [hsent, DaemonState.toStatus, hstats]
      rfl
    · intro now
      rw [hreceived, DaemonState.toStatus, hstats]
      rfl
    · intro now
      rw [hreceived, DaemonState.toStatus, hstats]
      rfl
    · intro now
      exact hconnected

/-- A connection leads to a tunnel, or out of the loop if the setup fails. -/
theorem connected_phase {input : SetupInput} {client : Client}
    (h : daemon.client.step settings (.connected input) = some client) :
    (daemon.setupSucceeds settings input = true ∧
        client.phase = .tunnelling) ∨
      (daemon.setupSucceeds settings input = false ∧
        ∃ error, client.phase = .returned error) := by
  simp only [Client.step] at h
  split at h
  · obtain rfl := Option.some.inj h
    unfold setupSucceeds
    cases Client.onConnected settings input daemon.client with
    | ok value after => exact Or.inl ⟨rfl, rfl⟩
    | error error after => exact Or.inr ⟨rfl, some error, rfl⟩
  · cases h

/-- What the other arms of the loop do to the phase and the flag. -/
theorem loop_step {event : ClientEvent}
    (h : daemon.step settings (.loop event) = some next) :
    next.sent = daemon.sent ∧ next.received = daemon.received ∧
      next.state.stats = daemon.state.stats ∧
      ((event ≠ .shutdown ∧ next.client.phase ≠ .tunnelling ∧
          (next.state.connected = false ∨
            next.state.connected = daemon.state.connected ∧
              daemon.client.phase = .backoff)) ∨
        (event = .shutdown ∧
          next.state.connected = daemon.state.connected ∧
          ∃ error, next.client.phase = .returned error)) := by
  cases event with
  | connected input => cases h
  | connectFailed | tunnelLost | healthReconnect =>
      obtain ⟨client, hclient, rfl⟩ := Option.map_eq_some_iff.mp h
      simp only [Client.step] at hclient
      split at hclient
      · obtain rfl := Option.some.inj hclient
        exact ⟨rfl, rfl, rfl, Or.inl ⟨by simp, by simp, Or.inl rfl⟩⟩
      · cases hclient
  | backoffElapsed =>
      obtain ⟨client, hclient, rfl⟩ := Option.map_eq_some_iff.mp h
      simp only [Client.step] at hclient
      split at hclient
      · rename_i hphase
        obtain rfl := Option.some.inj hclient
        exact ⟨rfl, rfl, rfl,
          Or.inl ⟨by simp, by simp, Or.inr ⟨rfl, hphase⟩⟩⟩
      · cases hclient
  | shutdown =>
      obtain ⟨client, hclient, rfl⟩ := Option.map_eq_some_iff.mp h
      simp only [Client.step] at hclient
      split at hclient
      · cases hclient
      · obtain rfl := Option.some.inj hclient
        exact ⟨rfl, rfl, rfl, Or.inr ⟨rfl, rfl, none, rfl⟩⟩

/-- Traffic leaves the loop and the state that the status shows as they are. -/
theorem traffic_step {event : DaemonEvent}
    (h : daemon.step settings event = some next)
    (hconnected : ∀ input mode clientIp,
      event ≠ .connected input mode clientIp)
    (hloop : ∀ taken, event ≠ .loop taken) :
    next.client = daemon.client ∧ next.state = daemon.state ∧
      ((next.sent = daemon.sent ∧ next.received = daemon.received) ↔
        daemon.uneventful settings event = true) := by
  cases event with
  | connected input mode clientIp => exact absurd rfl (hconnected _ _ _)
  | loop taken => exact absurd rfl (hloop _)
  | upload index size result | idlePacket index size result =>
      simp only [step] at h
      split at h
      · obtain rfl := Option.some.inj h
        refine ⟨rfl, rfl, ?_⟩
        by_cases hsent : result = some .sent <;>
          simp [noteSent, uneventful, hsent]
      · cases h
  | stop index =>
      obtain rfl := Option.some.inj h
      exact ⟨rfl, rfl, fun _ => rfl, fun _ => ⟨rfl, rfl⟩⟩
  | recv data =>
      simp only [step] at h
      split at h
      · split at h
        · rename_i hempty
          obtain rfl := Option.some.inj h
          simp [uneventful, hempty]
        · rename_i hdata
          obtain rfl := Option.some.inj h
          simp [uneventful, hdata]
      · cases h

theorem shown_step {event : DaemonEvent} (hshown : daemon.Shown)
    (h : daemon.step settings event = some next) : next.Shown := by
  cases event with
  | connected input mode clientIp =>
      obtain ⟨client, hclient, rfl⟩ := Option.map_eq_some_iff.mp h
      refine ⟨hshown.stats, fun _ => rfl, fun _ => ?_⟩
      rcases connected_phase hclient with ⟨_, hphase⟩ | ⟨_, hphase⟩
      · exact Or.inl hphase
      · exact Or.inr hphase
  | loop taken =>
      obtain ⟨_, _, hstats, hcase⟩ := loop_step h
      refine ⟨hstats.trans hshown.stats, ?_, ?_⟩
      · intro hphase
        rcases hcase with ⟨_, hnot, _⟩ | ⟨_, _, error, hreturned⟩
        · exact absurd hphase hnot
        · rw [hreturned] at hphase
          cases hphase
      · intro hflag
        rcases hcase with ⟨_, _, hoff | ⟨hsame, hbackoff⟩⟩ | ⟨_, _, hreturned⟩
        · rw [hoff] at hflag
          cases hflag
        · rcases hshown.flagged (hsame.symm.trans hflag) with hphase |
            ⟨error, hphase⟩
          · rw [hbackoff] at hphase
            cases hphase
          · rw [hbackoff] at hphase
            cases hphase
        · exact Or.inr hreturned
  | upload | idlePacket | stop | recv =>
      obtain ⟨hclient, hstate, _⟩ := traffic_step h nofun nofun
      refine ⟨?_, ?_, ?_⟩
      · rw [hstate]
        exact hshown.stats
      · rw [hclient, hstate]
        exact hshown.running
      · rw [hclient, hstate]
        exact hshown.flagged

/-- A step leaves the status truthful exactly if it is uneventful. -/
theorem truthful_step {event : DaemonEvent} (hshown : daemon.Shown)
    (htruthful : daemon.Truthful)
    (h : daemon.step settings event = some next) :
    next.Truthful ↔ daemon.uneventful settings event = true := by
  have hnext := shown_step hshown h
  obtain ⟨hsent, hreceived, hflag⟩ := (truthful_iff hshown.stats).mp htruthful
  rw [truthful_iff hnext.stats]
  cases event with
  | connected input mode clientIp =>
      obtain ⟨client, hclient, rfl⟩ := Option.map_eq_some_iff.mp h
      rcases connected_phase hclient with ⟨hsetup, hphase⟩ |
        ⟨hsetup, error, hphase⟩
      · simp [onConnected, uneventful, hsetup, hphase, hsent, hreceived]
      · simp [onConnected, uneventful, hsetup, hphase]
  | loop taken =>
      obtain ⟨hsame, hsame', _, hcase⟩ := loop_step h
      rw [hsame, hsame']
      rcases hcase with ⟨hevent, hnot, hoff⟩ | ⟨rfl, hconnected, error, hphase⟩
      · have hflag' : next.state.connected = false := by
          rcases hoff with hoff | ⟨hkept, hbackoff⟩
          · exact hoff
          · by_contra hon
            rw [Bool.not_eq_false, hkept] at hon
            have hphase := hflag hon
            rw [hbackoff] at hphase
            cases hphase
        have huneventful : daemon.uneventful settings (.loop taken) = true := by
          cases taken with
          | shutdown => exact absurd rfl hevent
          | _ => rfl
        simp [hsent, hreceived, hflag', huneventful]
      · rw [hconnected, hphase]
        by_cases htunnel : daemon.client.phase = .tunnelling
        · simp [uneventful, htunnel, hshown.running htunnel]
        · have hoff : daemon.state.connected = false := by
            by_contra hon
            rw [Bool.not_eq_false] at hon
            exact htunnel (hflag hon)
          simp [uneventful, htunnel, hoff, hsent, hreceived]
  | upload | idlePacket | stop | recv =>
      obtain ⟨hclient, hstate, hiff⟩ := traffic_step h nofun nofun
      rw [← hiff, hclient, hstate, hsent, hreceived]
      exact ⟨fun hnew => ⟨hnew.1, hnew.2.1⟩,
        fun hnew => ⟨hnew.1, hnew.2, hflag⟩⟩

theorem shown_start (server : String) (now : Nat) :
    (start server now).Shown := by
  refine ⟨rfl, ?_, ?_⟩
  · intro hphase
    cases hphase
  · intro hflag
    cases hflag

/-- The status is truthful throughout a run of the client exactly if no packet
is sent or received in it, no setup fails after a connection, and no signal
arrives while a tunnel runs. -/
theorem status_truthful_iff_uneventful (settings : ClientSettings)
    (server : String) (now : Nat) {events : List DaemonEvent}
    {final : Daemon}
    (hrun : Machine.run (step settings) (start server now) events =
      some final) :
    Machine.Always (step settings) Truthful (start server now) events ↔
      Machine.Meets (step settings)
        (fun daemon event => daemon.uneventful settings event = true)
        (start server now) events := by
  have hstart := shown_start server now
  apply Machine.always_iff_meets Shown _ _ hstart _ hrun
  · intro daemon event next hshown hstep
    exact shown_step hshown hstep
  · intro daemon event next hshown htruthful hstep
    exact truthful_step hshown htruthful hstep
  · rw [truthful_iff hstart.stats]
    refine ⟨rfl, rfl, ?_⟩
    intro hflag
    cases hflag

def startLinux : Daemon := start "203.0.113.5:443" 0

def connectRaw : DaemonEvent :=
  .connected Client.allSucceed .quicRaw ⟨10, 0, 1, 2⟩

/-- A tunnel that sends and receives nothing, and a shutdown after it. -/
def idleTunnel : List DaemonEvent :=
  [.loop .connectFailed, .loop .backoffElapsed, connectRaw,
    .upload 0 1200 (some .blocked), .recv [], .loop .healthReconnect, .stop 0,
    .loop .shutdown]

theorem status_truthful_iff_uneventful_idle :
    Machine.Always (step Client.linuxSettings) Truthful startLinux
      idleTunnel := by
  have hmeets : Machine.Meets (step Client.linuxSettings)
      (fun daemon event => daemon.uneventful Client.linuxSettings event = true)
      startLinux idleTunnel := by
    decide
  have hrun : (Machine.run (step Client.linuxSettings) startLinux
      idleTunnel).isSome = true := by
    decide
  obtain ⟨final, hfinal⟩ := Option.isSome_iff_exists.mp hrun
  exact (status_truthful_iff_uneventful Client.linuxSettings "203.0.113.5:443" 0
    hfinal).mpr hmeets

/-- After a packet of 100 bytes went out and one of 60 bytes came in, the
status still shows nothing; and it shows a connection after a signal has ended
the tunnel. -/
theorem status_shows_no_traffic :
    (Machine.run (step Client.linuxSettings) startLinux
        [connectRaw, .upload 0 100 (some .sent),
          .recv (List.replicate 60 0x45)]).map
          (fun daemon => (daemon.state.toStatus 5000, daemon.sent,
            daemon.received)) =
        some (⟨true, "203.0.113.5:443", "QUIC", some ⟨10, 0, 1, 2⟩, 5, 0, 0, 0,
          0⟩, [100], [60]) ∧
      (Machine.run (step Client.linuxSettings) startLinux
        [connectRaw, .loop .shutdown]).map
          (fun daemon => (daemon.state.connected, daemon.client.phase)) =
        some (true, .returned none) := by
  decide

end Daemon

end Redpill
