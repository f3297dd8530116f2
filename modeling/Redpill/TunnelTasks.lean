/-
The two directions of a tunnel.  Each of the four tunnel functions spawns a task
that forwards packets to the peer and receives packets from the peer in a loop
of its own.  The loop ends the function; the task is aborted then.  What the
loop waits for does not include the task.
-/
import Redpill.Machine
import Redpill.ServerSteps

namespace Redpill

open ByteStream

inductive TunnelFunction where
  | runTunnel (batching paddingEnabled : Bool)
  | runVpnTunnel (padded : Bool)
  | runTcpRealityTunnel
  | runWsVpnTunnel
deriving Repr, DecidableEq

/-- Why a forwarding task ends before it is aborted.  The channel is the one of
the Windows client, which its reader thread closes. -/
inductive TaskEnd where
  | tunReadError
  | sendError
  | flushError
  | connectionLost
  | channelClosed
deriving Repr, DecidableEq

/-- What a tunnel function returns to its caller. -/
inductive TunnelResult where
  | cancelled
  | receiveError
  | healthReconnect
deriving Repr, DecidableEq

/-- What the two directions wait for.  A packet that was received comes with
the verdict of the shaper on its length; a control message is a ping, a pong or
text on a WebSocket. -/
inductive TunnelEvent where
  | taskEnds (cause : TaskEnd)
  | receives (data : Bytes) (shaperCheck : Nat → Bool)
  | control
  | receiveFails
  | cancel
  | unhealthy

/-- A call of a tunnel function: how its task has ended, what it has returned,
and what its loop has written to the TUN. -/
structure Tunnel where
  task : Option TaskEnd
  result : Option TunnelResult
  written : List Bytes
deriving Repr, DecidableEq

namespace TunnelFunction

/-- The errors that the task of each function returns. -/
def mayEnd : TunnelFunction → TaskEnd → Bool
  | runTunnel _ _, .connectionLost => false
  | runTunnel _ _, _ => true
  | runVpnTunnel _, cause => decide (cause = .connectionLost)
  | runTcpRealityTunnel, cause =>
      decide (cause = .sendError ∨ cause = .flushError)
  | runWsVpnTunnel, cause =>
      decide (cause = .tunReadError ∨ cause = .sendError)

/-- The loops of the server's QUIC and TCP tunnels wait for its shutdown. -/
def waitsForCancel : TunnelFunction → Bool
  | runVpnTunnel _ => true
  | runTcpRealityTunnel => true
  | _ => false

/-- The loop of the client runs beside its health monitor. -/
def waitsForHealth : TunnelFunction → Bool
  | runTunnel _ _ => true
  | _ => false

/-- What the loop writes to the TUN for a datagram, a frame or a message. -/
def toTun (function : TunnelFunction) (clientIp : Ipv4Addr)
    (shaperCheck : Nat → Bool) (data : Bytes) : List Bytes :=
  match function with
  | runTunnel batching paddingEnabled =>
      clientReceive batching (camouflagedRecv paddingEnabled data)
  | runVpnTunnel padded =>
      (datagramToTun padded clientIp shaperCheck data).toList
  | runTcpRealityTunnel => (frameToTun clientIp shaperCheck data).toList
  | runWsVpnTunnel => (messageToTun clientIp data).toList

end TunnelFunction

namespace Tunnel

def start : Tunnel := ⟨none, none, []⟩

/-- One event.  Only the receive side and what it is selected with end the
loop. -/
def step (function : TunnelFunction) (clientIp : Ipv4Addr) (tunnel : Tunnel)
    (event : TunnelEvent) : Option Tunnel :=
  if tunnel.result.isSome then none
  else
    match event with
    | .taskEnds cause =>
        if tunnel.task = none ∧ function.mayEnd cause = true then
          some { tunnel with task := some cause }
        else none
    | .receives data shaperCheck =>
        some { tunnel with
          written := tunnel.written ++
            function.toTun clientIp shaperCheck data }
    | .control =>
        if function = .runWsVpnTunnel then some tunnel else none
    | .receiveFails => some { tunnel with result := some .receiveError }
    | .cancel =>
        if function.waitsForCancel then
          some { tunnel with result := some .cancelled }
        else none
    | .unhealthy =>
        if function.waitsForHealth then
          some { tunnel with result := some .healthReconnect }
        else none

/-- The task has ended, and yet the loop delivers another packet. -/
def HalfDead (function : TunnelFunction) (clientIp : Ipv4Addr)
    (tunnel : Tunnel) : Prop :=
  tunnel.task ≠ none ∧
    ∃ data shaperCheck next,
      tunnel.step function clientIp (.receives data shaperCheck) = some next ∧
        next.written ≠ tunnel.written

end Tunnel

/-- Every function writes a valid packet, here one of IPv6, when the shaper
admits it. -/
theorem TunnelFunction.toTun_ne_nil (function : TunnelFunction)
    (clientIp : Ipv4Addr) :
    function.toTun clientIp (fun _ => true) [0x60] ≠ [] := by
  have hvalid : validateSourceIp [0x60] clientIp = true := rfl
  have hstrip : stripPadding [0x60] = [0x60] := by decide
  cases function with
  | runTunnel batching paddingEnabled =>
      have hwritten : ∀ batching paddingEnabled, clientReceive batching
          (camouflagedRecv paddingEnabled [0x60]) ≠ [] := by decide
      exact hwritten batching paddingEnabled
  | runVpnTunnel padded =>
      have hnibble : ¬ (versionNibble [0x60] ≠ 4 ∧ versionNibble [0x60] ≠ 6) := by
        decide
      cases padded <;>
        simp [toTun, datagramToTun, validatedWrite, hvalid, hstrip, hnibble,
          writeToTun]
  | runTcpRealityTunnel =>
      simp [toTun, frameToTun, validatedWrite, hvalid, writeToTun]
  | runWsVpnTunnel => simp [toTun, messageToTun, hvalid, writeToTun]

namespace Tunnel

variable {function : TunnelFunction} {clientIp : Ipv4Addr}

/-- A tunnel is half dead from the end of its task to the end of its loop. -/
theorem halfDead_iff (tunnel : Tunnel) :
    tunnel.HalfDead function clientIp ↔
      tunnel.task ≠ none ∧ tunnel.result = none := by
  constructor
  · intro ⟨htask, data, shaperCheck, next, hstep, _⟩
    refine ⟨htask, ?_⟩
    by_contra hresult
    rw [step, if_pos (Option.isSome_iff_ne_none.mpr hresult)] at hstep
    exact absurd hstep (Option.some_ne_none next).symm
  · intro ⟨htask, hresult⟩
    refine ⟨htask, [0x60], fun _ => true,
      { tunnel with
        written := tunnel.written ++
          function.toTun clientIp (fun _ => true) [0x60] }, ?_, ?_⟩
    · simp [step, hresult]
    · intro hsame
      rw [List.append_right_eq_self] at hsame
      exact function.toTun_ne_nil clientIp hsame

/-- What an event can do: end the task, end the loop, or leave both as they
are. -/
theorem step_cases {tunnel next : Tunnel} {event : TunnelEvent}
    (h : tunnel.step function clientIp event = some next) :
    tunnel.result = none ∧
      ((∃ cause, event = .taskEnds cause ∧ next.task = some cause ∧
          next.result = none) ∨
        ((∀ cause, event ≠ .taskEnds cause) ∧ next.task = tunnel.task)) := by
  unfold step at h
  split at h
  · exact absurd h (Option.some_ne_none next).symm
  · rename_i hresult
    have hnone : tunnel.result = none := by simpa using hresult
    refine ⟨hnone, ?_⟩
    cases event with
    | taskEnds cause =>
        left
        simp only at h
        split at h
        · obtain rfl := Option.some.inj h
          exact ⟨cause, rfl, rfl, hnone⟩
        · exact absurd h (Option.some_ne_none next).symm
    | receives data shaperCheck =>
        obtain rfl := Option.some.inj h
        exact Or.inr ⟨fun _ => nofun, rfl⟩
    | receiveFails =>
        obtain rfl := Option.some.inj h
        exact Or.inr ⟨fun _ => nofun, rfl⟩
    | _ =>
        right
        simp only at h
        split at h
        · obtain rfl := Option.some.inj h
          exact ⟨fun _ => nofun, rfl⟩
        · exact absurd h (Option.some_ne_none next).symm

/-- In a run of any of the four functions no state is half dead exactly if the
forwarding task never ends while the loop runs: nothing else makes the loop
look at it. -/
theorem no_half_dead_iff (function : TunnelFunction) (clientIp : Ipv4Addr)
    (schedule : List TunnelEvent) (final : Tunnel)
    (hrun : Machine.run (step function clientIp) start schedule = some final) :
    Machine.Always (step function clientIp)
        (fun tunnel => ¬ tunnel.HalfDead function clientIp) start schedule ↔
      Machine.Meets (step function clientIp)
        (fun _ event => ∀ cause, event ≠ .taskEnds cause) start schedule := by
  apply Machine.always_iff_meets (fun _ => True) (fun _ _ _ _ _ => trivial) _
    trivial _ hrun
  · intro tunnel event next _ halive hstep
    rw [halfDead_iff] at halive ⊢
    obtain ⟨hresult, ⟨cause, rfl, htask, hnext⟩ | ⟨hevent, htask⟩⟩ :=
      step_cases hstep
    · constructor
      · intro hnot
        exact absurd ⟨by rw [htask]; exact Option.some_ne_none cause, hnext⟩
          hnot
      · intro hnever
        exact absurd rfl (hnever cause)
    · refine ⟨fun _ => hevent, ?_⟩
      intro _ hdead
      exact halive ⟨htask ▸ hdead.1, hresult⟩
  · rw [halfDead_iff]
    exact fun hdead => hdead.1 rfl

/-- A client tunnel that receives until its connection fails. -/
theorem no_half_dead_receiving :
    Machine.Always (step (.runTunnel true false) ⟨10, 0, 1, 2⟩)
      (fun tunnel => ¬ tunnel.HalfDead (.runTunnel true false) ⟨10, 0, 1, 2⟩)
      start [.receives [0x60] (fun _ => true), .receiveFails] := by
  apply (no_half_dead_iff (.runTunnel true false) ⟨10, 0, 1, 2⟩ _
    ⟨none, some .receiveError, [[0x60]]⟩ (by decide)).mpr
  exact ⟨fun _ => nofun, fun _ => nofun, trivial⟩

/-- The first error of a task, whichever the function allows, leaves the tunnel
half dead. -/
theorem halfDead_of_mayEnd {cause : TaskEnd}
    (h : function.mayEnd cause = true) :
    ¬ Machine.Always (step function clientIp)
      (fun tunnel => ¬ tunnel.HalfDead function clientIp) start
      [.taskEnds cause] := by
  intro halways
  have hstep : start.step function clientIp (.taskEnds cause) =
      some { start with task := some cause } := by
    simp [step, start, h]
  rw [Machine.Always, hstep] at halways
  have halive := halways.2.head
  rw [halfDead_iff] at halive
  exact halive ⟨Option.some_ne_none cause, rfl⟩

/-- A TUN read error of the client, a lost connection on QUIC, a write error on
TCP, a write error on a WebSocket: each time the loop goes on and delivers the
next packet. -/
theorem failure_unnoticed :
    Machine.run (step (.runTunnel true false) ⟨10, 0, 1, 2⟩) start
        [.taskEnds .tunReadError, .receives [0x60] (fun _ => true)] =
          some ⟨some .tunReadError, none, [[0x60]]⟩ ∧
      Machine.run (step (.runVpnTunnel false) ⟨10, 0, 1, 2⟩) start
        [.taskEnds .connectionLost, .receives [0x60] (fun _ => true)] =
          some ⟨some .connectionLost, none, [[0x60]]⟩ ∧
      Machine.run (step .runTcpRealityTunnel ⟨10, 0, 1, 2⟩) start
        [.taskEnds .sendError, .receives [0x60] (fun _ => true)] =
          some ⟨some .sendError, none, [[0x60]]⟩ ∧
      Machine.run (step .runWsVpnTunnel ⟨10, 0, 1, 2⟩) start
        [.taskEnds .sendError, .receives [0x60] (fun _ => true)] =
          some ⟨some .sendError, none, [[0x60]]⟩ ∧
      ¬ Machine.Always (step .runWsVpnTunnel ⟨10, 0, 1, 2⟩)
        (fun tunnel => ¬ tunnel.HalfDead .runWsVpnTunnel ⟨10, 0, 1, 2⟩)
        start [.taskEnds .sendError] :=
  ⟨by decide, by decide, by decide, by decide, halfDead_of_mayEnd rfl⟩

end Tunnel

/-- The tunnel function that a handler of the server calls. -/
def Handler.tunnelFunction : Handler → TunnelFunction
  | .vpn => .runVpnTunnel false
  | .vpnH3 => .runVpnTunnel true
  | .tcpReality => .runTcpRealityTunnel
  | .ws => .runWsVpnTunnel

/-- A session of the server seen as a call of its tunnel function. -/
structure Session.Shows (index : Nat) (clientIp : Ipv4Addr)
    (state : ServerState) (session : Session) (tunnel : Tunnel) : Prop where
  result : tunnel.result = none ↔
    ∃ username, session.phase = .tunnelling username clientIp
  task : tunnel.task = none ↔ session.forwarding = true
  written : tunnel.written =
    (state.tunWrites.filter fun write => decide (write.session = index)).map
      TunWrite.packet

namespace Session

variable {index : Nat} {clientIp : Ipv4Addr} {username : String}
  {state : ServerState} {session : Session} {tunnel : Tunnel}

/-- The loop of the session writes on behalf of the session. -/
theorem afterUplink_written (state : ServerState) (index : Nat)
    (source : Bytes) (written : Option Bytes) (shaper : AdaptiveShaper) :
    ((state.afterUplink index source written shaper).tunWrites.filter
        fun write => decide (write.session = index)).map TunWrite.packet =
      (state.tunWrites.filter
        fun write => decide (write.session = index)).map TunWrite.packet ++
          written.toList := by
  cases written <;> simp [ServerState.afterUplink]

/-- A packet that the loop has handled. -/
theorem shows_receives (next : Session) {data source : Bytes}
    {shaperCheck : Nat → Bool} {written : Option Bytes}
    {shaper : AdaptiveShaper}
    (hphase : session.phase = .tunnelling username clientIp)
    (hshows : session.Shows index clientIp state tunnel)
    (hnextPhase : next.phase = session.phase)
    (hforwarding : next.forwarding = session.forwarding)
    (hwritten : session.handler.tunnelFunction.toTun clientIp shaperCheck data =
      written.toList) :
    ∃ tunnel',
      tunnel.step session.handler.tunnelFunction clientIp
        (.receives data shaperCheck) = some tunnel' ∧
      next.Shows index clientIp
        (state.afterUplink index source written shaper) tunnel' := by
  have hresult : tunnel.result = none := hshows.result.mpr ⟨username, hphase⟩
  refine ⟨{ tunnel with written := tunnel.written ++ written.toList }, ?_, ?_⟩
  · simp [Tunnel.step, hresult, hwritten]
  · refine ⟨?_, ?_, ?_⟩
    · rw [hnextPhase]
      exact hshows.result
    · rw [hforwarding]
      exact hshows.task
    · rw [afterUplink_written, ← hshows.written]

/-- What the loops of QUIC and WebSocket write for a packet is what their
tunnel functions write. -/
theorem toTun_of_written {handler : Handler} {shaperCheck : Nat → Bool}
    {data : Bytes} {written : Option Bytes}
    (hwritten : written = datagramToTun (decide (handler = .vpnH3)) clientIp
        shaperCheck data ∧ handler.limited = true ∨
      written = messageToTun clientIp data ∧ handler = .ws) :
    handler.tunnelFunction.toTun clientIp shaperCheck data =
      written.toList := by
  rcases hwritten with ⟨rfl, hlimited⟩ | ⟨rfl, hws⟩
  · cases handler with
    | vpn | vpnH3 => rfl
    | tcpReality | ws => exact absurd hlimited Bool.false_ne_true
  · rw [hws]
    rfl

/-- The tunnel ends with an error of its receive side. -/
theorem shows_receiveFails
    (hphase : session.phase = .tunnelling username clientIp)
    (hshows : session.Shows index clientIp state tunnel) :
    ∃ tunnel',
      tunnel.step session.handler.tunnelFunction clientIp .receiveFails =
        some tunnel' ∧
      (session.goto (.releasing clientIp)).Shows index clientIp state
        tunnel' := by
  have hresult : tunnel.result = none := hshows.result.mpr ⟨username, hphase⟩
  refine ⟨{ tunnel with result := some .receiveError }, ?_, ?_⟩
  · simp [Tunnel.step, hresult]
  · refine ⟨?_, ?_, hshows.written⟩
    · simp [goto]
    · simpa [goto, Phase.isTunnelling] using hshows.task

/-- The forwarding task has ended, and the loop of the session goes on. -/
theorem shows_taskEnds
    (hphase : session.phase = .tunnelling username clientIp)
    (hshows : session.Shows index clientIp state tunnel)
    (hforwarding : session.forwarding = true) :
    ∃ cause tunnel',
      tunnel.step session.handler.tunnelFunction clientIp (.taskEnds cause) =
        some tunnel' ∧
      { session with forwarding := false }.Shows index clientIp state
        tunnel' := by
  have hresult : tunnel.result = none := hshows.result.mpr ⟨username, hphase⟩
  have htask : tunnel.task = none := hshows.task.mpr hforwarding
  obtain ⟨cause, hcause⟩ :
      ∃ cause, session.handler.tunnelFunction.mayEnd cause = true := by
    cases session.handler with
    | vpn => exact ⟨.connectionLost, rfl⟩
    | vpnH3 => exact ⟨.connectionLost, rfl⟩
    | tcpReality => exact ⟨.sendError, rfl⟩
    | ws => exact ⟨.sendError, rfl⟩
  refine ⟨cause, { tunnel with task := some cause }, ?_, ?_⟩
  · simp [Tunnel.step, hresult, htask, hcause]
  · exact ⟨hshows.result, by simp, hshows.written⟩

/-- The four loops of the server are those of the tunnel functions: every step
of a session in its tunnel is a step of the function, or none that it can
see. -/
theorem step_shows {hmac : Hmac} {event : SessionEvent}
    {next : ServerState × Session}
    (hphase : session.phase = .tunnelling username clientIp)
    (hshows : session.Shows index clientIp state tunnel)
    (h : session.step hmac index state event = some next) :
    next.2.Shows index clientIp next.1 tunnel ∨
      ∃ tunnelEvent tunnel',
        tunnel.step session.handler.tunnelFunction clientIp tunnelEvent =
          some tunnel' ∧
        next.2.Shows index clientIp next.1 tunnel' := by
  cases event with
  | resume outcome =>
      cases outcome with
      | fail =>
          simp only [step, resume, hphase] at h
          obtain rfl := Option.some.inj h
          obtain ⟨tunnel', hstep, hnext⟩ := shows_receiveFails hphase hshows
          exact Or.inr ⟨_, tunnel', hstep, hnext⟩
      | _ =>
          simp only [step, resume, hphase] at h
          exact absurd h (Option.some_ne_none next).symm
  | receive data now =>
      obtain ⟨_, ip, hip, hcases⟩ := receive_cases h
      obtain rfl : ip = clientIp := by
        rw [hphase] at hip
        exact (Phase.tunnelling.inj hip).2.symm
      rcases hcases with ⟨_, rfl⟩ | ⟨written, shaper, rfl, hwritten⟩
      · exact Or.inl ⟨hshows.result, hshows.task, hshows.written⟩
      · right
        have htoTun := toTun_of_written hwritten
        obtain ⟨tunnel', hstep, hnext⟩ :=
          shows_receives session hphase hshows rfl rfl htoTun
        exact ⟨_, tunnel', hstep, hnext⟩
  | frame now =>
      obtain ⟨_, ip, hip, hhandler, hcases⟩ := frame_cases h
      obtain rfl : ip = clientIp := by
        rw [hphase] at hip
        exact (Phase.tunnelling.inj hip).2.symm
      right
      rcases hcases with rfl | ⟨packet, pktBuf, rest, shaper, _, rfl⟩
      · obtain ⟨tunnel', hstep, hnext⟩ := shows_receiveFails hphase hshows
        exact ⟨_, tunnel', hstep, hnext⟩
      · have htoTun : session.handler.tunnelFunction.toTun ip
            (state.admits now) packet =
              (frameToTun ip (state.admits now) packet).toList := by
          rw [hhandler]
          rfl
        obtain ⟨tunnel', hstep, hnext⟩ :=
          shows_receives { session with pktBuf := pktBuf, received := rest }
            hphase hshows rfl rfl htoTun
        exact ⟨_, tunnel', hstep, hnext⟩
  | rttSample rtt =>
      obtain rfl := rttSample_cases h
      exact Or.inl ⟨hshows.result, hshows.task, hshows.written⟩
  | forward now =>
      obtain ⟨_, _, rfl⟩ := forward_cases h
      exact Or.inl ⟨hshows.result, hshows.task, hshows.written⟩
  | readTun =>
      obtain ⟨_, _, _, _, _, rfl⟩ := readTun_cases h
      exact Or.inl ⟨hshows.result, hshows.task, hshows.written⟩
  | stopForwarding =>
      simp only [step] at h
      split at h
      · rename_i hforwarding
        obtain rfl := Option.some.inj h
        obtain ⟨cause, tunnel', hstep, hnext⟩ :=
          shows_taskEnds hphase hshows hforwarding
        exact Or.inr ⟨_, tunnel', hstep, hnext⟩
      · exact absurd h (Option.some_ne_none next).symm

end Session

end Redpill
