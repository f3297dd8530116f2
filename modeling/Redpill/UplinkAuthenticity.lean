/-
Uplink source authenticity.  Whatever bytes a client sends, what the server
writes to the TUN for its session is IPv6 or carries the address of that
session, and at that moment no other session holds this address.
-/
import Redpill.Accounting

namespace Redpill

open ByteStream

/-- A write made by a step: from bytes that the client of a session sent, in
the tunnel of that session, and past its source check. -/
structure TunWrite.Checked (sessions : List Session) (label : ServerLabel)
    (write : TunWrite) : Prop where
  accepted : ∃ session ∈ sessions[write.session]?, ∃ ip ∈ session.phase.held,
    validateSourceIp write.packet ip = true ∧
      write.packet =
        camouflagedRecv (decide (session.handler = .vpnH3)) write.source
  sent : ∃ now, label = .session write.session (.receive write.source now) ∨
    label = .session write.session (.frame now)

/-- What one event of a session adds to the log of writes: nothing, or one
checked write. -/
theorem Session.step_tunWrites {hmac : Hmac} {index : Nat}
    {state : ServerState} {session : Session} {event : SessionEvent}
    {next : ServerState × Session} {sessions : List Session}
    (hsession : sessions[index]? = some session)
    (h : session.step hmac index state event = some next) :
    next.1.tunWrites = state.tunWrites ∨
      ∃ write, next.1.tunWrites = state.tunWrites ++ [write] ∧
        write.session = index ∧
        write.Checked sessions (.session index event) := by
  cases event with
  | resume outcome =>
      obtain ⟨_, _, _, _, hstate⟩ := Session.resume_frame h
      rw [hstate]
      exact Or.inl rfl
  | receive data now =>
      obtain ⟨username, clientIp, hphase, ⟨_, rfl⟩ |
        ⟨written, shaper, rfl, hwritten⟩⟩ := Session.receive_cases h
      · exact Or.inl rfl
      · cases written with
        | none => exact Or.inl (List.append_nil _)
        | some packet =>
            refine Or.inr ⟨⟨index, packet, data⟩, rfl, rfl, ?_⟩
            refine ⟨⟨session, hsession, clientIp, ?_, ?_⟩, now, Or.inl rfl⟩
            · rw [hphase]
              rfl
            · rcases hwritten with ⟨hdatagram, _⟩ | ⟨hmessage, hws⟩
              · exact datagramToTun_valid hdatagram.symm
              · obtain ⟨hvalid, hsame⟩ := messageToTun_valid hmessage.symm
                refine ⟨hvalid, ?_⟩
                rw [hws]
                exact hsame
  | frame now =>
      obtain ⟨username, clientIp, hphase, htcp, rfl |
        ⟨packet, pktBuf, rest, shaper, hframe, rfl⟩⟩ := Session.frame_cases h
      · exact Or.inl rfl
      · cases hwritten : frameToTun clientIp (state.admits now) packet with
        | none =>
            left
            simp only [ServerState.afterUplink, Option.toList_none,
              List.map_nil, List.append_nil]
        | some written =>
            obtain ⟨hvalid, hsame⟩ := frameToTun_valid hwritten
            refine Or.inr ⟨⟨index, written, packet⟩, rfl, rfl, ?_⟩
            refine ⟨⟨session, hsession, clientIp, ?_, hvalid, ?_⟩, now,
              Or.inr rfl⟩
            · rw [hphase]
              rfl
            · rw [htcp]
              exact hsame
  | rttSample rtt =>
      obtain rfl := Session.rttSample_cases h
      exact Or.inl rfl
  | forward now =>
      obtain ⟨id, _, rfl⟩ := Session.forward_cases h
      exact Or.inl rfl
  | readTun =>
      obtain ⟨packet, rest, _, _, _, rfl⟩ := Session.readTun_cases h
      exact Or.inl rfl
  | stopForwarding =>
      obtain rfl := Session.stopForwarding_cases h
      exact Or.inl rfl

/-- What one step of the server adds to the log of writes. -/
theorem Server.step_tunWrites {hmac : Hmac} {server next : Server}
    {label : ServerLabel} (h : server.step hmac label = some next) :
    next.state.tunWrites = server.state.tunWrites ∨
      ∃ write, next.state.tunWrites = server.state.tunWrites ++ [write] ∧
        write.Checked server.sessions label := by
  cases label with
  | accept handler =>
      simp only [Server.step] at h
      split at h
      · obtain rfl := Option.some.inj h
        exact Or.inl rfl
      · obtain rfl := Option.some.inj h
        exact Or.inl rfl
  | reload auth maxConnections =>
      obtain rfl := Option.some.inj h
      exact Or.inl rfl
  | arrive bytes =>
      obtain rfl := Option.some.inj h
      exact Or.inl rfl
  | readTun now =>
      obtain ⟨state, hread, rfl⟩ := Option.map_eq_some_iff.mp h
      obtain ⟨_, _, _, rfl⟩ := ServerState.readTun_frame hread
      exact Or.inl rfl
  | session index event =>
      simp only [Server.step] at h
      split at h
      · cases h
      · rename_i session hsession
        obtain ⟨moved, hmoved, rfl⟩ := Option.map_eq_some_iff.mp h
        rcases Session.step_tunWrites hsession hmoved with hsame |
          ⟨write, hwrite, _, hchecked⟩
        · exact Or.inl hsame
        · exact Or.inr ⟨write, hwrite, hchecked⟩

/-- Source authenticity: a step from a reachable state writes nothing to the
TUN, or one packet that came from the client of a session.  The packet is IPv6
or carries the address of the session, the session is the only one that holds
this address, and on a padded session the packet is what is left of the
datagram without its padding, which is also what was checked. -/
theorem uplink_source_authentic {hmac : Hmac} {server next : Server}
    {label : ServerLabel} (h : server.Reached hmac)
    (hstep : server.step hmac label = some next) :
    next.state.tunWrites = server.state.tunWrites ∨
      ∃ write session ip,
        next.state.tunWrites = server.state.tunWrites ++ [write] ∧
        (∃ now, label = .session write.session (.receive write.source now) ∨
          label = .session write.session (.frame now)) ∧
        server.sessions[write.session]? = some session ∧
        session.phase.held = some ip ∧
        (versionNibble write.packet = 6 ∨ HasIpv4Source write.packet ip) ∧
        (∀ (j : Nat) (other : Session), server.sessions[j]? = some other →
          other.phase.held = some ip → j = write.session) ∧
        (session.handler = .vpnH3 →
          write.packet = stripPadding write.source ∧
            validateSourceIp (stripPadding write.source) ip = true) := by
  rcases Server.step_tunWrites hstep with hsame | ⟨write, hwrite, hchecked⟩
  · exact Or.inl hsame
  · obtain ⟨session, hsession, ip, hip, hvalid, hpacket⟩ := hchecked.accepted
    refine Or.inr ⟨write, session, ip, hwrite, hchecked.sent, hsession, hip,
      validateSourceIp_iff.mp hvalid, ?_, ?_⟩
    · intro j other hother hheld
      apply h.accounted.owned.distinct hother hsession (r := ip.d)
      · rw [Session.heldHost, hheld]
        rfl
      · have hheld' : session.phase.held = some ip := hip
        rw [Session.heldHost, hheld']
        rfl
    · intro hh3
      rw [hh3] at hpacket
      have hstripped : write.packet = stripPadding write.source := hpacket
      exact ⟨hstripped, hstripped ▸ hvalid⟩

/-- The steps that take a new h3 session to its tunnel. -/
def connectVpnH3 (index : Nat) : List ServerLabel :=
  [.accept .vpnH3, proceed index, proceed index, presentAuth index,
    proceed index, proceed index, proceed index, proceed index, proceed index]

/-- An IPv4 header from 10.0.1.2 without payload, padded to 24 bytes. -/
def paddedHeader : Bytes :=
  [0x45, 0, 0, 20, 0, 0, 0, 0, 64, 1, 0, 0, 10, 0, 1, 2, 1, 1, 1, 1,
    0, 0, 0, 0]

/-- Two h3 clients are connected, and the padded header of one of them is written
without its padding.  Only this client holds the address in it. -/
theorem uplink_source_authentic_padded :
    ∃ server next, Machine.run (Server.step zeroHmac) zeroServer
        (connectVpnH3 0 ++ connectVpnH3 1) = some server ∧
      server.step zeroHmac (.session 0 (.receive paddedHeader 0)) = some next ∧
      next.state.tunWrites = [⟨0, paddedHeader.take 20, paddedHeader⟩] ∧
      server.sessions.map (fun session => session.phase.held) =
        [some ⟨10, 0, 1, 2⟩, some ⟨10, 0, 1, 3⟩] ∧
      ∃ write session ip,
        next.state.tunWrites = server.state.tunWrites ++ [write] ∧
        server.sessions[write.session]? = some session ∧
        session.phase.held = some ip ∧
        (versionNibble write.packet = 6 ∨ HasIpv4Source write.packet ip) ∧
        ∀ (j : Nat) (other : Session), server.sessions[j]? = some other →
          other.phase.held = some ip → j = write.session := by
  have hwrites : ((Machine.run (Server.step zeroHmac) zeroServer
      (connectVpnH3 0 ++ connectVpnH3 1)).bind fun server =>
        (server.step zeroHmac (.session 0 (.receive paddedHeader 0))).map
          fun next => (server.state.tunWrites, next.state.tunWrites,
            server.sessions.map fun session => session.phase.held)) =
      some ([], [⟨0, paddedHeader.take 20, paddedHeader⟩],
        [some ⟨10, 0, 1, 2⟩, some ⟨10, 0, 1, 3⟩]) := by
    decide
  obtain ⟨server, hrun, hrest⟩ := Option.bind_eq_some_iff.mp hwrites
  obtain ⟨next, hstep, hlogs⟩ := Option.map_eq_some_iff.mp hrest
  obtain ⟨hbefore, hlogs⟩ := Prod.mk.inj hlogs
  obtain ⟨hafter, hheld⟩ := Prod.mk.inj hlogs
  have hreached : server.Reached zeroHmac :=
    ⟨zeroAuth, ⟨10, 0, 1, 0⟩, ⟨10, 0, 1, 1⟩, ⟨1, 1, 1, 1⟩, 1200, 16, 100, _, hrun⟩
  refine ⟨server, next, hrun, hstep, hafter, hheld, ?_⟩
  rcases uplink_source_authentic hreached hstep with hsame |
    ⟨write, session, ip, hwrite, _, hsession, hip, hsource, honly, _⟩
  · rw [hbefore, hafter] at hsame
    cases hsame
  · exact ⟨write, session, ip, hwrite, hsession, hip, hsource, honly⟩

end Redpill
