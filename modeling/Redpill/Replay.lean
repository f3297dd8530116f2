/-
Replay of authentication messages.  Neither authenticator and none of the
handlers remembers a nonce, so that a server is watched here together with the
messages that were checked and those that were accepted, over all transports
and with the keys as they are.
-/
import Redpill.Revocation

namespace Redpill

/-- What authentication sees of a message. -/
def ClientAuth.tag (auth : ClientAuth) : Bytes32 × Bytes32 :=
  (auth.nonce, auth.mac)

/-- The message that a step checks, and its session. -/
def Server.checked (server : Server) : ServerLabel → Option (Nat × ClientAuth)
  | .session index (.resume .ok) =>
      (server.message index).map fun auth => (index, auth)
  | _ => none

/-- A reload may find the same keys again. -/
def Server.keepsKeys (server : Server) : ServerLabel → Bool
  | .reload (some auth) _ => decide (auth = server.state.auth)
  | _ => true

/-- The server, the messages that were checked so far, and the sessions whose
message was accepted. -/
structure ReplayLog where
  server : Server
  presented : List (Bytes32 × Bytes32)
  accepted : List (Nat × Bytes32 × Bytes32)

namespace ReplayLog

def start (server : Server) : ReplayLog := ⟨server, [], []⟩

/-- Note a message that is checked, and whether its session goes on. -/
def observe (log : ReplayLog) (label : ServerLabel) (next : Server) :
    ReplayLog :=
  match log.server.checked label with
  | none => { log with server := next }
  | some (index, auth) =>
      { server := next
        presented := log.presented ++ [auth.tag]
        accepted :=
          if next.passed index then log.accepted ++ [(index, auth.tag)]
          else log.accepted }

/-- The keys stay as they are. -/
def step (hmac : Hmac) (log : ReplayLog) (label : ServerLabel) :
    Option ReplayLog :=
  if log.server.keepsKeys label then
    (log.server.step hmac label).map (log.observe label)
  else none

/-- No message was accepted twice, and no session is established without a
message that was accepted for it. -/
structure ReplaySafe (log : ReplayLog) : Prop where
  once : (log.accepted.map Prod.snd).Nodup
  established : ∀ (index : Nat) (session : Session),
    log.server.sessions[index]? = some session →
      session.phase.established = true →
        ∃ tag, (index, tag) ∈ log.accepted

/-- The message that is checked was not presented before, or no key produces
it. -/
def fresh (hmac : Hmac) (log : ReplayLog) (label : ServerLabel) : Bool :=
  (log.server.checked label).all fun entry =>
    decide (entry.2.tag ∉ log.presented) ||
      (log.server.state.auth.verify hmac entry.2.nonce entry.2.mac).isNone

end ReplayLog

section Check

variable {hmac : Hmac} {state : ServerState} {session : Session}

/-- The check decides whether the session goes on. -/
theorem Session.resume_ok_verifying {auth : ClientAuth}
    {next : ServerState × Session} (hphase : session.phase = .verifying auth)
    (h : session.resume hmac state .ok = some next) :
    next.2.phase.passed =
      ((session.authMode state).verify hmac auth.nonce auth.mac).isSome := by
  rw [← Session.verify_fst]
  simp only [Session.resume, hphase] at h
  split at h
  · rename_i hverify
    obtain rfl := Option.some.inj h
    rw [hverify]
    exact session.handler.passed_reject
  · rename_i username _ hverify
    obtain rfl := Option.some.inj h
    rw [hverify]
    exact session.handler.passed_afterVerify username

/-- A session leaves the check only by it. -/
theorem Session.step_verifying {index : Nat} {event : SessionEvent}
    {auth : ClientAuth} {next : ServerState × Session}
    (hphase : session.phase = .verifying auth)
    (h : session.step hmac index state event = some next)
    (hpassed : next.2.phase.passed = true) : event = .resume .ok := by
  cases event with
  | resume outcome =>
      cases outcome with
      | ok => rfl
      | fail => simp [Session.step, Session.resume, hphase] at h
      | message chunks => simp [Session.step, Session.resume, hphase] at h
  | receive data now => simp [Session.step, Session.receive, hphase] at h
  | frame now => simp [Session.step, Session.frame, hphase] at h
  | rttSample rtt =>
      obtain rfl := Session.rttSample_cases h
      simp [hphase, Phase.passed] at hpassed
  | forward now =>
      obtain ⟨_, _, rfl⟩ := Session.forward_cases h
      simp [hphase, Phase.passed] at hpassed
  | readTun =>
      obtain ⟨_, _, _, _, _, rfl⟩ := Session.readTun_cases h
      simp [hphase, Phase.passed] at hpassed
  | stopForwarding =>
      obtain rfl := Session.stopForwarding_cases h
      simp [hphase, Phase.passed] at hpassed

theorem Phase.message_eq_some {phase : Phase} {auth : ClientAuth} :
    phase.message = some auth ↔ phase = .verifying auth := by
  cases phase <;> simp [Phase.message]

theorem Server.checked_eq_some {server : Server} {label : ServerLabel}
    {index : Nat} {auth : ClientAuth} :
    server.checked label = some (index, auth) ↔
      label = .session index (.resume .ok) ∧
        server.message index = some auth := by
  unfold Server.checked
  split
  · rename_i checked
    simp only [Option.map_eq_some_iff, Prod.mk.injEq, ServerLabel.session.injEq,
      and_true]
    constructor
    · rintro ⟨_, hmessage, rfl, rfl⟩
      exact ⟨rfl, hmessage⟩
    · rintro ⟨rfl, hmessage⟩
      exact ⟨auth, hmessage, rfl, rfl⟩
  · rename_i hlabel
    constructor
    · intro h
      cases h
    · intro ⟨h, _⟩
      exact absurd h (hlabel index)

/-- A step that checks a message: the session that it is about goes on exactly
if the keys of its mode produce the message. -/
theorem Server.step_checked {server next : Server} {label : ServerLabel}
    {index : Nat} {auth : ClientAuth}
    (hchecked : server.checked label = some (index, auth))
    (hstep : server.step hmac label = some next) :
    ∃ session ∈ server.sessions,
      next.passed index =
        ((session.authMode server.state).verify hmac auth.nonce
          auth.mac).isSome := by
  obtain ⟨rfl, hmessage⟩ := Server.checked_eq_some.mp hchecked
  simp only [Server.step] at hstep
  split at hstep
  · cases hstep
  · rename_i session hsession
    obtain ⟨result, hresume, rfl⟩ := Option.map_eq_some_iff.mp hstep
    rw [WatchedServer.message_eq hsession] at hmessage
    have hphase := Phase.message_eq_some.mp hmessage
    refine ⟨session, List.mem_of_getElem? hsession, ?_⟩
    rw [WatchedServer.passed_eq (Population.getElem?_set_new hsession)]
    exact Session.resume_ok_verifying hphase hresume

end Check

namespace ReplayLog

variable {hmac : Hmac} {auth : AuthMode} {log next : ReplayLog}
  {label : ServerLabel}

/-- The keys that all sessions check with, and what is known of the messages:
accepted are those that were presented and that a key produces. -/
structure Tracked (hmac : Hmac) (auth : AuthMode) (log : ReplayLog) :
    Prop where
  force : log.server.state.auth = auth
  modes : ∀ session ∈ log.server.sessions,
    session.authMode log.server.state = auth
  accepted : ∀ tag, tag ∈ log.accepted.map Prod.snd ↔
    tag ∈ log.presented ∧ (auth.verify hmac tag.1 tag.2).isSome = true
  established : ∀ (index : Nat) (session : Session),
    log.server.sessions[index]? = some session →
      session.phase.established = true →
        ∃ tag, (index, tag) ∈ log.accepted

theorem step_eq_some :
    log.step hmac label = some next ↔
      log.server.keepsKeys label = true ∧
        ∃ server, log.server.step hmac label = some server ∧
          log.observe label server = next := by
  unfold step
  split
  · rename_i hkeeps
    rw [Option.map_eq_some_iff]
    exact ⟨fun h => ⟨hkeeps, h⟩, fun h => h.2⟩
  · rename_i hkeeps
    constructor
    · intro h
      cases h
    · intro h
      exact absurd h.1 hkeeps

theorem observe_server (log : ReplayLog) (label : ServerLabel)
    (next : Server) : (log.observe label next).server = next := by
  unfold observe
  split <;> rfl

theorem observe_unchecked (server : Server)
    (hchecked : log.server.checked label = none) :
    (log.observe label server).presented = log.presented ∧
      (log.observe label server).accepted = log.accepted := by
  simp [observe, hchecked]

theorem step_force {server : Server} (hforce : log.server.state.auth = auth)
    (hkeeps : log.server.keepsKeys label = true)
    (hstep : log.server.step hmac label = some server) :
    server.state.auth = auth := by
  rcases (Server.step_configured hstep).2 with hsame |
    ⟨found, maxConnections, rfl, hreload⟩
  · rw [← hforce]
    exact congrArg Prod.fst hsame
  · have hauth : server.state.auth = found.getD log.server.state.auth :=
      congrArg Prod.fst hreload
    cases found with
    | none => rw [hauth, Option.getD_none, hforce]
    | some mode =>
        have hmode : mode = log.server.state.auth := of_decide_eq_true hkeeps
        rw [hauth, Option.getD_some, hmode, hforce]

/-- New sessions take the keys in force, and old ones keep theirs. -/
theorem step_modes (htracked : log.Tracked hmac auth) {server : Server}
    (hkeeps : log.server.keepsKeys label = true)
    (hstep : log.server.step hmac label = some server) :
    ∀ session ∈ server.sessions, session.authMode server.state = auth := by
  have hforce := step_force htracked.force hkeeps hstep
  have hsame : server.state.auth = log.server.state.auth :=
    hforce.trans htracked.force.symm
  intro session hmem
  obtain ⟨index, hsession⟩ := List.mem_iff_getElem?.mp hmem
  rcases WatchedServer.step_handshake hstep hsession with ⟨handler, rfl⟩ |
    ⟨before, hbefore, hmove⟩
  · rw [← hsame, Session.authMode_start, hforce]
  · rw [Session.authMode_congr hmove.handler hmove.snapshot hsame]
    exact htracked.modes before (List.mem_of_getElem? hbefore)

/-- What is checked is accepted exactly if a key in force produces it. -/
theorem observe_checked (htracked : log.Tracked hmac auth) {server : Server}
    {index : Nat} {message : ClientAuth}
    (hchecked : log.server.checked label = some (index, message))
    (hstep : log.server.step hmac label = some server) :
    (log.observe label server).presented =
        log.presented ++ [message.tag] ∧
      (log.observe label server).accepted =
        if (auth.verify hmac message.nonce message.mac).isSome then
          log.accepted ++ [(index, message.tag)]
        else log.accepted := by
  obtain ⟨session, hmem, hpassed⟩ := Server.step_checked hchecked hstep
  rw [htracked.modes session hmem] at hpassed
  simp [observe, hchecked, hpassed]

theorem observe_accepted (htracked : log.Tracked hmac auth) {server : Server}
    (hstep : log.server.step hmac label = some server)
    (tag : Bytes32 × Bytes32) :
    tag ∈ (log.observe label server).accepted.map Prod.snd ↔
      tag ∈ (log.observe label server).presented ∧
        (auth.verify hmac tag.1 tag.2).isSome = true := by
  have hold := htracked.accepted tag
  cases hchecked : log.server.checked label with
  | none =>
      obtain ⟨hpresented, haccepted⟩ := observe_unchecked server hchecked
      rw [hpresented, haccepted]
      exact hold
  | some entry =>
      obtain ⟨index, message⟩ := entry
      obtain ⟨hpresented, haccepted⟩ :=
        observe_checked htracked hchecked hstep
      rw [hpresented, haccepted]
      by_cases hverify :
          (auth.verify hmac message.nonce message.mac).isSome = true
      · rw [if_pos hverify, List.map_append, List.mem_append, hold,
          List.mem_append]
        simp only [List.map_cons, List.map_nil, List.mem_singleton]
        constructor
        · rintro (⟨hpresent, htag⟩ | rfl)
          · exact ⟨Or.inl hpresent, htag⟩
          · exact ⟨Or.inr rfl, hverify⟩
        · rintro ⟨hpresent | rfl, htag⟩
          · exact Or.inl ⟨hpresent, htag⟩
          · exact Or.inr rfl
      · rw [if_neg hverify, hold, List.mem_append, List.mem_singleton]
        constructor
        · intro ⟨hpresent, htag⟩
          exact ⟨Or.inl hpresent, htag⟩
        · rintro ⟨hpresent | rfl, htag⟩
          · exact ⟨hpresent, htag⟩
          · exact absurd htag hverify

theorem mem_observe_accepted {server : Server}
    {entry : Nat × Bytes32 × Bytes32} (hmem : entry ∈ log.accepted) :
    entry ∈ (log.observe label server).accepted := by
  unfold observe
  split
  · exact hmem
  · split
    · exact List.mem_append_left _ hmem
    · exact hmem

theorem observe_established (htracked : log.Tracked hmac auth)
    {server : Server} (hstep : log.server.step hmac label = some server)
    {index : Nat} {session : Session}
    (hsession : server.sessions[index]? = some session)
    (hestablished : session.phase.established = true) :
    ∃ tag, (index, tag) ∈ (log.observe label server).accepted := by
  rcases WatchedServer.step_session hstep hsession with ⟨handler, rfl⟩ |
    hold | ⟨event, before, state, rfl, hbefore, hmove⟩
  · cases hestablished
  · obtain ⟨tag, hmem⟩ :=
      htracked.established index session hold hestablished
    exact ⟨tag, mem_observe_accepted hmem⟩
  · rcases Session.step_established hmove hestablished with hwas |
      ⟨⟨message, hmessage⟩, hpassed⟩
    · obtain ⟨tag, hmem⟩ :=
        htracked.established index before hbefore hwas
      exact ⟨tag, mem_observe_accepted hmem⟩
    · obtain rfl := Session.step_verifying
        (Phase.message_eq_some.mp hmessage) hmove hpassed
      have hchecked : log.server.checked (.session index (.resume .ok)) =
          some (index, message) :=
        Server.checked_eq_some.mpr
          ⟨rfl, (WatchedServer.message_eq hbefore).trans hmessage⟩
      have hpassed' : server.passed index = true :=
        (WatchedServer.passed_eq hsession).trans hpassed
      exact ⟨message.tag, by simp [observe, hchecked, hpassed']⟩

theorem tracked_step (htracked : log.Tracked hmac auth)
    (hstep : log.step hmac label = some next) : next.Tracked hmac auth := by
  obtain ⟨hkeeps, server, hserver, rfl⟩ := step_eq_some.mp hstep
  have hobserved := log.observe_server label server
  refine ⟨?_, ?_, ?_, ?_⟩
  · rw [hobserved]
    exact step_force htracked.force hkeeps hserver
  · rw [hobserved]
    exact step_modes htracked hkeeps hserver
  · exact observe_accepted htracked hserver
  · rw [hobserved]
    intro index session hsession hestablished
    exact observe_established htracked hserver hsession hestablished

theorem tracked_start (hmac : Hmac) (auth : AuthMode)
    (base serverIp dnsIp : Ipv4Addr)
    (mtu maxConnections maxBandwidthMbps : Nat) :
    (start (Server.start auth base serverIp dnsIp mtu maxConnections
      maxBandwidthMbps)).Tracked hmac auth := by
  refine ⟨rfl, ?_, ?_, ?_⟩
  · intro session hmem
    cases hmem
  · intro tag
    simp [start]
  · intro index session hsession
    cases hsession

/-- One more message is accepted once exactly if it is fresh. -/
theorem once_step (htracked : log.Tracked hmac auth)
    (honce : (log.accepted.map Prod.snd).Nodup)
    (hstep : log.step hmac label = some next) :
    (next.accepted.map Prod.snd).Nodup ↔ log.fresh hmac label = true := by
  obtain ⟨_, server, hserver, rfl⟩ := step_eq_some.mp hstep
  unfold fresh
  rw [htracked.force]
  cases hchecked : log.server.checked label with
  | none =>
      rw [(observe_unchecked server hchecked).2]
      exact ⟨fun _ => rfl, fun _ => honce⟩
  | some entry =>
      obtain ⟨index, message⟩ := entry
      have hmem := htracked.accepted message.tag
      rw [(observe_checked htracked hchecked hserver).2]
      cases hverify : auth.verify hmac message.nonce message.mac with
      | none => simp [honce, hverify]
      | some username =>
          have htag : (auth.verify hmac message.tag.1
              message.tag.2).isSome = true :=
            Option.isSome_iff_exists.mpr ⟨username, hverify⟩
          rw [Option.isSome_some, if_pos rfl, List.map_append,
            List.map_singleton, List.nodup_append_comm,
            List.singleton_append, List.nodup_cons, hmem]
          simp [honce, htag, hverify]

/-- No message is accepted twice in a run exactly if no message that a key
produces is presented again. -/
theorem replay_safe_iff_fresh (hmac : Hmac) (auth : AuthMode)
    (base serverIp dnsIp : Ipv4Addr)
    (mtu maxConnections maxBandwidthMbps : Nat)
    {labels : List ServerLabel} {final : ReplayLog}
    (hrun : Machine.run (step hmac)
      (start (Server.start auth base serverIp dnsIp mtu maxConnections
        maxBandwidthMbps)) labels = some final) :
    Machine.Always (step hmac) ReplaySafe
        (start (Server.start auth base serverIp dnsIp mtu maxConnections
          maxBandwidthMbps)) labels ↔
      Machine.Meets (step hmac)
        (fun log label => log.fresh hmac label = true)
        (start (Server.start auth base serverIp dnsIp mtu maxConnections
          maxBandwidthMbps)) labels := by
  have hstart := tracked_start hmac auth base serverIp dnsIp mtu
    maxConnections maxBandwidthMbps
  apply Machine.always_iff_meets (Tracked hmac auth) _ _ hstart _ hrun
  · intro log label next htracked hstep
    exact tracked_step htracked hstep
  · intro log label next htracked hsafe hstep
    have hnext := tracked_step htracked hstep
    rw [← once_step htracked hsafe.once hstep]
    exact ⟨ReplaySafe.once, fun honce => ⟨honce, hnext.established⟩⟩
  · exact ⟨List.nodup_nil, hstart.established⟩

/-- What can be seen of a run in the end. -/
def summary (log : ReplayLog) :
    List (Nat × Bytes32 × Bytes32) × List Phase :=
  (log.accepted, log.server.sessions.map Session.phase)

/-- `HMAC-SHA256` under the zero key of the nonce of the second client. -/
def secondMac : Bytes32 :=
  ⟨[
    0xfb, 0xe4, 0xb1, 0xdb, 0x0b, 0x7e, 0xe3, 0xc7, 0x40, 0xef, 0xa1,
    0xe8, 0x8e, 0x5a, 0x3b, 0xd3, 0x7e, 0x9e, 0x63, 0xd5, 0x79, 0x27,
    0x52, 0xf5, 0x06, 0x4b, 0x43, 0x55, 0x5f, 0x97, 0xb0, 0xc9],
    rfl⟩

def secondNonce : Bytes32 := .replicate 0x11

/-- Agrees with `HMAC-SHA256` at the zero key and the two nonces. -/
def twoHmac : Hmac := fun _ nonce =>
  if nonce = secondNonce then secondMac else zeroMac

/-- A second client over WebSocket, with a nonce of its own. -/
def connectSecond : List ServerLabel :=
  [.accept .ws, proceed 1,
    .session 1 (.resume (.message
      [(ClientAuth.mk secondNonce secondMac 1).encode])),
    proceed 1, proceed 1, proceed 1, proceed 1, proceed 1]

theorem replay_safe_iff_fresh_two_nonces :
    (Machine.run (step twoHmac) (start zeroServer)
        (connectVpn 0 ++ connectSecond)).map summary =
        some ([(0, zeroBytes32, zeroMac), (1, secondNonce, secondMac)],
          [.tunnelling "default" ⟨10, 0, 1, 2⟩,
            .tunnelling "default" ⟨10, 0, 1, 3⟩]) ∧
      Machine.Always (step twoHmac) ReplaySafe (start zeroServer)
        (connectVpn 0 ++ connectSecond) := by
  have hsummary : (Machine.run (step twoHmac) (start zeroServer)
      (connectVpn 0 ++ connectSecond)).map summary =
      some ([(0, zeroBytes32, zeroMac), (1, secondNonce, secondMac)],
        [.tunnelling "default" ⟨10, 0, 1, 2⟩,
          .tunnelling "default" ⟨10, 0, 1, 3⟩]) := by
    decide
  have hmeets : Machine.Meets (step twoHmac)
      (fun log label => log.fresh twoHmac label = true) (start zeroServer)
      (connectVpn 0 ++ connectSecond) := by
    decide
  obtain ⟨final, hrun, _⟩ := Option.map_eq_some_iff.mp hsummary
  exact ⟨hsummary, (replay_safe_iff_fresh twoHmac zeroAuth ⟨10, 0, 1, 0⟩
    ⟨10, 0, 1, 1⟩ ⟨1, 1, 1, 1⟩ 1200 16 100 hrun).mpr hmeets⟩

/-- The message that opened a session over QUIC opens a second one over
WebSocket. -/
theorem replayed_message_accepted :
    (Machine.run (step zeroHmac) (start zeroServer)
        (connectVpn 0 ++ connectWs 1)).map (fun log =>
          (log.summary, decide (log.accepted.map Prod.snd).Nodup)) =
      some (([(0, zeroBytes32, zeroMac), (1, zeroBytes32, zeroMac)],
        [.tunnelling "default" ⟨10, 0, 1, 2⟩,
          .tunnelling "default" ⟨10, 0, 1, 3⟩]), false) := by
  decide

end ReplayLog

end Redpill
