/-
Handshake agreement.  A handler that reads its first message reaches its tunnel
exactly if the message authenticates, an address is free and the configuration
can be written; and the client reads back the configuration and the later
updates just as they were sent, however the stream is cut into chunks.  Other
sessions run in between: whatever shared state a handler finds at each of its
steps, the outcome is decided by the state that it verifies, allocates and
sends in.
-/
import Redpill.Config
import Redpill.ControlStream
import Redpill.Accounting

namespace Redpill

open ByteStream

/-- What a handshake gets from outside: the first message of the client, as the
chunks in which it arrives, whether the configuration can be written, and the
shared state that the handler finds when it goes on. -/
structure HandshakeInput where
  chunks : List Bytes
  writeOk : Bool
  atVerify : ServerState
  atAllocate : ServerState
  atSendConfig : ServerState
  elsewhere : ServerState

namespace HandshakeInput

def outcome (input : HandshakeInput) : Phase → Outcome
  | .readingAuth => .message input.chunks
  | .sendingConfig _ _ => if input.writeOk then .ok else .fail
  | _ => .ok

def found (input : HandshakeInput) : Phase → ServerState
  | .verifying _ => input.atVerify
  | .allocating _ => input.atAllocate
  | .sendingConfig _ _ => input.atSendConfig
  | _ => input.elsewhere

end HandshakeInput

namespace Session

/-- The authentication mode that a session checks the first message with. -/
def authMode (session : Session) (state : ServerState) : AuthMode :=
  match session.handler with
  | .tcpReality => session.authSnapshot.getD state.auth
  | _ => state.auth

/-- On every transport a message is checked against the keys of the mode. -/
theorem verify_fst (hmac : Hmac) (state : ServerState) (session : Session)
    (auth : ClientAuth) :
    (session.verify hmac state auth).1 =
      (session.authMode state).verify hmac auth.nonce auth.mac := by
  cases hhandler : session.handler with
  | tcpReality =>
      simp only [verify, authMode, hhandler]
      exact AuthMode.verifyAuth_eq_verify _ _ _ _
  | _ => simp only [verify, authMode, hhandler]

end Session

/-- The first message is accepted exactly if its bytes decode, whatever the
chunks and the framing of the transport. -/
theorem Handler.readAuth_map_fst (handler : Handler) (chunks : List Bytes) :
    (handler.readAuth chunks).map Prod.fst =
      ClientAuth.decode chunks.flatten := by
  by_cases hlen : chunks.flatten.length < clientAuthLen
  · rw [ClientAuth.decode_of_length_lt hlen]
    cases handler with
    | ws =>
        rw [readAuth, if_pos hlen]
        rfl
    | _ => simp [readAuth, readExact_of_lt hlen]
  · obtain ⟨rest, hread, _⟩ := readExact_of_le (Nat.le_of_not_lt hlen)
    have htake := ClientAuth.decode_take chunks.flatten
    cases handler with
    | ws =>
        rw [readAuth, if_neg hlen, Option.map_map]
        exact Option.map_id'
    | _ => simp [readAuth, hread, htake, Option.map_map, Function.comp_def]

/-- Every handler admits the clients that its authentication mode does. -/
theorem Session.admits_iff {hmac : Hmac} {state : ServerState}
    {session : Session} {chunks : List Bytes} {username : String} :
    (session.authMode state).Admits hmac chunks.flatten username ↔
      ∃ received, session.handler.readAuth chunks = some received ∧
        (session.verify hmac state received.1).1 = some username := by
  have hread := session.handler.readAuth_map_fst chunks
  constructor
  · intro ⟨clientAuth, hdecode, husername⟩
    rw [hdecode, Option.map_eq_some_iff] at hread
    obtain ⟨received, hreceived, rfl⟩ := hread
    exact ⟨received, hreceived, by rw [Session.verify_fst, husername]⟩
  · intro ⟨received, hreceived, husername⟩
    rw [hreceived] at hread
    rw [Session.verify_fst] at husername
    exact ⟨received.1, hread.symm, husername⟩

section Reaches

variable (hmac : Hmac) (input : HandshakeInput)

/-- The handler goes on by itself; it stays where it has nothing to do. -/
def handshakeStep (session : Session) : Session :=
  ((session.resume hmac (input.found session.phase)
    (input.outcome session.phase)).map Prod.snd).getD session

def handshakeSteps : Nat → Session → Session
  | 0, session => session
  | n + 1, session => handshakeSteps n (handshakeStep hmac input session)

/-- The handler reaches its tunnel, where the session is `final`. -/
def Reaches (session final : Session) : Prop :=
  ∃ n, handshakeSteps hmac input n session = final ∧
    final.phase.isTunnelling = true

variable {hmac input} {session final : Session}

theorem Phase.isTunnelling_iff {phase : Phase} :
    phase.isTunnelling = true ↔
      ∃ username clientIp, phase = .tunnelling username clientIp := by
  constructor
  · intro h
    unfold Phase.isTunnelling at h
    split at h
    · exact ⟨_, _, rfl⟩
    · cases h
  · intro ⟨username, clientIp, h⟩
    rw [h]
    rfl

/-- The tunnel is where the handshake ends. -/
theorem handshakeStep_of_tunnelling (h : session.phase.isTunnelling = true) :
    handshakeStep hmac input session = session := by
  obtain ⟨username, clientIp, hphase⟩ := Phase.isTunnelling_iff.mp h
  simp [handshakeStep, Session.resume, hphase, HandshakeInput.outcome]

theorem handshakeSteps_of_tunnelling (h : session.phase.isTunnelling = true)
    (n : Nat) : handshakeSteps hmac input n session = session := by
  induction n with
  | zero => rfl
  | succ n ih => rw [handshakeSteps, handshakeStep_of_tunnelling h, ih]

theorem reaches_of_tunnelling (h : session.phase.isTunnelling = true) :
    Reaches hmac input session final ↔ final = session := by
  constructor
  · intro ⟨n, hsteps, _⟩
    rw [← hsteps, handshakeSteps_of_tunnelling h]
  · intro heq
    rw [heq]
    exact ⟨0, rfl, h⟩

theorem reaches_step :
    Reaches hmac input session final ↔
      Reaches hmac input (handshakeStep hmac input session) final := by
  constructor
  · intro ⟨n, hsteps, htunnel⟩
    cases n with
    | zero =>
        have hsame : session = final := hsteps
        rw [hsame, handshakeStep_of_tunnelling htunnel]
        exact ⟨0, rfl, htunnel⟩
    | succ n => exact ⟨n, hsteps, htunnel⟩
  · intro ⟨n, hsteps, htunnel⟩
    exact ⟨n + 1, hsteps, htunnel⟩

/-- The phases from which no handler returns to its tunnel. -/
def Phase.closing : Phase → Bool
  | .releasing _ => true
  | .proxying => true
  | .returning => true
  | .returned => true
  | _ => false

theorem Handler.reject_closing (handler : Handler) :
    handler.reject.closing = true := by
  cases handler <;> rfl

theorem closing_step (h : session.phase.closing = true) :
    (handshakeStep hmac input session).phase.closing = true := by
  cases hphase : session.phase with
  | releasing clientIp =>
      simp [handshakeStep, Session.resume, hphase, HandshakeInput.outcome,
        Session.goto, Phase.closing]
  | proxying =>
      simp [handshakeStep, Session.resume, hphase, HandshakeInput.outcome,
        Phase.closing]
  | returning =>
      cases hguards : session.guards with
      | nil =>
          simp [handshakeStep, Session.resume, hphase, hguards,
            HandshakeInput.outcome, Session.goto, Phase.closing]
      | cons guard rest =>
          simp [handshakeStep, Session.resume, hphase, hguards,
            HandshakeInput.outcome, Phase.closing]
  | returned =>
      rw [handshakeStep, Session.resume_returned _ _ _ _ hphase]
      exact h
  | _ => simp [hphase, Phase.closing] at h

theorem not_reaches_of_closing (h : session.phase.closing = true) :
    ¬ Reaches hmac input session final := by
  intro ⟨n, hsteps, htunnel⟩
  have hclosing : (handshakeSteps hmac input n session).phase.closing = true := by
    clear hsteps
    induction n generalizing session with
    | zero => exact h
    | succ n ih => exact ih (closing_step h)
  obtain ⟨username, clientIp, hphase⟩ := Phase.isTunnelling_iff.mp htunnel
  rw [hsteps, hphase] at hclosing
  cases hclosing

section Steps

variable {username : String} {clientIp : Ipv4Addr}

theorem step_readingAuth {auth : ClientAuth} {rest : Bytes}
    (hphase : session.phase = .readingAuth)
    (hread : session.handler.readAuth input.chunks = some (auth, rest)) :
    handshakeStep hmac input session =
      { session.goto (.verifying auth) with received := rest } := by
  simp [handshakeStep, Session.resume, hphase, HandshakeInput.outcome, hread]

theorem step_readingAuth_none (hphase : session.phase = .readingAuth)
    (hread : session.handler.readAuth input.chunks = none) :
    handshakeStep hmac input session = session.goto session.handler.reject := by
  simp [handshakeStep, Session.resume, hphase, HandshakeInput.outcome, hread]

/-- A message is checked with the mode of the session, whichever of the two
verification functions the handler calls. -/
theorem step_verifying_eq {auth : ClientAuth}
    (hphase : session.phase = .verifying auth) :
    handshakeStep hmac input session =
      session.goto
        (((session.authMode input.atVerify).verify hmac auth.nonce
          auth.mac).elim session.handler.reject
            fun username => session.handler.afterVerify username) := by
  rw [← session.verify_fst hmac input.atVerify auth]
  cases hverify : session.verify hmac input.atVerify auth with
  | mk username state =>
      cases username with
      | none =>
          simp [handshakeStep, Session.resume, hphase, HandshakeInput.outcome,
            HandshakeInput.found, hverify]
      | some username =>
          simp [handshakeStep, Session.resume, hphase, HandshakeInput.outcome,
            HandshakeInput.found, hverify]

theorem step_verifying {auth : ClientAuth}
    (hphase : session.phase = .verifying auth)
    (hverify : (session.authMode input.atVerify).verify hmac auth.nonce
      auth.mac = some username) :
    handshakeStep hmac input session =
      session.goto (session.handler.afterVerify username) := by
  rw [step_verifying_eq hphase, hverify]
  rfl

theorem step_verifying_none {auth : ClientAuth}
    (hphase : session.phase = .verifying auth)
    (hverify : (session.authMode input.atVerify).verify hmac auth.nonce
      auth.mac = none) :
    handshakeStep hmac input session = session.goto session.handler.reject := by
  rw [step_verifying_eq hphase, hverify]
  rfl

theorem step_allocating {pool : IpPool}
    (hphase : session.phase = .allocating username)
    (hallocate : input.atAllocate.ipPool.allocate = some (clientIp, pool)) :
    handshakeStep hmac input session =
      { session.goto (session.handler.afterAllocate username clientIp) with
        assigned := some clientIp } := by
  simp [handshakeStep, Session.resume, hphase, HandshakeInput.outcome,
    HandshakeInput.found, hallocate]

theorem step_allocating_none (hphase : session.phase = .allocating username)
    (hallocate : input.atAllocate.ipPool.allocate = none) :
    handshakeStep hmac input session = session.goto .returning := by
  simp [handshakeStep, Session.resume, hphase, HandshakeInput.outcome,
    HandshakeInput.found, hallocate]

theorem step_sendingConfig
    (hphase : session.phase = .sendingConfig username clientIp)
    (hwrite : input.writeOk = true) :
    handshakeStep hmac input session =
      { session.goto (session.handler.afterSendConfig username clientIp) with
        config := some (input.atSendConfig.sessionConfig session.handler
          clientIp) } := by
  simp [handshakeStep, Session.resume, hphase, HandshakeInput.outcome,
    HandshakeInput.found, hwrite]

theorem step_sendingConfig_fail
    (hphase : session.phase = .sendingConfig username clientIp)
    (hwrite : input.writeOk = false) :
    handshakeStep hmac input session = session.goto (.releasing clientIp) := by
  simp [handshakeStep, Session.resume, hphase, HandshakeInput.outcome, hwrite]

theorem step_registering
    (hphase : session.phase = .registering username clientIp) :
    handshakeStep hmac input session =
      { session.guarded (.clientHandle clientIp)
          (session.handler.afterRegister username clientIp) with
        queue := some (input.elsewhere.router.register clientIp
          session.handler.channelSize).2 } := by
  simp only [handshakeStep, Session.resume, hphase, HandshakeInput.outcome]
  rfl

theorem step_countingConnection
    (hphase : session.phase = .countingConnection username clientIp) :
    handshakeStep hmac input session =
      session.guarded .connection (.countingSession username clientIp) := by
  simp only [handshakeStep, Session.resume, hphase, HandshakeInput.outcome]
  rfl

theorem step_countingSession
    (hphase : session.phase = .countingSession username clientIp) :
    handshakeStep hmac input session =
      session.guarded (.session username)
        (session.handler.afterCountSession username clientIp) := by
  simp only [handshakeStep, Session.resume, hphase, HandshakeInput.outcome]
  rfl

theorem step_openingSession (hphase : session.phase = .openingSession username) :
    handshakeStep hmac input session =
      session.guarded (.session username) (.allocating username) := by
  simp only [handshakeStep, Session.resume, hphase, HandshakeInput.outcome]
  rfl

/-- The user is recorded by a guard. -/
def Session.Records (username : String) (session : Session) : Prop :=
  .session username ∈ session.guards

/-- A handler in its tunnel, with the user that it has recorded and the
configuration that it has sent. -/
structure Session.Tunnels (username : String) (clientIp : Ipv4Addr)
    (config : Option SessionConfig) (session : Session) : Prop where
  phase : session.phase = .tunnelling username clientIp
  records : session.Records username
  config : session.config = config

/-- There is one tunnel that the handler reaches, and it is such. -/
def LeadsTo (hmac : Hmac) (input : HandshakeInput) (session : Session)
    (tunnels : Session → Prop) : Prop :=
  ∃ tunnel, tunnels tunnel ∧
    ∀ final, Reaches hmac input session final ↔ final = tunnel

theorem LeadsTo.of_iff {next : Session} {tunnels : Session → Prop}
    (hiff : ∀ final, Reaches hmac input session final ↔
      Reaches hmac input next final)
    (h : LeadsTo hmac input next tunnels) :
    LeadsTo hmac input session tunnels := by
  obtain ⟨tunnel, htunnel, hreaches⟩ := h
  refine ⟨tunnel, htunnel, ?_⟩
  intro final
  rw [hiff]
  exact hreaches final

theorem LeadsTo.of_step {tunnels : Session → Prop}
    (h : LeadsTo hmac input (handshakeStep hmac input session) tunnels) :
    LeadsTo hmac input session tunnels :=
  h.of_iff fun _ => reaches_step

theorem leadsTo_tunnelling
    (hphase : session.phase = .tunnelling username clientIp)
    (hrecords : session.Records username) :
    LeadsTo hmac input session
      (Session.Tunnels username clientIp session.config) := by
  refine ⟨session, ⟨hphase, hrecords, rfl⟩, ?_⟩
  intro final
  exact reaches_of_tunnelling (Phase.isTunnelling_iff.mpr ⟨_, _, hphase⟩)

/-- After the configuration was sent, nothing keeps a handler from its tunnel.
The QUIC handlers have recorded the user before, the others do so now. -/
theorem leadsTo_after_config
    (hphase : session.phase =
      session.handler.afterSendConfig username clientIp)
    (hrecords : session.handler.limited = true → session.Records username) :
    LeadsTo hmac input session
      (Session.Tunnels username clientIp session.config) := by
  cases hhandler : session.handler with
  | vpn =>
      rw [hhandler] at hphase hrecords
      exact leadsTo_tunnelling hphase (hrecords rfl)
  | vpnH3 =>
      rw [hhandler] at hphase hrecords
      exact leadsTo_tunnelling hphase (hrecords rfl)
  | tcpReality =>
      rw [hhandler] at hphase
      apply LeadsTo.of_step
      rw [step_countingConnection hphase]
      apply LeadsTo.of_step
      rw [step_countingSession rfl]
      apply LeadsTo.of_step
      rw [step_registering
        (congrArg (Handler.afterCountSession username clientIp) hhandler)]
      exact leadsTo_tunnelling
        (congrArg (Handler.afterRegister username clientIp) hhandler)
        (List.mem_cons_of_mem _ List.mem_cons_self)
  | ws =>
      rw [hhandler] at hphase
      apply LeadsTo.of_step
      rw [step_countingConnection hphase]
      apply LeadsTo.of_step
      rw [step_countingSession rfl]
      exact leadsTo_tunnelling
        (congrArg (Handler.afterCountSession username clientIp) hhandler)
        List.mem_cons_self

theorem leadsTo_sendingConfig
    (hphase : session.phase = .sendingConfig username clientIp)
    (hrecords : session.handler.limited = true → session.Records username)
    (hwrite : input.writeOk = true) :
    LeadsTo hmac input session (Session.Tunnels username clientIp
      (some (input.atSendConfig.sessionConfig session.handler clientIp))) := by
  apply LeadsTo.of_step
  rw [step_sendingConfig hphase hwrite]
  exact leadsTo_after_config rfl hrecords

theorem writeOk_of_sendingConfig
    (hphase : session.phase = .sendingConfig username clientIp)
    (h : Reaches hmac input session final) : input.writeOk = true := by
  cases hwrite : input.writeOk with
  | true => rfl
  | false =>
      rw [reaches_step, step_sendingConfig_fail hphase hwrite] at h
      exact absurd h (not_reaches_of_closing rfl)

/-- A message that decodes takes the handler to the verification. -/
theorem verifying_after_read {auth : ClientAuth} {rest : Bytes}
    (hphase : session.phase = .readingAuth)
    (hread : session.handler.readAuth input.chunks = some (auth, rest)) :
    ∃ next : Session, next.handler = session.handler ∧
      (∀ state, next.authMode state = session.authMode state) ∧
      next.phase = .verifying auth ∧
      ∀ final, Reaches hmac input session final ↔
        Reaches hmac input next final := by
  refine ⟨handshakeStep hmac input session, ?_⟩
  refine ⟨?_, ?_, ?_, fun _ => reaches_step⟩
  all_goals rw [step_readingAuth hphase hread]
  · rfl
  · intro state
    rfl
  · rfl

/-- After the verification, a handler comes to the allocation, at once or by
way of its session guard. -/
theorem allocating_after_verify (session : Session) (username : String) :
    ∃ next : Session, next.handler = session.handler ∧
      next.phase = .allocating username ∧
      (next.handler.limited = true → next.Records username) ∧
      ∀ final, Reaches hmac input
          (session.goto (session.handler.afterVerify username)) final ↔
        Reaches hmac input next final := by
  cases hhandler : session.handler with
  | tcpReality =>
      refine ⟨session.goto (.allocating username), hhandler, rfl, ?_,
        fun _ => Iff.rfl⟩
      intro hlimited
      rw [show (session.goto (.allocating username)).handler = .tcpReality from
        hhandler] at hlimited
      cases hlimited
  | ws =>
      refine ⟨session.goto (.allocating username), hhandler, rfl, ?_,
        fun _ => Iff.rfl⟩
      intro hlimited
      rw [show (session.goto (.allocating username)).handler = .ws from
        hhandler] at hlimited
      cases hlimited
  | _ =>
      refine ⟨_, ?_, ?_, ?_, fun _ => reaches_step⟩
      all_goals rw [step_openingSession rfl]
      · exact hhandler
      · rfl
      · intro _
        exact List.mem_cons_self

/-- After the allocation, a handler comes to the write of the configuration,
at once or by way of the registration. -/
theorem sendingConfig_after_allocate (session : Session) (username : String)
    (clientIp : Ipv4Addr) :
    ∃ next : Session, next.handler = session.handler ∧
      next.phase = .sendingConfig username clientIp ∧
      (session.Records username → next.Records username) ∧
      ∀ final, Reaches hmac input
          { session.goto (session.handler.afterAllocate username clientIp) with
            assigned := some clientIp } final ↔
        Reaches hmac input next final := by
  cases hhandler : session.handler with
  | tcpReality =>
      exact ⟨{ session.goto (.sendingConfig username clientIp) with
        assigned := some clientIp }, hhandler, rfl, id, fun _ => Iff.rfl⟩
  | ws =>
      exact ⟨{ session.goto (.sendingConfig username clientIp) with
        assigned := some clientIp }, hhandler, rfl, id, fun _ => Iff.rfl⟩
  | _ =>
      refine ⟨_, ?_, ?_, ?_, fun _ => reaches_step⟩
      all_goals rw [step_registering rfl]
      · exact hhandler
      · exact congrArg (Handler.afterRegister username clientIp) hhandler
      · intro hrecords
        exact List.mem_cons_of_mem _ hrecords

end Steps

/-- What a successful handshake found: a message that decodes and verifies, a
free address and a configuration that could be written. -/
structure HandshakeInput.Succeeds (hmac : Hmac) (input : HandshakeInput)
    (session : Session) (auth : ClientAuth) (username : String)
    (clientIp : Ipv4Addr) : Prop where
  decodes : ClientAuth.decode input.chunks.flatten = some auth
  verifies : (session.authMode input.atVerify).verify hmac auth.nonce auth.mac =
    some username
  allocates : ∃ pool,
    input.atAllocate.ipPool.allocate = some (clientIp, pool)
  writes : input.writeOk = true

variable {auth : ClientAuth} {username : String} {clientIp : Ipv4Addr}

theorem succeeds_leadsTo (hphase : session.phase = .readingAuth)
    (h : input.Succeeds hmac session auth username clientIp) :
    LeadsTo hmac input session (Session.Tunnels username clientIp
      (some (input.atSendConfig.sessionConfig session.handler clientIp))) := by
  have hdecodes := session.handler.readAuth_map_fst input.chunks
  rw [h.decodes, Option.map_eq_some_iff] at hdecodes
  obtain ⟨⟨_, rest⟩, hread, rfl⟩ := hdecodes
  obtain ⟨pool, hallocate⟩ := h.allocates
  obtain ⟨verifying, hhandler, hmode, hverifying, hiff⟩ :=
    verifying_after_read hphase hread
  apply LeadsTo.of_iff hiff
  have hverify := h.verifies
  rw [← hmode] at hverify
  apply LeadsTo.of_step
  rw [step_verifying hverifying hverify]
  obtain ⟨allocating, hhandler', hallocating, hrecords, hiff⟩ :=
    allocating_after_verify verifying username
  apply LeadsTo.of_iff hiff
  apply LeadsTo.of_step
  rw [step_allocating hallocating hallocate]
  obtain ⟨sending, hhandler'', hsending, hkept, hiff⟩ :=
    sendingConfig_after_allocate allocating username clientIp
  apply LeadsTo.of_iff hiff
  have hsame : sending.handler = session.handler :=
    hhandler''.trans (hhandler'.trans hhandler)
  rw [← hsame]
  apply leadsTo_sendingConfig hsending _ h.writes
  intro hlimited
  rw [hhandler''] at hlimited
  exact hkept (hrecords hlimited)

theorem succeeds_of_reaches (hphase : session.phase = .readingAuth)
    (h : Reaches hmac input session final) :
    ∃ auth username clientIp,
      input.Succeeds hmac session auth username clientIp := by
  cases hread : session.handler.readAuth input.chunks with
  | none =>
      rw [reaches_step, step_readingAuth_none hphase hread] at h
      exact absurd h (not_reaches_of_closing session.handler.reject_closing)
  | some read =>
      obtain ⟨verifying, _, hmode, hverifying, hiff⟩ :=
        verifying_after_read hphase hread
      rw [hiff] at h
      cases hverify : (verifying.authMode input.atVerify).verify hmac
          read.1.nonce read.1.mac with
      | none =>
          rw [reaches_step, step_verifying_none hverifying hverify] at h
          exact absurd h
            (not_reaches_of_closing verifying.handler.reject_closing)
      | some username =>
          rw [reaches_step, step_verifying hverifying hverify] at h
          obtain ⟨allocating, _, hallocating, _, hiff⟩ :=
            allocating_after_verify verifying username
          rw [hiff] at h
          cases hallocate : input.atAllocate.ipPool.allocate with
          | none =>
              rw [reaches_step, step_allocating_none hallocating hallocate] at h
              exact absurd h (not_reaches_of_closing rfl)
          | some allocated =>
              rw [reaches_step, step_allocating hallocating hallocate] at h
              obtain ⟨sending, _, hsending, _, hiff⟩ :=
                sendingConfig_after_allocate allocating username allocated.1
              rw [hiff] at h
              have hdecodes := session.handler.readAuth_map_fst input.chunks
              rw [hread] at hdecodes
              rw [hmode] at hverify
              exact ⟨read.1, username, allocated.1, hdecodes.symm, hverify,
                ⟨allocated.2, hallocate⟩, writeOk_of_sendingConfig hsending h⟩

theorem succeeds_iff (auth : ClientAuth) :
    (∃ username clientIp,
        input.Succeeds hmac session auth username clientIp) ↔
      ClientAuth.decode input.chunks.flatten = some auth ∧
        (∃ entry ∈ (session.authMode input.atVerify).keys,
          hmac entry.1 auth.nonce = auth.mac) ∧
        (∃ host, 2 ≤ host ∧ host ≤ 254 ∧
          host ∉ input.atAllocate.ipPool.allocated) ∧
        input.writeOk = true := by
  rw [← IpPool.allocate_isSome_iff]
  constructor
  · intro ⟨username, clientIp, h⟩
    obtain ⟨psk, hmem, htag⟩ := AuthMode.exists_key_of_verify h.verifies
    obtain ⟨pool, hallocate⟩ := h.allocates
    exact ⟨h.decodes, ⟨(psk, username), hmem, htag⟩, by rw [hallocate]; rfl,
      h.writes⟩
  · intro ⟨hdecodes, ⟨entry, hmem, htag⟩, hfree, hwrites⟩
    obtain ⟨username, hverify⟩ := AuthMode.verify_isSome_of_mem hmem htag
    obtain ⟨⟨clientIp, pool⟩, hallocate⟩ := Option.isSome_iff_exists.mp hfree
    exact ⟨username, clientIp, hdecodes, hverify, ⟨pool, hallocate⟩, hwrites⟩

/-- A tunnel that is reached is the one that the success describes. -/
theorem tunnels_of_reaches (hphase : session.phase = .readingAuth)
    (h : Reaches hmac input session final) :
    ∃ auth username clientIp,
      input.Succeeds hmac session auth username clientIp ∧
      final.Tunnels username clientIp
        (some (input.atSendConfig.sessionConfig session.handler clientIp)) := by
  obtain ⟨auth, username, clientIp, hsucceeds⟩ := succeeds_of_reaches hphase h
  obtain ⟨tunnel, htunnel, hreaches⟩ := succeeds_leadsTo hphase hsucceeds
  rw [hreaches] at h
  rw [← h] at htunnel
  exact ⟨auth, username, clientIp, hsucceeds, htunnel⟩

end Reaches

/-- The user that a successful handshake finds is that of the client's own key,
unless another stored key makes the same tag. -/
theorem HandshakeInput.Succeeds.own_name {hmac : Hmac} {input : HandshakeInput}
    {session : Session} {auth : ClientAuth} {username name : String}
    {clientIp : Ipv4Addr} {psk : Bytes32}
    (h : input.Succeeds hmac session auth username clientIp)
    (hmem : (psk, name) ∈ (session.authMode input.atVerify).keys)
    (htag : hmac psk auth.nonce = auth.mac)
    (hunique : ∀ entry ∈ (session.authMode input.atVerify).keys,
      hmac entry.1 auth.nonce = hmac psk auth.nonce → entry.1 = psk) :
    username = name := by
  have hverify := AuthMode.verify_eq_of_no_collision hmem hunique
  rw [htag, h.verifies] at hverify
  exact Option.some.inj hverify

/-- The configuration that a server sends is that of its configuration file. -/
theorem ServerState.ConfiguredBy.sessionConfig {isSocketAddr : String → Bool}
    {config : ServerConfig} {state : ServerState}
    (h : state.ConfiguredBy config)
    (hvalid : config.validate isSocketAddr = .ok ()) (handler : Handler)
    (clientIp : Ipv4Addr) :
    (state.sessionConfig handler clientIp).mtu = config.mtu := by
  obtain ⟨_, _, _, _, ⟨_, hmtu⟩, _⟩ := ServerConfig.validate_eq_ok.mp hvalid
  have hlt : config.mtu < 65536 := by omega
  rw [← h.mtu] at hlt ⊢
  exact Nat.mod_eq_of_lt hlt

/-- The two sides of a handshake agree.  For any keys, any shared state that the
handler finds and any first message, on each transport: the tunnel is reached
exactly if the message decodes, a stored key makes its tag, an address is free
and the configuration can be written; the recorded user has such a key, and is
the client's own unless keys collide; a tag made with a stored key always
verifies; and the client reads the recorded configuration, and on QUIC the
updates that follow. -/
theorem handshake_agreement (hmac : Hmac) (input : HandshakeInput)
    (session : Session) (hphase : session.phase = .readingAuth) :
    ((∃ final, Reaches hmac input session final) ↔
      ∃ auth, ClientAuth.decode input.chunks.flatten = some auth ∧
        (∃ entry ∈ (session.authMode input.atVerify).keys,
          hmac entry.1 auth.nonce = auth.mac) ∧
        (∃ host, 2 ≤ host ∧ host ≤ 254 ∧
          host ∉ input.atAllocate.ipPool.allocated) ∧
        input.writeOk = true) ∧
    (∀ final, Reaches hmac input session final →
      ∃ auth username clientIp,
        ClientAuth.decode input.chunks.flatten = some auth ∧
        final.phase = .tunnelling username clientIp ∧
        .session username ∈ final.guards ∧
        (∃ psk, (psk, username) ∈ (session.authMode input.atVerify).keys ∧
          hmac psk auth.nonce = auth.mac) ∧
        (∀ psk name, (psk, name) ∈ (session.authMode input.atVerify).keys →
          hmac psk auth.nonce = auth.mac →
          (∀ entry ∈ (session.authMode input.atVerify).keys,
            hmac entry.1 auth.nonce = hmac psk auth.nonce → entry.1 = psk) →
          username = name) ∧
        clientIp = input.atAllocate.ipPool.address clientIp.d ∧
        clientIp.d ∉ input.atAllocate.ipPool.allocated ∧
        final.config =
          some (input.atSendConfig.sessionConfig session.handler clientIp)) ∧
    (∀ (client : PskAuthenticator) (name : String) (nonce : Bytes32)
        (version : UInt8) (rest : Bytes),
      (client.psk, name) ∈ (session.authMode input.atVerify).keys →
      input.chunks.flatten =
        (ClientAuth.mk nonce (client.computeMac hmac nonce) version).encode ++
          rest →
      ∃ auth username,
        (session.handler.readAuth input.chunks).map Prod.fst = some auth ∧
        (session.verify hmac input.atVerify auth).1 = some username) ∧
    (∀ (isSocketAddr : String → Bool) (config : ServerConfig),
      config.validate isSocketAddr = .ok () →
      config.Running hmac input.atSendConfig →
      ∀ final, Reaches hmac input session final →
        ∃ recorded, final.config = some recorded ∧
          final.phase.held = some recorded.clientIp ∧
          parseIpv4Addr config.tunAddress = some recorded.serverIp ∧
          parseIpv4Addr config.dns = some recorded.dnsIp ∧
          recorded.mtu = config.mtu ∧ recorded.keepaliveSecs = 10 ∧
          recorded.flags = session.handler.flags ∧
          ∀ (received : List Bytes) (tail : Bytes),
            received.flatten = recorded.encode ++ tail →
            ∃ rest, session.handler.readConfig received = some (recorded, rest) ∧
              (session.handler.limited = true →
                ∀ (lastMtu : Nat) (samples : List PmtuSample) (cut : Bytes),
                  cut.length < sessionUpdateLen →
                  tail = (runPmtuMonitor lastMtu samples).flatMap
                    SessionUpdate.encode ++ cut →
                  readSessionUpdates rest = runPmtuMonitor lastMtu samples)) := by
  refine ⟨?_, ?_, ?_, ?_⟩
  · constructor
    · intro ⟨final, hreaches⟩
      obtain ⟨auth, hsucceeds⟩ := succeeds_of_reaches hphase hreaches
      exact ⟨auth, (succeeds_iff auth).mp hsucceeds⟩
    · intro ⟨auth, hconditions⟩
      obtain ⟨username, clientIp, hsucceeds⟩ :=
        (succeeds_iff auth).mpr hconditions
      obtain ⟨tunnel, _, hreaches⟩ := succeeds_leadsTo hphase hsucceeds
      exact ⟨tunnel, (hreaches tunnel).mpr rfl⟩
  · intro final hreaches
    obtain ⟨auth, username, clientIp, hsucceeds, htunnel⟩ :=
      tunnels_of_reaches hphase hreaches
    obtain ⟨pool, hallocate⟩ := hsucceeds.allocates
    obtain ⟨haddress, hfree, _⟩ := IpPool.allocate_eq_some hallocate
    refine ⟨auth, username, clientIp, hsucceeds.decodes, htunnel.phase,
      htunnel.records, AuthMode.exists_key_of_verify hsucceeds.verifies, ?_,
      haddress, hfree, htunnel.config⟩
    intro psk name hmem htag hunique
    exact hsucceeds.own_name hmem htag hunique
  · intro client name nonce version rest hmem hflat
    obtain ⟨username, hverify⟩ :=
      AuthMode.verify_isSome_of_mem hmem (rfl : hmac client.psk nonce = _)
    refine ⟨⟨nonce, client.computeMac hmac nonce, version⟩, username, ?_, ?_⟩
    · rw [Handler.readAuth_map_fst]
      exact ClientAuth.decode_eq_some.mpr ⟨rest, hflat⟩
    · rw [Session.verify_fst]
      exact hverify
  · intro isSocketAddr config hvalid hrunning final hreaches
    obtain ⟨auth, username, clientIp, _, htunnel⟩ :=
      tunnels_of_reaches hphase hreaches
    have hconfigured := hrunning.configuredBy
    refine ⟨_, htunnel.config, ?_, hconfigured.serverIp, hconfigured.dnsIp,
      hconfigured.sessionConfig hvalid _ _, rfl, rfl, ?_⟩
    · rw [htunnel.phase]
      rfl
    · intro received tail hflat
      obtain ⟨rest, hread, hrest⟩ :=
        session.handler.readConfig_of_flatten hflat
      refine ⟨rest, hread, ?_⟩
      intro hlimited lastMtu samples cut hcut htail
      apply readSessionUpdates_of_flatten _ hcut
      rw [hrest, htail]
      intro hws
      rw [hws] at hlimited
      cases hlimited

/-- The server of the default configuration, with the zero key. -/
def defaultServer : Server :=
  Server.start zeroAuth ⟨10, 0, 1, 0⟩ ⟨10, 0, 1, 1⟩ ⟨1, 1, 1, 1⟩ 1200 64 0

/-- A client with the zero key, whose message arrives in two chunks. -/
def zeroHandshake : HandshakeInput where
  chunks := [(ClientAuth.mk zeroBytes32 zeroMac 1).encode.take 10,
    (ClientAuth.mk zeroBytes32 zeroMac 1).encode.drop 10]
  writeOk := true
  atVerify := defaultServer.state
  atAllocate := defaultServer.state
  atSendConfig := defaultServer.state
  elsewhere := defaultServer.state

/-- The client of the default server reaches a tunnel, and reads an MTU of 1200
and then an update to 1400. -/
theorem handshake_agreement_default_server :
    ∃ final recorded rest,
      Reaches zeroHmac zeroHandshake
        ((Session.start .vpn zeroAuth).goto .readingAuth) final ∧
      final.config = some recorded ∧ recorded.mtu = 1200 ∧
      Handler.vpn.readConfig [recorded.encode, [3, 5], [120]] =
        some (recorded, rest) ∧
      readSessionUpdates rest = [⟨1400, by decide⟩] := by
  have hstart : ServerConfig.default.startServer zeroAuth =
      some defaultServer := by
    have htun : parseIpv4Addr ServerConfig.default.tunAddress =
        some ⟨10, 0, 1, 1⟩ := by decide
    have hdns : parseIpv4Addr ServerConfig.default.dns = some ⟨1, 1, 1, 1⟩ := by
      decide
    rw [ServerConfig.startServer, htun, hdns]
    rfl
  obtain ⟨hestablished, _, _, hconfig⟩ := handshake_agreement zeroHmac
    zeroHandshake ((Session.start .vpn zeroAuth).goto .readingAuth) rfl
  have hdecodes : ClientAuth.decode zeroHandshake.chunks.flatten =
      some ⟨zeroBytes32, zeroMac, 1⟩ := by
    decide
  obtain ⟨final, hfinal⟩ := hestablished.mpr ⟨_, hdecodes,
    ⟨(zeroBytes32, "default"), List.mem_singleton.mpr rfl, rfl⟩,
    ⟨2, by decide, by decide, by decide⟩, rfl⟩
  have hvalid : ServerConfig.default.validate (fun _ => true) = .ok () :=
    ServerConfig.validate_default rfl rfl
  obtain ⟨recorded, hrecorded, _, _, _, hmtu, _, _, hread⟩ :=
    hconfig (fun _ => true) ServerConfig.default hvalid
      ⟨zeroAuth, defaultServer, defaultServer, hstart,
        Machine.Reachable.refl _ _, rfl⟩ final hfinal
  obtain ⟨rest, hrest, hupdates⟩ :=
    hread [recorded.encode, [3, 5], [120]] [3, 5, 120] (by simp)
  have hmonitor : runPmtuMonitor 1200 [⟨1400, by decide, true⟩] =
      [⟨1400, by decide⟩] := by
    decide
  have happlied := hupdates rfl 1200 [⟨1400, by decide, true⟩] [] (by decide)
  rw [hmonitor] at happlied
  exact ⟨final, recorded, rest, hfinal, hrecorded, hmtu, hrest,
    happlied (by decide)⟩

end Redpill
